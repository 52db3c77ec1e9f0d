import StillMotion.Data.Misfit

/-!
# Operations on values

Arithmetic and order on values whose kinds are not known beforehand.  A truth value counts as one
or zero.  Integers stay exact, and become doubles only beside a double or as a quotient.
-/

namespace StillMotion

open StillMotion.Number

inductive Operator where
  | add
  | subtract
  | multiply
  | divide
  | floorDivide
  | remainder
  | power
deriving DecidableEq, Repr

def Operator.symbol : Operator → String
  | .add => "+"
  | .subtract => "-"
  | .multiply => "*"
  | .divide => "/"
  | .floorDivide => "//"
  | .remainder => "%"
  | .power => "** or pow()"

/-! ## Numbers -/

inductive Numeric where
  | int (n : Int)
  | float (x : Float)

namespace Numeric

def toValue : Numeric → Value
  | .int n => .int n
  | .float x => .float x

def toFloat? : Numeric → Except Misfit Float
  | .float x => .ok x
  | .int n => match Number.ofInt? n with
      | some x => .ok x
      | none => .error .integerTooLarge

def toFloat : Numeric → Float
  | .float x => x
  | .int n => Number.ofInt n

/-- The order of two numbers, exactly; nothing when one of them is no number. -/
def compare? : Numeric → Numeric → Option Ordering
  | .int m, .int n => some (compare m n)
  | .int m, .float y => compareInt? m y
  | .float x, .int n => (compareInt? n x).map Ordering.swap
  | .float x, .float y =>
      if x < y then some .lt else if y < x then some .gt else if x == y then some .eq else none

end Numeric

def remainderOf (x y : Parts) : Float :=
  let e := min x.exponent y.exponent
  let a := x.mantissa * Nat.pow 2 (x.exponent - e).toNat
  let b := y.mantissa * Nat.pow 2 (y.exponent - e).toNat
  let (n, d) := scaled 2 (a % b) 1 e
  ofRatio x.negative n d

def floorParts (x y : Float) : Float × Float :=
  let r := match classify x, classify y with
    | .finite p, .finite q => remainderOf p q
    | .finite _, .infinite _ => x
    | _, _ => notANumber
  let quotient := (x - r) / y
  let (r, quotient) :=
    if r == 0.0 then ((if y < 0.0 then -0.0 else 0.0), quotient)
    else if (y < 0.0) != (r < 0.0) then (r + y, quotient - 1.0)
    else (r, quotient)
  let whole :=
    if quotient == 0.0 then (if x / y < 0.0 then -0.0 else 0.0)
    else
      let low := quotient.floor
      if 0.5 < quotient - low then low + 1.0 else low
  (whole, r)

def powerBits : Nat := 10000000

def integerResult (operator : Operator) (m n : Int) : Except Misfit Numeric :=
  match operator with
  | .add => .ok (.int (m + n))
  | .subtract => .ok (.int (m - n))
  | .multiply => .ok (.int (m * n))
  | .divide =>
      if n == 0 then .error (.zeroDivisor "division by zero")
      else
        let x := ofRatio ((m < 0) != (n < 0)) m.natAbs n.natAbs
        if isFinite x then .ok (.float x) else .error .quotientTooLarge
  | .floorDivide =>
      if n == 0 then .error (.zeroDivisor "integer division or modulo by zero")
      else .ok (.int (m.fdiv n))
  | .remainder =>
      if n == 0 then .error (.zeroDivisor "integer modulo by zero") else .ok (.int (m.fmod n))
  | .power =>
      if n < 0 then
        if m == 0 then .error (.zeroDivisor "0.0 cannot be raised to a negative power")
        else do
          let x ← (Numeric.int m).toFloat?
          let y ← (Numeric.int n).toFloat?
          .ok (.float (Float.pow x y))
      else if powerBits < m.natAbs.log2 * n.natAbs then .error (.kindOf "MemoryError" "")
      else .ok (.int (Int.pow m n.natAbs))

def floatResult (operator : Operator) (x y : Float) : Except Misfit Float :=
  match operator with
  | .add => .ok (x + y)
  | .subtract => .ok (x - y)
  | .multiply => .ok (x * y)
  | .divide => if y == 0.0 then .error (.zeroDivisor "float division by zero") else .ok (x / y)
  | .floorDivide =>
      if y == 0.0 then .error (.zeroDivisor "float floor division by zero")
      else .ok (floorParts x y).1
  | .remainder =>
      if y == 0.0 then .error (.zeroDivisor "float modulo") else .ok (floorParts x y).2
  | .power =>
      if x == 0.0 && y < 0.0 then .error (.zeroDivisor "0.0 cannot be raised to a negative power")
      else
        let z := Float.pow x y
        if isFinite x && isFinite y && !isFinite z then .error .powerTooLarge else .ok z

def numericResult (operator : Operator) : Numeric → Numeric → Except Misfit Numeric
  | .int m, .int n => integerResult operator m n
  | a, b => do
      let x ← a.toFloat?
      let y ← b.toFloat?
      (floatResult operator x y).map .float

inductive Comparison where
  | less
  | atMost
  | greater
  | atLeast
deriving DecidableEq, Repr

def Comparison.symbol : Comparison → String
  | .less => "<"
  | .atMost => "<="
  | .greater => ">"
  | .atLeast => ">="

def Comparison.admits : Comparison → Ordering → Bool
  | .less, o => o == .lt
  | .atMost, o => o != .gt
  | .greater, o => o == .gt
  | .atLeast, o => o != .lt

namespace Value

/-- The number that a value counts as. -/
def numeric? : Value → Option Numeric
  | .bool b => some (.int (if b then 1 else 0))
  | .int n => some (.int n)
  | .float x => some (.float x)
  | _ => none

def integer? : Value → Option Int
  | .bool b => some (if b then 1 else 0)
  | .int n => some n
  | _ => none

/-! ## Arithmetic -/

def repeated? : Value → Int → Option Value
  | .str s, n => some (.str (String.join (List.replicate n.toNat s)))
  | .list items, n => some (.list (List.replicate n.toNat items).flatten)
  | _, _ => none

def isSequence : Value → Bool
  | .str _ => true
  | .list _ => true
  | _ => false

def combine (operator : Operator) (a b : Value) : Except Misfit Value :=
  let misfit : Misfit := .operands operator.symbol a.kindName b.kindName
  match a.numeric?, b.numeric? with
  | some m, some n => (numericResult operator m n).map Numeric.toValue
  | _, _ =>
      match operator with
      | .add =>
          match a, b with
          | .str s, .str t => .ok (.str (s ++ t))
          | .list xs, .list ys => .ok (.list (xs ++ ys))
          | .str _, b => .error (.concatenation "str" b.kindName)
          | .list _, b => .error (.concatenation "list" b.kindName)
          | _, _ => .error misfit
      | .multiply =>
          if a.isSequence then
            match b.integer?.bind a.repeated? with
            | some v => .ok v
            | none => .error (.repetition b.kindName)
          else if b.isSequence then
            match a.integer?.bind b.repeated? with
            | some v => .ok v
            | none => .error (.repetition a.kindName)
          else .error misfit
      | _ => .error misfit

def negated (v : Value) : Except Misfit Value :=
  match v.numeric? with
  | some (.int n) => .ok (.int (-n))
  | some (.float x) => .ok (.float (-x))
  | none => .error (.unary "unary -" v.kindName)

/-! ## Equality and order -/

mutual

/-- Whether two values are equal; numbers are compared by size. -/
def same : Value → Value → Bool
  | .list xs, .list ys => sameItems xs ys
  | .mapping xs, .mapping ys => xs.length == ys.length && sameEntries xs ys
  | .str s, .str t => s == t
  | .stamp s, .stamp t => s == t
  | .null, .null => true
  | a, b => match a.numeric?, b.numeric? with
      | some m, some n => m.compare? n == some .eq
      | _, _ => false

def sameItems : List Value → List Value → Bool
  | [], [] => true
  | x :: xs, y :: ys => same x y && sameItems xs ys
  | _, _ => false

def sameEntries : Entries → Entries → Bool
  | [], _ => true
  | (key, x) :: xs, ys =>
      (match Entries.get? ys key with
        | some y => same x y
        | none => false) && sameEntries xs ys

end

def withoutSame : List Value → List Value → List Value × List Value
  | x :: xs, y :: ys => if same x y then withoutSame xs ys else (x :: xs, y :: ys)
  | xs, ys => (xs, ys)

/-- Compare two values; lists by their first difference.  `depth` bounds the nesting. -/
def compareIn (comparison : Comparison) : Nat → Value → Value → Except Misfit Bool
  | 0, a, b => .error (.unordered comparison.symbol a.kindName b.kindName)
  | depth + 1, a, b =>
      match a.numeric?, b.numeric? with
      | some m, some n => .ok ((m.compare? n).any comparison.admits)
      | _, _ => match a, b with
          | .str s, .str t => .ok (comparison.admits (compare s t))
          | .list xs, .list ys => match withoutSame xs ys with
              | (x :: _, y :: _) => compareIn comparison depth x y
              | (xs, ys) => .ok (comparison.admits (compare xs.length ys.length))
          | a, b => .error (.unordered comparison.symbol a.kindName b.kindName)

def compareBy (comparison : Comparison) (a b : Value) : Except Misfit Bool :=
  compareIn comparison 1000 a b

def least (a b : Value) : Except Misfit Value :=
  return if ← compareBy .less b a then b else a

def greatest (a b : Value) : Except Misfit Value :=
  return if ← compareBy .greater b a then b else a

/-! ## Texts of numbers -/

def brief (v : Value) : Except Misfit String :=
  match v with
  | .str _ => .error (.formatCode "g" "str")
  | v => match v.numeric? with
      | some n => return String.ofList (briefText (← n.toFloat?))
      | none => .error (.formatting v.kindName)

end Value

end StillMotion
