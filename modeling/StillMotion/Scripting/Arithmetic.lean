import StillMotion.Scripting.Token

/-!
# Arithmetic in scripts

Whole numbers of sixty-four bits with the usual operators; a name stands for the number that
its value is.  An expression may begin with an assignment.
-/

namespace StillMotion.Scripting.Arithmetic

open StillMotion.Text

abbrev Values := String → String

abbrev Step := Except ExpressionFault (Int × List Char)

def skipSpace (cs : List Char) : List Char :=
  cs.dropWhile fun c => c == ' ' || c == '\t' || c == '\n'

/-! ## Words of sixty-four bits -/

def wordCount : Nat := 0x10000000000000000

def greatestWord : Nat := 0x7FFFFFFFFFFFFFFF

/-- An integer as far as it fits into a word. -/
def wrapped (n : Int) : Int := Int.bmod n wordCount

def onBits (operation : Nat → Nat → Nat) (a b : Int) : Int :=
  wrapped (operation (a % wordCount).toNat (b % wordCount).toNat)

/-! ## Numbers and names -/

def limited (n : Nat) : Int := min n greatestWord

def numeral (cs : List Char) : Int × List Char :=
  match cs with
  | '0' :: 'x' :: rest =>
      let digits := rest.takeWhile fun c => (hexValue? c).isSome
      (limited (baseValue 16 digits), rest.drop digits.length)
  | '0' :: rest =>
      let digits := rest.takeWhile fun c => '0' ≤ c && c ≤ '7'
      (limited (baseValue 8 digits), rest.drop digits.length)
  | cs =>
      let digits := cs.takeWhile isAsciiDigit
      (limited (digitsValue digits), cs.drop digits.length)

/-- The number that the value of a name is; a missing value is zero. -/
def valueOfText (text : String) : Except ExpressionFault Int :=
  let (isNegative, cs) := match skipSpace text.toList with
    | '-' :: rest => (true, rest)
    | '+' :: rest => (false, rest)
    | cs => (false, cs)
  let (n, rest) := numeral cs
  if !rest.isEmpty then .error (.illegalNumber text)
  else .ok (if isNegative then -n else n)

/-! ## Operators -/

def levels : List (List String) :=
  [["||"], ["&&"], ["|"], ["^"], ["&"], ["==", "!="], ["<=", ">=", "<", ">"], ["<<", ">>"],
   ["+", "-"], ["*", "/", "%"]]

def truth (b : Bool) : Int := if b then 1 else 0

/-- The distance of a shift, of which only six bits count. -/
def distance (n : Int) : Nat := (n % 64).toNat

def combined (op : String) (a b : Int) : Except ExpressionFault Int :=
  match op with
  | "||" => .ok (truth (a != 0 || b != 0))
  | "&&" => .ok (truth (a != 0 && b != 0))
  | "|" => .ok (onBits (· ||| ·) a b)
  | "^" => .ok (onBits (· ^^^ ·) a b)
  | "&" => .ok (onBits (· &&& ·) a b)
  | "==" => .ok (truth (a == b))
  | "!=" => .ok (truth (a != b))
  | "<=" => .ok (truth (a ≤ b))
  | ">=" => .ok (truth (b ≤ a))
  | "<" => .ok (truth (a < b))
  | ">" => .ok (truth (b < a))
  | "<<" => .ok (wrapped (a * (Nat.pow 2 (distance b) : Nat)))
  | ">>" => .ok (Int.fdiv a (Nat.pow 2 (distance b) : Nat))
  | "+" => .ok (wrapped (a + b))
  | "-" => .ok (wrapped (a - b))
  | "*" => .ok (wrapped (a * b))
  | "/" => if b == 0 then .error .divisionByZero else .ok (wrapped (Int.tdiv a b))
  | "%" => if b == 0 then .error .divisionByZero else .ok (Int.tmod a b)
  | _ => .error .primaryExpected

def operatorAt? (ops : List String) (cs : List Char) : Option (String × List Char) :=
  ops.findSome? fun op => (dropLead? op.toList cs).bind fun rest =>
    if op.length == 1 && (rest.head? == op.toList.head?) && (op == "|" || op == "&") then none
    else some (op, rest)

mutual

def level (values : Values) : Nat → List (List String) → List Char → Step
  | 0, _, _ => .error .primaryExpected
  | fuel + 1, [], cs => operand values fuel cs
  | fuel + 1, ops :: tighter, cs => do
      let (first, rest) ← level values fuel tighter cs
      chain values fuel ops tighter first rest
termination_by structural fuel => fuel

def chain (values : Values) : Nat → List String → List (List String) → Int → List Char → Step
  | 0, _, _, _, _ => .error .primaryExpected
  | fuel + 1, ops, tighter, first, cs =>
      match operatorAt? ops (skipSpace cs) with
      | none => .ok (first, cs)
      | some (op, rest) => do
          let (second, rest) ← level values fuel tighter rest
          let result ← combined op first second
          chain values fuel ops tighter result rest
termination_by structural fuel => fuel

def choice (values : Values) : Nat → List Char → Step
  | 0, _ => .error .primaryExpected
  | fuel + 1, cs => do
      let (condition, rest) ← level values fuel levels cs
      match skipSpace rest with
      | '?' :: rest => do
          let (yes, rest) ← choice values fuel rest
          match skipSpace rest with
          | ':' :: rest => do
              let (no, rest) ← choice values fuel rest
              .ok (if condition == 0 then no else yes, rest)
          | _ => .error .colonExpected
      | _ => .ok (condition, rest)
termination_by structural fuel => fuel

def operand (values : Values) : Nat → List Char → Step
  | 0, _ => .error .primaryExpected
  | fuel + 1, cs =>
      match skipSpace cs with
      | '(' :: rest => do
          let (n, rest) ← choice values fuel rest
          match skipSpace rest with
          | ')' :: rest => .ok (n, rest)
          | _ => .error .parenthesisExpected
      | '-' :: rest => (operand values fuel rest).map fun (n, rest) => (wrapped (-n), rest)
      | '+' :: rest => operand values fuel rest
      | '!' :: rest => (operand values fuel rest).map fun (n, rest) => (truth (n == 0), rest)
      | '~' :: rest => (operand values fuel rest).map fun (n, rest) => (-n - 1, rest)
      | [] => .error .primaryExpected
      | c :: rest =>
          if isAsciiDigit c then .ok (numeral (c :: rest))
          else if isNameStart c then do
            let word := (c :: rest).takeWhile isNameChar
            let n ← valueOfText (values (String.ofList word))
            .ok (n, (c :: rest).drop word.length)
          else .error .primaryExpected
termination_by structural fuel => fuel

end

/-! ## Expressions -/

def plainValue (values : Values) (cs : List Char) : Except ExpressionFault Int := do
  let (n, rest) ← choice values (16 * (cs.length + 2)) cs
  if (skipSpace rest).isEmpty then .ok n else .error .endExpected

def assigning : List String := ["<<", ">>", "+", "-", "*", "/", "%", "&", "|", "^"]

def assignment? (cs : List Char) : Option (String × Option String × List Char) :=
  let cs := skipSpace cs
  let word := cs.takeWhile isNameChar
  let rest := skipSpace (cs.drop word.length)
  if !(word.head?.any isNameStart) then none
  else match rest with
    | '=' :: '=' :: _ => none
    | '=' :: rest => some (String.ofList word, none, rest)
    | rest => assigning.findSome? fun op =>
        (dropLead? (op ++ "=").toList rest).map fun rest => (String.ofList word, some op, rest)

def value (values : Values) (text : String) : Except ExpressionFault (Int × Option String) :=
  let cs := text.toList
  if (skipSpace cs).isEmpty then .ok (0, none)
  else match assignment? cs with
    | none => (plainValue values cs).map fun n => (n, none)
    | some (name, op?, rest) => do
        let n ← plainValue values rest
        match op? with
        | none => .ok (n, some name)
        | some op => do
            let before ← valueOfText (values name)
            let result ← combined op before n
            .ok (result, some name)

end StillMotion.Scripting.Arithmetic
