import StillMotion.Number.Notation

/-!
# Scalars

Times, positions and opacities are computed with one set of operations, which doubles provide
when the library runs and rational numbers provide when it is reasoned about.  An operation
that can leave the scalars reports an `ArithmeticFault`; the rational numbers never do, except
for a zero divisor.
-/

namespace StillMotion.Number

inductive ArithmeticFault where
  | divisionByZero
  | infinityToInteger
  | nanToInteger
  | integerTooLarge
  | powerTooLarge
  | quotientTooLarge
  /-- An integer of more digits than are written. -/
  | integerTooWide
deriving DecidableEq, Repr

/-- The operations that times and positions are computed with. -/
class Scalar (α : Type) extends Add α, Sub α, Mul α, Div α, Neg α, OfScientific α, LE α, LT α where
  decLE : DecidableLE α
  decLT : DecidableLT α
  /-- The scalar nearest to an integer. -/
  ofInt? : Int → Except ArithmeticFault α
  /-- The third power. -/
  cube? : α → Except ArithmeticFault α
  /-- The nearest integer, a tie going to the even one. -/
  round? : α → Except ArithmeticFault Int
  /-- The quotient of two integers. -/
  quotient? : Int → Int → Except ArithmeticFault α
  /-- The order of an integer and a scalar, exactly, when there is one. -/
  compareInt? : Int → α → Option Ordering
  /-- At most six significant digits. -/
  brief : α → List Char

attribute [reducible, instance] Scalar.decLE Scalar.decLT

/-- Sine and cosine of a part of a quarter turn: `sine p` is the sine of `p` quarter turns. -/
class QuarterTurn (α : Type) where
  sine : α → α
  cosine : α → α

def least {α : Type} [Scalar α] (a b : α) : α := if b < a then b else a

def greatest {α : Type} [Scalar α] (a b : α) : α := if a < b then b else a

/-! ## Doubles -/

namespace Double

def ofInt? (n : Int) : Except ArithmeticFault Float :=
  match Number.ofInt? n with
  | some x => .ok x
  | none => .error .integerTooLarge

/-- The third power; a finite number whose power is out of range has none. -/
def cube? (x : Float) : Except ArithmeticFault Float :=
  let y := Float.pow x 3.0
  if isFinite x && !isFinite y then .error .powerTooLarge else .ok y

def round? (x : Float) : Except ArithmeticFault Int :=
  match classify x with
  | .nan => .error .nanToInteger
  | .infinite _ => .error .infinityToInteger
  | .finite p => .ok p.round

def truncate? (x : Float) : Except ArithmeticFault Int :=
  match classify x with
  | .nan => .error .nanToInteger
  | .infinite _ => .error .infinityToInteger
  | .finite p => .ok p.truncate

def quotient? (a b : Int) : Except ArithmeticFault Float :=
  if b == 0 then .error .divisionByZero
  else
    let x := ofRatio ((a < 0) != (b < 0)) a.natAbs b.natAbs
    if isFinite x then .ok x else .error .quotientTooLarge

def pi : Float := 3.141592653589793

end Double

instance : Scalar Float where
  decLE := inferInstance
  decLT := inferInstance
  ofInt? := Double.ofInt?
  cube? := Double.cube?
  round? := Double.round?
  quotient? := Double.quotient?
  compareInt? := compareInt?
  brief := briefText

instance : QuarterTurn Float where
  sine p := Float.sin (p * Double.pi / 2.0)
  cosine p := Float.cos (p * Double.pi / 2.0)

/-! ## Rational numbers -/

namespace Exact

/-- The integer nearest to a rational number, a tie going to the even one. -/
def round (x : Rat) : Int :=
  let m : Int := roundDiv x.num.natAbs x.den
  if x.num < 0 then -m else m

def quotient? (a b : Int) : Except ArithmeticFault Rat :=
  if b == 0 then .error .divisionByZero else .ok ((a : Rat) / (b : Rat))

def signed (magnitude : Nat → Nat → List Char) (x : Rat) : List Char :=
  (if x.num < 0 then ['-'] else []) ++ magnitude x.num.natAbs x.den

def brief (x : Rat) : List Char := signed briefMagnitude x

def fixed (places : Nat) (x : Rat) : List Char := signed (fixedMagnitude places) x

end Exact

instance : Scalar Rat where
  decLE := inferInstance
  decLT := inferInstance
  ofInt? n := .ok n
  cube? x := .ok (x * x * x)
  round? x := .ok (Exact.round x)
  quotient? := Exact.quotient?
  compareInt? n x := some (if (n : Rat) < x then .lt else if (n : Rat) = x then .eq else .gt)
  brief := Exact.brief

end StillMotion.Number
