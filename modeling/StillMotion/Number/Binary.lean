/-!
# Doubles as exact numbers

A finite double is a sign and `mantissa * 2 ^ exponent`.  `classify` reads that off the bits
and `ofRatio` goes back: it is the double nearest to a quotient of two natural numbers, a tie
going to the even mantissa.  Everything else the library does with the text of numbers is
exact arithmetic on these two.
-/

namespace StillMotion.Number

def digitLimit : Nat := 4300

/-- A finite double: sign, mantissa below `2 ^ 53` and binary exponent. -/
structure Parts where
  negative : Bool
  mantissa : Nat
  exponent : Int
deriving DecidableEq, Repr

inductive Class where
  | finite (parts : Parts)
  | infinite (negative : Bool)
  | nan
deriving DecidableEq, Repr

def minExponent : Int := -1074

def classifyBits (bits : UInt64) : Class :=
  let n := bits.toNat
  let negative := n / Nat.pow 2 63 == 1
  let biased : Nat := n / Nat.pow 2 52 % 2048
  let fraction : Nat := n % Nat.pow 2 52
  if biased == 2047 then
    if fraction == 0 then .infinite negative else .nan
  else if biased == 0 then .finite ⟨negative, fraction, minExponent⟩
  else .finite ⟨negative, Nat.pow 2 52 + fraction, (biased : Int) - 1075⟩

def classify (x : Float) : Class := classifyBits x.toBits

def infinity (negative : Bool) : Float :=
  Float.ofBits (if negative then 0xFFF0000000000000 else 0x7FF0000000000000)

def notANumber : Float := Float.ofBits 0x7FF8000000000000

def isFinite (x : Float) : Bool :=
  match classify x with
  | .finite _ => true
  | _ => false

/-! ## Rounding -/

/-- The integer nearest to `num / den`, a tie going to the even one. -/
def roundDiv (num den : Nat) : Nat :=
  let q := num / den
  let r := num % den
  if 2 * r < den then q
  else if den < 2 * r then q + 1
  else if q % 2 == 0 then q else q + 1

/-- `num * base ^ e / den` as a quotient of natural numbers, for an exponent of either sign. -/
def scaled (base : Nat) (num den : Nat) (e : Int) : Nat × Nat :=
  if e < 0 then (num, den * Nat.pow base e.natAbs) else (num * Nat.pow base e.natAbs, den)

/-- The exponent that gives `num / den` a mantissa of fifty-three bits, or the least one. -/
def exponentOf (num den : Nat) : Int :=
  let guess : Int := (Nat.log2 num : Int) - (Nat.log2 den : Int) - 52
  let (n, d) := scaled 2 num den (-guess)
  let e := if n < d * Nat.pow 2 52 then guess - 1 else guess
  max e minExponent

def ofParts (negative : Bool) (mantissa : Nat) (exponent : Int) : Float :=
  let signBit := if negative then Nat.pow 2 63 else 0
  let (m, e) := if mantissa == Nat.pow 2 53 then (Nat.pow 2 52, exponent + 1)
    else (mantissa, exponent)
  if 971 < e then infinity negative
  else if m < Nat.pow 2 52 then Float.ofBits (UInt64.ofNat (signBit + m))
  else Float.ofBits (UInt64.ofNat (signBit + (e + 1075).toNat * Nat.pow 2 52 + (m - Nat.pow 2 52)))

/-- The double nearest to `num / den`; beyond the greatest double the result is infinite. -/
def ofRatio (negative : Bool) (num den : Nat) : Float :=
  if num == 0 then ofParts negative 0 minExponent
  else
    let e := exponentOf num den
    let (n, d) := scaled 2 num den (-e)
    ofParts negative (roundDiv n d) e

def ofInt (n : Int) : Float := ofRatio (n < 0) n.natAbs 1

def ofInt? (n : Int) : Option Float :=
  let x := ofInt n
  if isFinite x then some x else none

def Parts.ratio (p : Parts) : Nat × Nat := scaled 2 p.mantissa 1 p.exponent

/-- The integer nearest to a finite double, a tie going to the even one. -/
def Parts.round (p : Parts) : Int :=
  let (n, d) := p.ratio
  let m : Int := roundDiv n d
  if p.negative then -m else m

def Parts.truncate (p : Parts) : Int :=
  let (n, d) := p.ratio
  let m : Int := ((n / d : Nat) : Int)
  if p.negative then -m else m

def Parts.isIntegral (p : Parts) : Bool :=
  let (n, d) := p.ratio
  n % d == 0

/-- The order of an integer and a double, exactly; `none` when the double is no number. -/
def compareInt? (n : Int) (x : Float) : Option Ordering :=
  match classify x with
  | .nan => none
  | .infinite negative => some (if negative then .gt else .lt)
  | .finite p =>
      let (num, den) := p.ratio
      let scaledFloat : Int := if p.negative then -(num : Int) else num
      some (compare (n * den) scaledFloat)

end StillMotion.Number
