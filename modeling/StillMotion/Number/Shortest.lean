import StillMotion.Number.Binary

/-!
# Fewest digits that read back

A double is written with the fewest decimal digits that denote it.  The reals that round to a
double form an interval, whose ends belong to it when the mantissa is even.  For one digit,
two digits and so on, up to seventeen, the two neighbours of the value on that decimal grid
are tried; the first grid with a neighbour inside the interval is taken, and of two
neighbours the nearer, a tie going to the even digits.
-/

namespace StillMotion.Number

/-- `digits * 10 ^ exponent`, the digits as one natural number. -/
structure Decimal where
  digits : Nat
  exponent : Int
deriving DecidableEq, Repr

/-- The interval of reals that round to a double, with the double inside, over a common
denominator. -/
structure Interval where
  low : Nat
  value : Nat
  high : Nat
  denominator : Nat
  closed : Bool

def Parts.interval (p : Parts) : Interval :=
  let below := if p.mantissa == Nat.pow 2 52 && minExponent < p.exponent then 1 else 2
  let (s, d) := scaled 2 1 1 (p.exponent - 2)
  { low := (4 * p.mantissa - below) * s
    value := 4 * p.mantissa * s
    high := (4 * p.mantissa + 2) * s
    denominator := d
    closed := p.mantissa % 2 == 0 }

/-- Whether `n / d` lies in the interval. -/
def Interval.mem (i : Interval) (n d : Nat) : Bool :=
  let x := n * i.denominator
  if i.closed then i.low * d ≤ x && x ≤ i.high * d else i.low * d < x && x < i.high * d

/-- The number of decimal digits of a natural number, at least one. -/
def digitCount (n : Nat) : Nat := (Nat.toDigits 10 n).length

/-- The least `j` at most `fuel` with `den ≤ num * 10 ^ j`. -/
def leadingZeros (den : Nat) : Nat → Nat → Nat
  | 0, _ => 0
  | fuel + 1, num => if den ≤ num then 0 else leadingZeros den fuel (10 * num) + 1

/-- The exponent `k` with `10 ^ (k - 1) ≤ num / den < 10 ^ k`, for a positive quotient. -/
def decimalExponent (num den : Nat) : Int :=
  if den ≤ num then digitCount (num / den)
  else 1 - (leadingZeros den 400 num : Int)

/-- The point of the grid `10 ^ e` that stands for the value, when one does. -/
def Interval.onGrid? (i : Interval) (e : Int) : Option Nat :=
  let (n, d) := scaled 10 i.value i.denominator (-e)
  let low := n / d
  let high := low + 1
  let inside (m : Nat) : Bool := let (a, b) := scaled 10 m 1 e; i.mem a b
  match inside low, inside high with
  | false, false => none
  | true, false => some low
  | false, true => some high
  | true, true => some (roundDiv n d)

/-- The first grid with a point inside the interval, starting from `count` digits. -/
def Interval.search (i : Interval) (k : Int) : Nat → Nat → Decimal
  | 0, count => ⟨((i.onGrid? (k - count)).getD 0), k - count⟩
  | fuel + 1, count =>
      match i.onGrid? (k - count) with
      | some digits => ⟨digits, k - count⟩
      | none => i.search k fuel (count + 1)

def Decimal.normalize (d : Decimal) : Decimal :=
  if d.digits == 0 then ⟨0, 0⟩
  else go 30 d
where
  go : Nat → Decimal → Decimal
    | 0, d => d
    | fuel + 1, d => if d.digits % 10 == 0 then go fuel ⟨d.digits / 10, d.exponent + 1⟩ else d

def Parts.shortest (p : Parts) : Decimal :=
  if p.mantissa == 0 then ⟨0, 0⟩
  else
    let i := p.interval
    (i.search (decimalExponent i.value i.denominator) 16 1).normalize

end StillMotion.Number
