import StillMotion.Number.Notation
import StillMotion.Number.Scalar

/-!
# Names and times of artifacts

Files are named by the millisecond of their making and a random tag, so that names of different
runs do not collide.  Times of creation are written in coordinated universal time; they lie a number
of microseconds after the beginning of the year 1970.
-/

namespace StillMotion

open StillMotion.Number

structure Timestamp where
  year : Nat
  month : Nat
  day : Nat
  hour : Nat
  minute : Nat
  second : Nat
  microsecond : Nat
deriving DecidableEq, Repr

namespace Timestamp

/-- The instant as text; microseconds are written when there are any. -/
def text (t : Timestamp) : String :=
  s!"{padded 4 t.year}-{padded 2 t.month}-{padded 2 t.day}T{padded 2 t.hour}:" ++
    s!"{padded 2 t.minute}:{padded 2 t.second}" ++
    (if t.microsecond == 0 then "" else "." ++ padded 6 t.microsecond) ++ "Z"

/-! ## The calendar

Days are counted from the first of March of a year divisible by 400, so that leap days come last. -/

/-- Days from the first of March of the year 0 to the first of January 1970. -/
def epochOffset : Nat := 719468

def daysPerEra : Nat := 146097

def yearOfEra (day : Nat) : Nat := (day - day / 1460 + day / 36524 - day / 146096) / 365

def daysBefore (year : Nat) : Nat := 365 * year + year / 4 - year / 100

def dateOfDay (days : Nat) : Nat × Nat × Nat :=
  let shifted := days + epochOffset
  let day := shifted % daysPerEra
  let year := yearOfEra day
  let dayOfYear := day - daysBefore year
  let march := (5 * dayOfYear + 2) / 153
  let month := if march < 10 then march + 3 else march - 9
  let whole := year + 400 * (shifted / daysPerEra)
  (if month ≤ 2 then whole + 1 else whole, month, dayOfYear - (153 * march + 2) / 5 + 1)

def ofMicroseconds (count : Nat) : Timestamp :=
  let seconds := count / 1000000
  let (year, month, day) := dateOfDay (seconds / 86400)
  let inDay := seconds % 86400
  ⟨year, month, day, inDay / 3600, inDay / 60 % 60, inDay % 60, count % 1000000⟩

end Timestamp

namespace Artifact

def milliseconds (time : Float) : Except ArithmeticFault Int := Double.truncate? (time * 1000.0)

def tagLength : Nat := 8

def tag (identifier : String) : String := String.ofList (identifier.toList.take tagLength)

def name (start ending : String) (millisecond : Int) (identifier : String) : String :=
  s!"{start}-{millisecond}-{tag identifier}{ending}"

end Artifact

end StillMotion
