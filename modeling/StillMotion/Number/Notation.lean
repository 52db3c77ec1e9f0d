import StillMotion.Number.Shortest

/-!
# Written numbers

The ways this library writes a double: with the fewest digits (files, data), with six
significant digits (messages) and with a fixed number of places (timings).  The decisions of
each format are in one `Style` value; the digits come from exact arithmetic.
-/

namespace StillMotion.Number

structure Words where
  nan : String
  infinity : String

structure Style where
  /-- Least and greatest decimal exponent written positionally. -/
  least : Int
  greatest : Int
  /-- Whether a whole number keeps a point and a zero. -/
  keepsPoint : Bool
  words : Words

def zerosText (n : Nat) : List Char := List.replicate n '0'

def natDigits (n : Nat) : List Char := Nat.toDigits 10 n

/-- An exponent with its sign and at least two digits. -/
def exponentText (e : Int) : List Char :=
  let ds := natDigits e.natAbs
  let sign := if e < 0 then '-' else '+'
  sign :: (zerosText (2 - ds.length) ++ ds)

/-- Lay out the digits of a decimal, whose leading digit stands at `lead`. -/
def Style.layout (style : Style) (digits : List Char) (lead : Int) : List Char :=
  if style.least ≤ lead && lead ≤ style.greatest then
    if lead < 0 then '0' :: '.' :: (zerosText (lead.natAbs - 1) ++ digits)
    else
      let whole := lead.natAbs + 1
      if digits.length ≤ whole then
        digits ++ zerosText (whole - digits.length) ++ (if style.keepsPoint then ['.', '0'] else [])
      else digits.take whole ++ '.' :: digits.drop whole
  else
    let mantissa := match digits with
      | [] => []
      | [d] => [d]
      | d :: ds => d :: '.' :: ds
    mantissa ++ 'e' :: exponentText lead

def Style.text (style : Style) (d : Decimal) : List Char :=
  let digits := natDigits d.digits
  style.layout digits (if d.digits == 0 then 0 else d.exponent + digits.length - 1)

def signed (words : Words) (magnitude : Parts → List Char) (x : Float) : List Char :=
  match classify x with
  | .nan => words.nan.toList
  | .infinite negative => (if negative then ['-'] else []) ++ words.infinity.toList
  | .finite p => (if p.negative then ['-'] else []) ++ magnitude p

/-! ## Fewest digits -/

/-- Numbers in running text: positional from four places after the point to sixteen before,
and a whole number keeps its point. -/
def plain : Style := ⟨-4, 15, true, ⟨"nan", "inf"⟩⟩

def dataWords : Words := ⟨"NaN", "Infinity"⟩

def plainText (x : Float) : List Char :=
  signed plain.words (fun p => plain.text p.shortest) x

def dataText (x : Float) : List Char :=
  signed dataWords (fun p => plain.text p.shortest) x

/-! ## Significant digits -/

def brief : Style := ⟨-4, 5, false, ⟨"nan", "inf"⟩⟩

/-- A positive quotient rounded to `count` significant digits, a tie going to even digits. -/
def significant (count : Nat) (num den : Nat) : Decimal :=
  let e := decimalExponent num den - count
  let (n, d) := scaled 10 num den (-e)
  Decimal.normalize ⟨roundDiv n d, e⟩

def briefMagnitude (num den : Nat) : List Char :=
  if num == 0 then ['0'] else brief.text (significant 6 num den)

def briefText (x : Float) : List Char :=
  signed brief.words (fun p => let (n, d) := p.ratio; briefMagnitude n d) x

/-! ## Fixed places -/

/-- A quotient with `places` digits after the point, a tie going to the even digit. -/
def fixedMagnitude (places : Nat) (num den : Nat) : List Char :=
  let m := roundDiv (num * Nat.pow 10 places) den
  let ds := natDigits m
  let ds := zerosText (places + 1 - ds.length) ++ ds
  let whole := ds.length - places
  ds.take whole ++ (if places == 0 then [] else '.' :: ds.drop whole)

def fixedText (places : Nat) (x : Float) : List Char :=
  signed brief.words (fun p => let (n, d) := p.ratio; fixedMagnitude places n d) x

/-- A number with at least `width` digits. -/
def padded (width n : Nat) : String :=
  let ds := natDigits n
  String.ofList (zerosText (width - ds.length) ++ ds)

end StillMotion.Number
