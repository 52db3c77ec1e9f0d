import StillMotion.Number.Binary
import StillMotion.Text.Blank
import StillMotion.Text.Digit
import StillMotion.Text.Search

/-!
# Reading numerals

The numerals of prompts, field values and data files.  A real numeral is an optional sign,
digits with an optional point and an optional exponent, or a word for an infinity or for no
number; it denotes the nearest double.  A whole numeral is read exactly.
-/

namespace StillMotion.Number

open StillMotion.Text

/-- `mantissa * 10 ^ exponent`, negated on demand, as the nearest double.  Values out of the
range of doubles are decided by the position of the leading digit alone. -/
def ofDecimal (negative : Bool) (digits : List Char) (exponent : Int) : Float :=
  let significant := digits.dropWhile (· == '0')
  if significant.isEmpty then ofRatio negative 0 1
  else
    let top := exponent + significant.length
    if 310 < top then infinity negative
    else if top < -330 then ofRatio negative 0 1
    else
      let (n, d) := scaled 10 (digitsValue significant) 1 exponent
      ofRatio negative n d

def takeSign : List Char → Bool × List Char
  | '+' :: rest => (false, rest)
  | '-' :: rest => (true, rest)
  | rest => (false, rest)

def exponentPart? : List Char → Option Int
  | [] => some 0
  | c :: rest =>
      if c == 'e' || c == 'E' then
        let (negative, ds) := takeSign rest
        if ds.isEmpty || !ds.all isAsciiDigit then none
        else
          let n : Int := digitsValue (ds.dropWhile (· == '0'))
          some (if negative then -n else n)
      else none

def decimal? (negative : Bool) (cs : List Char) : Option Float :=
  let whole := cs.takeWhile isAsciiDigit
  let rest := cs.dropWhile isAsciiDigit
  let (fraction, rest) := match rest with
    | '.' :: more => (more.takeWhile isAsciiDigit, more.dropWhile isAsciiDigit)
    | _ => ([], rest)
  if whole.isEmpty && fraction.isEmpty then none
  else (exponentPart? rest).map fun e =>
    ofDecimal negative (whole ++ fraction) (e - fraction.length)

def real? (cs : List Char) : Option Float :=
  let (negative, rest) := takeSign cs
  match String.ofList (rest.map asciiLower) with
  | "nan" => some notANumber
  | "inf" | "infinity" => some (infinity negative)
  | _ => decimal? negative rest

/-! ## Separated digits -/

def dropSeparators? : List Char → Option (List Char)
  | cs => go false cs
where
  go (afterDigit : Bool) : List Char → Option (List Char)
    | [] => some []
    | '_' :: rest =>
        match rest with
        | d :: _ => if afterDigit && isAsciiDigit d then go false rest else none
        | [] => none
    | c :: rest => (go (isAsciiDigit c) rest).map (c :: ·)

/-- Write the digits of the other scripts with the ASCII digits and the blanks beyond the ASCII
alphabet as spaces.  ASCII characters, the last of them included, stay as they are. -/
def plainDigits (cs : List Char) : List Char :=
  cs.map fun c =>
    if c.toNat < 0x7F then c
    else match digitValue? c with
      | some d => Char.ofNat (48 + d)
      | none => if isBlank c then ' ' else c

def freeReal? (s : String) : Option Float :=
  (dropSeparators? (stripChars isAsciiBlank (plainDigits s.toList))).bind real?

/-! ## Integers in a base -/

inductive NumeralFault where
  | malformed
  /-- More digits than are converted. -/
  | tooLong (digits : Nat)
deriving DecidableEq, Repr

def baseDigit? (c : Char) : Option Nat :=
  if isAsciiDigit c then some (c.toNat - 48)
  else
    let d := asciiLower c
    if 'a' ≤ d && d ≤ 'z' then some (d.toNat - 87) else none

def markedBase? (c : Char) : Option Nat :=
  if c == 'x' || c == 'X' then some 16
  else if c == 'o' || c == 'O' then some 8
  else if c == 'b' || c == 'B' then some 2
  else none

/-- Drop the mark of a base, and a low line after it.  Base zero takes the base of the mark. -/
def dropMark (base : Nat) (cs : List Char) : Nat × List Char :=
  match cs with
  | '0' :: c :: rest => match markedBase? c with
      | some b =>
          if base == 0 || base == b then
            (b, match rest with
              | '_' :: more => more
              | rest => rest)
          else (base, cs)
      | none => (base, cs)
  | cs => (base, cs)

/-- The digits of a base in front, low lines between two of them: how many there are, their value
and the rest. -/
def baseDigits (base : Nat) (afterDigit : Bool) (count n : Nat) :
    List Char → Except NumeralFault (Nat × Nat × List Char)
  | [] => if afterDigit then .ok (count, n, []) else .error .malformed
  | '_' :: rest => if afterDigit then baseDigits base false count n rest else .error .malformed
  | c :: rest => match (baseDigit? c).filter (· < base) with
      | some v => baseDigits base true (count + 1) (base * n + v) rest
      | none => if afterDigit then .ok (count, n, c :: rest) else .error .malformed

/-- An integer of free text in a base; base zero tells the base by its mark. -/
def freeWhole (base : Nat) (s : String) : Except NumeralFault Int := do
  let (negative, cs) := takeSign (stripChars isAsciiBlank (plainDigits s.toList))
  let (marked, cs) := dropMark base cs
  let actual := if marked == 0 then 10 else marked
  let (count, n, rest) ← baseDigits actual false 0 0 cs
  if actual != Nat.pow 2 actual.log2 && digitLimit < count then .error (.tooLong count)
  else if !rest.isEmpty || (marked == 0 && cs.head? == some '0' && n != 0) then .error .malformed
  else .ok (if negative then -(n : Int) else n)

/-! ## Numerals of typed fields -/

/-- Underscores may stand anywhere but at the ends, and never two together. -/
def looseSeparators? (cs : List Char) : Option (List Char) :=
  if startsWith cs ['_'] || startsWith cs.reverse ['_'] || contains ['_', '_'] cs then none
  else some (cs.filter (· != '_'))

def fieldReal? (s : String) : Option Float :=
  let cs := s.toList
  match real? (stripChars isNumeralBlank cs) with
  | some x => some x
  | none => (looseSeparators? cs).bind real?

inductive WholeError where
  | malformed
  | tooLong
deriving DecidableEq, Repr

/-- Drop the zeros in front and the underscores among them, keeping the last character before
the end or before the point.  A sign may follow the zeros. -/
def dropLeadingZeros? (cs : List Char) : Option (List Char) :=
  match cs with
  | '0' :: rest => go '0' rest
  | c :: rest => if ('1' ≤ c && c ≤ '9') || c == '-' then some (c :: rest) else none
  | [] => none
where
  go (previous : Char) : List Char → Option (List Char)
    | [] => some [previous]
    | c :: rest =>
        if c == '0' || c == '_' then go c rest
        else if ('1' ≤ c && c ≤ '9') || c == '-' then some (c :: rest)
        else if c == '.' then some (previous :: c :: rest)
        else none

/-- Drop a point that only zeros follow. -/
def dropZeroFraction? (cs : List Char) : Option (List Char) :=
  match cut? '.' cs with
  | none => some cs
  | some (whole, zeros) =>
      if !zeros.isEmpty && zeros.all (· == '0') then some whole else none

def dropPlus? : List Char → Option (List Char)
  | '+' :: '-' :: _ => none
  | '+' :: rest => some rest
  | cs => some cs

/-- A minus sign or none, then digits of which the first is zero only if it is the last. -/
def signedDigits? (cs : List Char) : Option (Bool × List Char) :=
  let (negative, ds) := match cs with
    | '-' :: rest => (true, rest)
    | _ => (false, cs)
  if ds.isEmpty || !ds.all isAsciiDigit || (startsWith ds ['0'] && ds.length != 1) then none
  else some (negative, ds)

def fieldInt? (s : String) : Except WholeError Int :=
  let cleaned := do
    let cs ← dropPlus? (stripChars isNumeralBlank s.toList)
    let cs ← dropLeadingZeros? cs
    let cs ← dropZeroFraction? cs
    let cs ← if startsWith cs ['-', '_'] then none else looseSeparators? cs
    signedDigits? cs
  match cleaned with
  | none => .error .malformed
  | some (negative, ds) =>
      if digitLimit < ds.length then .error .tooLong
      else
        let n : Int := digitsValue ds
        .ok (if negative then -n else n)

end StillMotion.Number
