import StillMotion.Document.Node
import StillMotion.Number.Numeral
import StillMotion.Text.Quoted

/-!
# What plain scalars mean

A scalar without a tag is judged by its text: words for truth values and for nothing, integers
to four bases and in sexagesimal notation, decimal fractions, dates and times.  Every other text
stands for itself.
-/

namespace StillMotion.Document

open StillMotion.Text StillMotion.Number

inductive ScalarKind where
  | truth
  | fraction
  | integer
  | merge
  | nothing
  | stamp
  | value
  | text
deriving DecidableEq, Repr

/-! ## Words -/

def yesWords : List String :=
  ["yes", "Yes", "YES", "true", "True", "TRUE", "on", "On", "ON"]

def noWords : List String :=
  ["no", "No", "NO", "false", "False", "FALSE", "off", "Off", "OFF"]

def nothingWords : List String := ["", "~", "null", "Null", "NULL"]

def isTruth (s : String) : Bool := yesWords.contains s || noWords.contains s

/-! ## Numerals -/

def isDigitOrBar (c : Char) : Bool := isAsciiDigit c || c == '_'

def isBinaryDigit (c : Char) : Bool := c == '0' || c == '1' || c == '_'

def isOctalDigit (c : Char) : Bool := ('0' ≤ c && c ≤ '7') || c == '_'

def isHexDigit (c : Char) : Bool := (hexValue? c).isSome || c == '_'

def withoutSign (cs : List Char) : List Char := (takeSign cs).2

def isDigits : List Char → Bool
  | [] => false
  | c :: rest => isAsciiDigit c && rest.all isDigitOrBar

def isSixtieth : List Char → Bool
  | [d] => isAsciiDigit d
  | [a, b] => '0' ≤ a && a ≤ '5' && isAsciiDigit b
  | _ => false

def isSexagesimal (cs : List Char) : Bool :=
  match splitChar ':' cs with
  | first :: second :: rest =>
      isDigits first && first.head? != some '0' && (second :: rest).all isSixtieth
  | _ => false

def isIntegerBody (cs : List Char) : Bool :=
  match cs with
  | ['0'] => true
  | '0' :: 'b' :: rest => !rest.isEmpty && rest.all isBinaryDigit
  | '0' :: 'x' :: rest => !rest.isEmpty && rest.all isHexDigit
  | '0' :: rest => rest.all isOctalDigit
  | cs => isDigits cs || isSexagesimal cs

def isInteger (cs : List Char) : Bool := isIntegerBody (withoutSign cs)

def isSignedExponent : List Char → Bool
  | [] => true
  | mark :: sign :: digits =>
      (mark == 'e' || mark == 'E') && (sign == '+' || sign == '-') &&
        !digits.isEmpty && digits.all isAsciiDigit
  | _ => false

def isFractionTail (cs : List Char) : Bool := isSignedExponent (cs.dropWhile isDigitOrBar)

def infinityWords : List String := [".inf", ".Inf", ".INF"]

def notNumberWords : List String := [".nan", ".NaN", ".NAN"]

def isSexagesimalFraction (cs : List Char) : Bool :=
  match cut? '.' cs with
  | none => false
  | some (whole, tail) =>
      match splitChar ':' whole with
      | first :: second :: rest =>
          isDigits first && (second :: rest).all isSixtieth && tail.all isDigitOrBar
      | _ => false

def isFraction (cs : List Char) : Bool :=
  let body := withoutSign cs
  let unsigned := body.length == cs.length
  infinityWords.contains (String.ofList body) ||
    (unsigned && notNumberWords.contains (String.ofList cs)) ||
    isSexagesimalFraction body ||
    match cut? '.' body with
    | none => false
    | some (whole, tail) =>
        if whole.isEmpty then unsigned && tail.head?.any isAsciiDigit && isFractionTail tail
        else isDigits whole && isFractionTail tail

/-! ## Dates and times -/

structure StampParts where
  year : Nat
  month : Nat
  day : Nat
  time : Option (Nat × Nat × Nat)
  /-- The digits of the fraction of the second. -/
  fraction : List Char
  /-- The offset from universal time: hours and minutes, and whether they are subtracted. -/
  offset : Option (Bool × Nat × Nat)
deriving DecidableEq, Repr

def digitRun? (least most : Nat) (cs : List Char) : Option (Nat × List Char) :=
  let run := (cs.take most).takeWhile isAsciiDigit
  if run.length < least then none else some (digitsValue run, cs.drop run.length)

def expect? (c : Char) : List Char → Option (List Char)
  | d :: rest => if c == d then some rest else none
  | [] => none

def isGap (c : Char) : Bool := c == ' ' || c == '\t'

def offset? (cs : List Char) : Option (Option (Bool × Nat × Nat)) :=
  if cs.isEmpty then some none
  else match cs.dropWhile isGap with
    | ['Z'] => some (some (false, 0, 0))
    | sign :: rest =>
        if sign == '+' || sign == '-' then do
          let (hours, rest) ← digitRun? 1 2 rest
          match rest with
          | [] => some (some (sign == '-', hours, 0))
          | ':' :: rest => do
              let (minutes, rest) ← digitRun? 2 2 rest
              if rest.isEmpty then some (some (sign == '-', hours, minutes)) else none
          | _ => none
        else none
    | [] => none

/-- A date, or a date and a time.  `exactDate` asks for two digits each in the month and the day
of a date without a time. -/
def stampParts? (exactDate : Bool) (cs : List Char) : Option StampParts := do
  let (year, rest) ← digitRun? 4 4 cs
  let rest ← expect? '-' rest
  let (month, rest) ← digitRun? 1 2 rest
  let monthLength := cs.length - rest.length - 5
  let rest ← expect? '-' rest
  let beforeDay := rest.length
  let (day, rest) ← digitRun? 1 2 rest
  if rest.isEmpty then
    if !exactDate || (monthLength == 2 && beforeDay == 2) then
      some ⟨year, month, day, none, [], none⟩
    else none
  else do
    let rest ← match rest with
      | c :: more =>
          if c == 'T' || c == 't' then some more
          else if isGap c then some (more.dropWhile isGap)
          else none
      | [] => none
    let (hour, rest) ← digitRun? 1 2 rest
    let rest ← expect? ':' rest
    let (minute, rest) ← digitRun? 2 2 rest
    let rest ← expect? ':' rest
    let (second, rest) ← digitRun? 2 2 rest
    let (fraction, rest) := match rest with
      | '.' :: more => (more.takeWhile isAsciiDigit, more.dropWhile isAsciiDigit)
      | rest => ([], rest)
    let offset ← offset? rest
    some ⟨year, month, day, some (hour, minute, second), fraction, offset⟩

/-! ## The kind of a plain scalar -/

/-- A text without one line feed at its end, unless it is no more than that. -/
def withoutLastLine (s : String) : String :=
  match s.toList.reverse with
  | '\n' :: c :: rest => String.ofList (c :: rest).reverse
  | _ => s

/-- The kind of a scalar; a line feed at its end does not count. -/
def kindOf (text : String) : ScalarKind :=
  let s := withoutLastLine text
  let cs := s.toList
  if isTruth s then .truth
  else if isFraction cs then .fraction
  else if isInteger cs then .integer
  else if s == "<<" then .merge
  else if nothingWords.contains s then .nothing
  else if (stampParts? true cs).isSome then .stamp
  else if s == "=" then .value
  else .text

def ScalarKind.tag : ScalarKind → String
  | .truth => standardTagStart ++ "bool"
  | .fraction => standardTagStart ++ "float"
  | .integer => standardTagStart ++ "int"
  | .merge => standardTagStart ++ "merge"
  | .nothing => standardTagStart ++ "null"
  | .stamp => standardTagStart ++ "timestamp"
  | .value => standardTagStart ++ "value"
  | .text => textTag

end StillMotion.Document
