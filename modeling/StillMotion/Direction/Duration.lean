import StillMotion.Data.Operation
import StillMotion.Failure.Fault
import StillMotion.Number.Numeral
import StillMotion.Text.Blank

/-!
# The duration in a prompt

A prompt mentions a duration as a whole number with its unit or after the word for it.  There
are four patterns; of each only the first match in the prompt counts, and the first pattern
whose match is in range decides.
-/

namespace StillMotion.Duration

open StillMotion.Text StillMotion.Number

/-- Whether a character is a given small letter in any letter case.  The long s and the dotless
and dotted i count as their letters. -/
def isLetter (letter c : Char) : Bool :=
  asciiLower c == letter || (letter == 's' && c.toNat == 0x17F) ||
    (letter == 'i' && (c.toNat == 0x130 || c.toNat == 0x131))

def dropWord? : List Char → List Char → Option (List Char)
  | [], rest => some rest
  | _ :: _, [] => none
  | letter :: word, c :: cs => if isLetter letter c then dropWord? word cs else none

def isGap (c : Char) : Bool := c == ':' || isBlank c

def digitRun? (cs : List Char) : Option (List Char × List Char) :=
  let digits := cs.takeWhile isDigit
  if digits.isEmpty then none else some (digits, cs.dropWhile isDigit)

/-! ## Patterns -/

def quantity? (unit : List Char) (cs : List Char) : Option (List Char) := do
  let (digits, rest) ← digitRun? cs
  let _ ← dropWord? unit (trimLeft rest)
  some digits

def labelled? (cs : List Char) : Option (List Char) := do
  let rest ← dropWord? "duration".toList cs
  match rest with
  | c :: _ => if isGap c then (digitRun? (rest.dropWhile isGap)).map (·.1) else none
  | [] => none

def introduced? (cs : List Char) : Option (List Char) := do
  let rest ← dropWord? "for".toList cs
  match rest with
  | c :: _ => if isBlank c then quantity? "second".toList (trimLeft rest) else none
  | [] => none

/-- The first place of a text at which a pattern matches, never inside a run of digits. -/
def firstMatch (pattern : List Char → Option (List Char)) :
    Bool → List Char → Option (List Char)
  | _, [] => none
  | afterDigit, c :: cs =>
      let here := if afterDigit && isDigit c then none else pattern (c :: cs)
      match here with
      | some digits => some digits
      | none => firstMatch pattern (isDigit c) cs

def patterns : List (List Char → Option (List Char)) :=
  [quantity? "second".toList, quantity? "sec".toList, labelled?, introduced?]

/-! ## Extraction -/

/-- The number that digits denote, unless there are too many of them. -/
def value? (digits : List Char) : Except Fault Nat :=
  if digitLimit < digits.length then .error (.numeralTooLong digits.length)
  else .ok (digitsValue digits)

/-- The first match in range, among the patterns that are left.  Telling whether a number is in
range may fail. -/
def extractWith (inRange : Nat → Except Fault Bool) (prompt : List Char) :
    List (List Char → Option (List Char)) → Except Fault (Option Nat)
  | [] => .ok none
  | pattern :: rest =>
      match firstMatch pattern false prompt with
      | none => extractWith inRange prompt rest
      | some digits => do
          let value ← value? digits
          let fits ← if value == 0 then .ok false else inRange value
          if fits then .ok (some value) else extractWith inRange prompt rest

def extract (inRange : Nat → Bool) (prompt : String) : Except Fault (Option Nat) :=
  extractWith (fun n => .ok (inRange n)) prompt.toList patterns

/-- The duration that a prompt mentions, at most a value of any kind. -/
def extractUpTo (limit : Value) (prompt : String) : Except Fault (Option Nat) :=
  extractWith (fun n => (Value.compareBy .atMost (.int n) limit).mapError .misfit)
    prompt.toList patterns

end StillMotion.Duration
