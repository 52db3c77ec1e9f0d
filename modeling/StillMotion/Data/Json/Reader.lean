import StillMotion.Data.Value
import StillMotion.Number.Numeral
import StillMotion.Text.Code

/-!
# Reading JSON

`tree?` reads one value at the start of a text and returns the rest.  Besides the standard
grammar it reads the words for the infinities and for no number.  A text whose nesting or
whose integers exceed the limits is refused with a cause of its own, for it is not malformed.

A backend may wrap its answer in prose.  The answer is the first object of the text: at every
opening brace in turn a value is read.
-/

namespace StillMotion.Json

open StillMotion.Text StillMotion.Number

inductive ReadError where
  | malformed
  | integerTooLong (digits : Nat)
  | tooDeep
deriving DecidableEq, Repr

def nestingLimit : Nat := 990

/-! ## Trees -/

/-- What a text says.  Keys and texts are as they were spelled, so a surrogate can stand alone. -/
inductive Tree where
  | null
  | bool (b : Bool)
  | int (n : Int)
  | float (x : Float)
  | str (codes : List Code)
  | list (items : List Tree)
  | mapping (members : List (List Code × Tree))
deriving Inhabited

namespace Tree

def put (key : List Code) (tree : Tree) : List (List Code × Tree) → List (List Code × Tree)
  | [] => [(key, tree)]
  | member :: rest => if member.1 == key then (key, tree) :: rest else member :: put key tree rest

/-- The members of a list in which a later one of the same key wins. -/
def ofMembers (members : List (List Code × Tree)) : List (List Code × Tree) :=
  members.foldl (fun acc member => put member.1 member.2 acc) []

mutual

/-- A tree as a value, whose texts consist of characters. -/
def value : Tree → Value
  | .null => .null
  | .bool b => .bool b
  | .int n => .int n
  | .float x => .float x
  | .str codes => .str (Code.string codes)
  | .list items => .list (values items)
  | .mapping members => .mapping (Entries.ofList (entries members))

def values : List Tree → List Value
  | [] => []
  | item :: rest => item.value :: values rest

def entries : List (List Code × Tree) → Entries
  | [] => []
  | (key, tree) :: rest => (Code.string key, tree.value) :: entries rest

end

end Tree

/-! ## Blanks -/

def isSpace (c : Char) : Bool := c == ' ' || c == '\t' || c == '\n' || c == '\r'

def skipSpace (cs : List Char) : List Char := cs.dropWhile isSpace

/-! ## Strings -/

def hex4? : List Char → Option (Nat × List Char)
  | a :: b :: c :: d :: rest => do
      let a ← hexValue? a
      let b ← hexValue? b
      let c ← hexValue? c
      let d ← hexValue? d
      some (4096 * a + 256 * b + 16 * c + d, rest)
  | _ => none

def secondHalf? (high : Nat) : List Char → Option (Nat × List Char)
  | '\\' :: 'u' :: cs => (hex4? cs).filter fun read => isHighHalf high && isLowHalf read.1
  | _ => none

/-- The code of an escape, and the rest.  Two escapes for the halves of a pair are one code. -/
def codeEscape? (cs : List Char) : Option (Code × List Char) := do
  let (n, rest) ← hex4? cs
  match secondHalf? n rest with
  | some (low, rest) => some (.char (ofPair n low), rest)
  | none => some (.ofNat n, rest)

def simpleEscape? (c : Char) : Option Char :=
  if c == '"' then some '"'
  else if c == '\\' then some '\\'
  else if c == '/' then some '/'
  else if c == 'b' then some (Char.ofNat 8)
  else if c == 'f' then some (Char.ofNat 12)
  else if c == 'n' then some '\n'
  else if c == 'r' then some '\r'
  else if c == 't' then some '\t'
  else none

/-- The rest of a string after its opening quote; `seen` holds its codes in reverse. -/
def stringBody? (seen : List Code) : Nat → List Char → Option (List Code × List Char)
  | 0, _ => none
  | _, [] => none
  | fuel + 1, c :: rest =>
      if c == '"' then some (seen.reverse, rest)
      else if c == '\\' then
        match rest with
        | [] => none
        | e :: more =>
            if e == 'u' then
              match codeEscape? more with
              | some (code, after) => stringBody? (code :: seen) fuel after
              | none => none
            else
              match simpleEscape? e with
              | some d => stringBody? (.char d :: seen) fuel more
              | none => none
      else if c.toNat < 32 then none
      else stringBody? (.char c :: seen) fuel rest

def string? (cs : List Char) : Option (List Code × List Char) :=
  match cs with
  | '"' :: rest => stringBody? [] (rest.length + 1) rest
  | _ => none

/-! ## Numbers -/

def wholePart? (cs : List Char) : Option (List Char × List Char) :=
  match cs with
  | '0' :: rest => some (['0'], rest)
  | c :: _ => if isAsciiDigit c then some (cs.takeWhile isAsciiDigit, cs.dropWhile isAsciiDigit)
      else none
  | [] => none

/-- A point and at least one digit, when the text goes on so. -/
def fractionPart (cs : List Char) : Option (List Char) × List Char :=
  match cs with
  | '.' :: d :: rest =>
      if isAsciiDigit d then
        (some ((d :: rest).takeWhile isAsciiDigit), (d :: rest).dropWhile isAsciiDigit)
      else (none, cs)
  | _ => (none, cs)

/-- A mark, an optional sign and at least one digit, when the text goes on so. -/
def exponentPart (cs : List Char) : Option Int × List Char :=
  match cs with
  | c :: rest =>
      if c == 'e' || c == 'E' then
        let (negative, ds) := takeSign rest
        let digits := ds.takeWhile isAsciiDigit
        if digits.isEmpty then (none, cs)
        else
          let n : Int := digitsValue digits
          (some (if negative then -n else n), ds.dropWhile isAsciiDigit)
      else (none, cs)
  | [] => (none, cs)

def number? (cs : List Char) : Except ReadError (Tree × List Char) :=
  let (negative, rest) := match cs with
    | '-' :: rest => (true, rest)
    | _ => (false, cs)
  match wholePart? rest with
  | none => .error .malformed
  | some (whole, rest) =>
      let (fraction, rest) := fractionPart rest
      let (exponent, rest) := exponentPart rest
      if fraction.isNone && exponent.isNone then
        if digitLimit < whole.length then .error (.integerTooLong whole.length)
        else
          let n : Int := digitsValue whole
          .ok (.int (if negative then -n else n), rest)
      else
        let digits := fraction.getD []
        .ok (.float (ofDecimal negative (whole ++ digits) (exponent.getD 0 - digits.length)), rest)

/-! ## Values -/

def words : List (List Char × Tree) :=
  [("null".toList, .null), ("true".toList, .bool true), ("false".toList, .bool false),
   ("NaN".toList, .float notANumber), ("Infinity".toList, .float (infinity false)),
   ("-Infinity".toList, .float (infinity true))]

def word? (cs : List Char) : Option (Tree × List Char) :=
  words.findSome? fun (word, tree) => (dropLead? word cs).map fun rest => (tree, rest)

mutual

/-- Read a value; `depth` is the number of levels that may still be opened. -/
def readTree (depth : Nat) : Nat → List Char → Except ReadError (Tree × List Char)
  | 0, _ => .error .malformed
  | fuel + 1, cs =>
      match cs with
      | [] => .error .malformed
      | '"' :: _ =>
          match string? cs with
          | some (codes, rest) => .ok (.str codes, rest)
          | none => .error .malformed
      | '{' :: rest =>
          match depth with
          | 0 => .error .tooDeep
          | depth + 1 =>
              match skipSpace rest with
              | '}' :: rest => .ok (.mapping [], rest)
              | rest => readMembers depth [] fuel rest
      | '[' :: rest =>
          match depth with
          | 0 => .error .tooDeep
          | depth + 1 =>
              match skipSpace rest with
              | ']' :: rest => .ok (.list [], rest)
              | rest => readItems depth [] fuel rest
      | _ =>
          match word? cs with
          | some result => .ok result
          | none => number? cs

/-- Read the items of a list up to its closing bracket; `seen` holds the items so far in
reverse. -/
def readItems (depth : Nat) (seen : List Tree) :
    Nat → List Char → Except ReadError (Tree × List Char)
  | 0, _ => .error .malformed
  | fuel + 1, cs =>
      match readTree depth fuel cs with
      | .error e => .error e
      | .ok (item, rest) =>
          match skipSpace rest with
          | ']' :: rest => .ok (.list (item :: seen).reverse, rest)
          | ',' :: rest => readItems depth (item :: seen) fuel (skipSpace rest)
          | _ => .error .malformed

def readMembers (depth : Nat) (seen : List (List Code × Tree)) :
    Nat → List Char → Except ReadError (Tree × List Char)
  | 0, _ => .error .malformed
  | fuel + 1, cs =>
      match string? cs with
      | none => .error .malformed
      | some (key, rest) =>
          match skipSpace rest with
          | ':' :: rest =>
              match readTree depth fuel (skipSpace rest) with
              | .error e => .error e
              | .ok (tree, rest) =>
                  let members := Tree.put key tree seen
                  match skipSpace rest with
                  | '}' :: rest => .ok (.mapping members, rest)
                  | ',' :: rest => readMembers depth members fuel (skipSpace rest)
                  | _ => .error .malformed
          | _ => .error .malformed

end

/-- The value at the start of a text, and the rest.  Every step of the reader consumes a
character, so the length of the text bounds their number. -/
def tree? (cs : List Char) : Except ReadError (Tree × List Char) :=
  readTree nestingLimit (2 * cs.length + 2) cs

def document? (cs : List Char) : Except ReadError Tree :=
  match tree? (skipSpace cs) with
  | .error e => .error e
  | .ok (tree, rest) => if (skipSpace rest).isEmpty then .ok tree else .error .malformed

/-! ## Objects in free text -/

/-- The first object in `cs`, whose length is `length`. -/
def firstObjectFrom : Nat → List Char → Except ReadError (Option (List (List Code × Tree)))
  | _, [] => .ok none
  | length, c :: rest =>
      if c == '{' then
        match readTree nestingLimit (2 * length + 2) (c :: rest) with
        | .ok (.mapping members, _) => .ok (some members)
        | .ok _ => firstObjectFrom (length - 1) rest
        | .error .malformed => firstObjectFrom (length - 1) rest
        | .error fault => .error fault
      else firstObjectFrom (length - 1) rest

def firstObject? (text : String) : Except ReadError (Option (List (List Code × Tree))) :=
  firstObjectFrom text.length text.toList

end StillMotion.Json
