import StillMotion.Data.Operation
import StillMotion.Data.Ordering
import StillMotion.Digest.Base64
import StillMotion.Document.Resolve
import StillMotion.Text.Case

/-!
# The values that nodes mean

Tags tell what values nodes mean.  A mapping may take over the pairs of others under the merge
key; its own pairs win.
-/

namespace StillMotion.Document

open StillMotion.Text StillMotion.Number

/-! ## Scalars -/

def unsuitable {α : Type} (reason : String) : Except Fault α :=
  .error (.external "ValueError" (some reason))

def emptyNumeral {α : Type} : Except Fault α :=
  .error (.external "IndexError" (some "string index out of range"))

def withoutBars (s : String) : List Char := s.toList.filter (· != '_')

def toldLength : Nat := 200

def inBase (base : Nat) (cs : List Char) : Except Fault Int :=
  let s := String.ofList cs
  match freeWhole base s with
  | .ok n => .ok n
  | .error (.tooLong digits) => .error (.numeralTooLong digits)
  | .error .malformed =>
      let told := ((quoted s).take toldLength).toString
      unsuitable s!"invalid literal for int() with base {base}: {told}"

def sexagesimal (parts : List Int) : Int := parts.foldl (fun total part => 60 * total + part) 0

def magnitudeOf (cs : List Char) : Except Fault Int :=
  match cs with
  | ['0'] => .ok 0
  | '0' :: 'b' :: rest => inBase 2 rest
  | '0' :: 'x' :: rest => inBase 16 rest
  | '0' :: rest => inBase 8 ('0' :: rest)
  | cs =>
      if cs.contains ':' then do
        let parts ← (splitChar ':' cs).mapM (inBase 10)
        .ok (sexagesimal parts)
      else inBase 10 cs

def integerOf (s : String) : Except Fault Value := do
  let cs := withoutBars s
  if cs.isEmpty then emptyNumeral
  else
    let (negative, body) := takeSign cs
    if body.isEmpty then emptyNumeral
    else do
      let n ← magnitudeOf body
      .ok (.int (if negative then -n else n))

def realOf (cs : List Char) : Except Fault Float :=
  match freeReal? (String.ofList cs) with
  | some x => .ok x
  | none => unsuitable s!"could not convert string to float: {quoted (String.ofList cs)}"

/-- Parts after colons, the last one the smallest; `base` is what the current one is worth. -/
def sexagesimalReal : Nat → List Float → Float → Float
  | _, [], total => total
  | base, part :: rest, total =>
      sexagesimalReal (60 * base) rest (total + part * Number.ofInt base)

def fractionOf (s : String) : Except Fault Value := do
  let cs := lowerChars (withoutBars s)
  if cs.isEmpty then emptyNumeral
  else
    let (negative, body) := takeSign cs
    let signed (x : Float) : Value := .float (if negative then -x else x)
    if body == ".inf".toList then .ok (signed (infinity false))
    else if body == ".nan".toList then .ok (.float notANumber)
    else if body.contains ':' then do
      let parts ← (splitChar ':' body).mapM realOf
      .ok (signed (sexagesimalReal 1 parts.reverse 0.0))
    else (realOf body).map signed

def truthOf (s : String) : Except Fault Value :=
  let word := lowerCase s
  if yesWords.contains word then .ok (.bool true)
  else if noWords.contains word then .ok (.bool false)
  else .error (.external "KeyError" (some (quoted word)))

/-! ## Dates and times -/

def isLeapYear (year : Nat) : Bool :=
  year % 4 == 0 && (year % 100 != 0 || year % 400 == 0)

def daysIn (year month : Nat) : Nat :=
  if month == 2 then if isLeapYear year then 29 else 28
  else if [4, 6, 9, 11].contains month then 30
  else 31

def stampIssue? (parts : StampParts) : Option String :=
  let (hour, minute, second) := parts.time.getD (0, 0, 0)
  if parts.year == 0 then some "year 0 is out of range"
  else if parts.month == 0 || 12 < parts.month then some "month must be in 1..12"
  else if parts.day == 0 || daysIn parts.year parts.month < parts.day then
    some "day is out of range for month"
  else if 23 < hour then some "hour must be in 0..23"
  else if 59 < minute then some "minute must be in 0..59"
  else if 59 < second then some "second must be in 0..59"
  else none

def microseconds (digits : List Char) : Nat :=
  digitsValue ((digits ++ zerosText 6).take 6)

def offsetText (offset : Option (Bool × Nat × Nat)) : String :=
  match offset with
  | none => ""
  | some (isBehind, hours, minutes) =>
      if hours == 0 && minutes == 0 then "Z"
      else
        let total := 60 * hours + minutes
        (if isBehind then "-" else "+") ++ padded 2 (total / 60) ++ ":" ++
          padded 2 (total % 60)

def stampText (parts : StampParts) : String :=
  let date := padded 4 parts.year ++ "-" ++ padded 2 parts.month ++ "-" ++
    padded 2 parts.day
  match parts.time with
  | none => date
  | some (hour, minute, second) =>
      let fraction := microseconds parts.fraction
      date ++ "T" ++ padded 2 hour ++ ":" ++ padded 2 minute ++ ":" ++
        padded 2 second ++
        (if fraction == 0 then "" else "." ++ padded 6 fraction) ++ offsetText parts.offset

/-- A day has that many minutes; an offset has to be smaller. -/
def dayMinutes : Nat := 1440

def stampOf (s : String) : Except Fault Value :=
  match stampParts? false (withoutLastLine s).toList with
  | none => .error (.external "AttributeError"
      (some "'NoneType' object has no attribute 'groupdict'"))
  | some parts =>
      match stampIssue? parts with
      | some reason => unsuitable reason
      | none =>
          let (_, hours, minutes) := parts.offset.getD (false, 0, 0)
          if dayMinutes ≤ 60 * hours + minutes then
            unsuitable "offset must be a timedelta strictly between a day before and after"
          else .ok (.stamp (stampText parts))

def daysBeforeYear (year : Nat) : Nat :=
  365 * year + (year + 3) / 4 - (year + 99) / 100 + (year + 399) / 400

/-- A time with an offset in microseconds, so that the same instant has the same number. -/
def instant? (text : String) : Option Int := do
  let parts ← stampParts? false text.toList
  let (isBehind, hours, minutes) ← parts.offset
  let (hour, minute, second) ← parts.time
  let days := daysBeforeYear parts.year + parts.day +
    (List.range (parts.month - 1)).foldl (fun sum m => sum + daysIn parts.year (m + 1)) 0
  let offset : Int := 60 * hours + minutes
  let total : Int := 1440 * days + 60 * hour + minute + (if isBehind then offset else -offset)
  return 1000000 * (60 * total + second) + microseconds parts.fraction

def bytesOf (s : String) : Except Fault Value :=
  match if s.toList.all (·.toNat < 128) then Base64.decode? s else none with
  | some content => .ok (.bytes content)
  | none => .error .document

/-! ## Tags -/

def tagName? (tag : String) : Option String :=
  (dropLead? standardTagStart.toList tag.toList).map String.ofList

def scalarValue (tag text : String) : Except Fault Value :=
  match tagName? tag with
  | some "null" => .ok .null
  | some "bool" => truthOf text
  | some "int" => integerOf text
  | some "float" => fractionOf text
  | some "timestamp" => stampOf text
  | some "binary" => bytesOf text
  | some "str" => .ok (.str text)
  | _ => .error .document

def effectiveTag (tag? : Option String) (text : String) : String :=
  tag?.getD (kindOf text).tag

def Node.hasKind (kind : ScalarKind) : Node → Bool
  | .scalar tag? text => effectiveTag tag? text == kind.tag
  | _ => false

def standIn? : List (Node × Node) → Option String
  | [] => none
  | (key, value) :: rest =>
      if key.hasKind .value then
        match value with
        | .scalar _ text => some text
        | _ => none
      else standIn? rest

/-! ## Keys -/

def isKey : Value → Bool
  | .list _ | .mapping _ | .table _ | .cycle _ => false
  | _ => true

def sameKey : Value → Value → Bool
  | .bytes a, .bytes b => a == b
  | .float x, .float y => x == y || (x.isNaN && y.isNaN)
  | .stamp s, .stamp t => s == t || ((instant? s).isSome && instant? s == instant? t)
  | a, b => a.same b

def putPair (key value : Value) : List (Value × Value) → List (Value × Value)
  | [] => [(key, value)]
  | pair :: rest =>
      if sameKey pair.1 key then (pair.1, value) :: rest else pair :: putPair key value rest

/-- A mapping in which a later pair of the same key wins. -/
def mappingOf (pairs : List (Value × Value)) : Except Fault Value :=
  if !pairs.all (fun pair => isKey pair.1) then .error .document
  else if pairs.all fun pair => pair.1.str?.isSome then
    .ok (.mapping (Entries.ofList (Value.textEntries pairs)))
  else .ok (.table (pairs.foldl (fun acc pair => putPair pair.1 pair.2 acc) []))

def setOf (mapping : Value) : Except Fault Value := do
  let keys := match mapping with
    | .mapping entries => entries.map fun entry => .str entry.1
    | .table pairs => pairs.map (·.1)
    | _ => []
  match Ordering.byInsertion (Value.compareBy .less) keys with
  | .ok sorted => .ok (.list sorted)
  | .error _ => .ok (.list keys)

/-! ## Nodes -/

def sequenceValue (tag? : Option String) (items : List Value) : Except Fault Value :=
  match tag?.bind tagName? with
  | some "seq" => .ok (.list items)
  | _ => if tag?.isNone then .ok (.list items) else .error .document

def listsPairs (tag? : Option String) : Bool :=
  match tag?.bind tagName? with
  | some "omap" | some "pairs" => true
  | _ => false

def mappingValue (tag? : Option String) (nodes : List (Node × Node))
    (pairs : List (Value × Value)) : Except Fault Value :=
  match tag? with
  | none => mappingOf pairs
  | some tag =>
      match tagName? tag with
      | some "map" => mappingOf pairs
      | some "set" => do setOf (← mappingOf pairs)
      | _ =>
          match standIn? nodes with
          | some text => scalarValue tag text
          | none => .error .document

/-- The value of a key; the sign of equality is a key like any other. -/
def keyValue (key : Node) (value : Except Fault Value) : Except Fault Value :=
  if key.hasKind .value then .ok (.str "=") else value

mutual

def meaningOf : Node → Except Fault Value
  | .scalar tag? text => scalarValue (effectiveTag tag? text) text
  | .sequence tag? items => do
      if listsPairs tag? then
        let pairs ← singlePairs items
        .ok (.list pairs)
      else
        let values ← meaningsOf items
        sequenceValue tag? values
  | .mapping tag? pairs => do
      let (merged, own) ← pairsOf pairs
      mappingValue tag? pairs (merged ++ own)
  | .enclosing isMapping => .ok (.cycle isMapping)

def meaningsOf : List Node → Except Fault (List Value)
  | [] => .ok []
  | node :: rest => do
      let value ← meaningOf node
      let values ← meaningsOf rest
      .ok (value :: values)

def singlePairs : List Node → Except Fault (List Value)
  | [] => .ok []
  | .mapping _ [(key, value)] :: rest => do
      let k ← meaningOf key
      let v ← meaningOf value
      let pairs ← singlePairs rest
      .ok (.list [k, v] :: pairs)
  | _ :: _ => .error .document

def pairsOf : List (Node × Node) → Except Fault (List (Value × Value) × List (Value × Value))
  | [] => .ok ([], [])
  | (key, value) :: rest => do
      if key.hasKind .merge then
        let here ← takenOver value
        let (merged, own) ← pairsOf rest
        .ok (here ++ merged, own)
      else
        let k ← keyValue key (meaningOf key)
        let v ← meaningOf value
        let (merged, own) ← pairsOf rest
        .ok (merged, (k, v) :: own)

/-- The pairs that a mapping takes over from a mapping or from several; earlier ones win. -/
def takenOver : Node → Except Fault (List (Value × Value))
  | .mapping _ pairs => do
      let (merged, own) ← pairsOf pairs
      .ok (merged ++ own)
  | .sequence _ items => takenOverAll items
  | .enclosing isMapping => if isMapping then .ok [] else .error .document
  | .scalar _ _ => .error .document

def takenOverAll : List Node → Except Fault (List (Value × Value))
  | [] => .ok []
  | .mapping _ pairs :: rest => do
      let (merged, own) ← pairsOf pairs
      let later ← takenOverAll rest
      .ok (later ++ (merged ++ own))
  | .enclosing true :: rest => takenOverAll rest
  | _ :: _ => .error .document

end

end StillMotion.Document
