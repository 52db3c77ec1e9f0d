import StillMotion.Data.Issue
import StillMotion.Data.Shown
import StillMotion.Number.Numeral

/-!
# Codecs

A codec reads data into a type, writes it back and knows its shape.  Reading is lenient where
no meaning is lost: a truth value counts as a number, a numeral as the number it denotes, bytes
as the text they encode.
-/

namespace StillMotion

open StillMotion.Number StillMotion.Text

/-! ## Shapes -/

/-- Whether a field must be given; an optional one may show what it stands for when absent. -/
inductive Presence where
  | required
  | optional (shown : Option Value)

/-- What data of a type looks like, as far as a reader of its description needs to know. -/
inductive Shape where
  | bool
  | int
  | real
  | text
  | choice (words : List String)
  | anything
  | list (item : Shape)
  | mapping (item : Shape)
  | nullable (inner : Shape)
  | oneOf (options : List Shape)
  | record (title : String) (summary : Option String) (members : List (String × Presence × Shape))

/-! ## Codecs -/

structure Codec (α : Type) where
  decode : Value → Checked α
  encode : α → Value
  shape : Shape

namespace Codec

variable {α : Type}

/-! ## Scalars -/

def bitOf (b : Bool) : Float := if b then 1.0 else 0.0

def ofBytes {β : Type} (content : ByteArray) (kind : IssueKind) (read : String → Checked β) :
    Checked β :=
  match String.fromUTF8? content with
  | some s => read s
  | none => .fail kind

def readReal (s : String) : Checked Float :=
  match fieldReal? s with
  | some x => .ok x
  | none => .fail .floatParsing

def decodeReal : Value → Checked Float
  | .float x => .ok x
  | .int n => match Number.ofInt? n with
      | some x => .ok x
      | none => .fail .floatType
  | .bool b => .ok (bitOf b)
  | .str s => readReal s
  | .bytes content => ofBytes content .floatParsing readReal
  | _ => .fail .floatType

def real : Codec Float := ⟨decodeReal, .float, .real⟩

def wordLimit : Int := 9223372036854775808

def decodeWhole (x : Float) : Checked Int :=
  match classify x with
  | .finite p =>
      if !p.isIntegral then .fail .intFromFloat
      else if -wordLimit < p.truncate && p.truncate < wordLimit then .ok p.truncate
      else .fail .intParsingSize
  | _ => .fail .finiteNumber

def readInt (s : String) : Checked Int :=
  match fieldInt? s with
  | .ok n => .ok n
  | .error .malformed => .fail .intParsing
  | .error .tooLong => .fail .intParsingSize

def decodeInt : Value → Checked Int
  | .int n => .ok n
  | .bool b => .ok (if b then 1 else 0)
  | .float x => decodeWhole x
  | .str s => readInt s
  | .bytes content => ofBytes content .intParsing readInt
  | _ => .fail .intType

def int : Codec Int := ⟨decodeInt, .int, .int⟩

def trueWords : List String := ["1", "on", "t", "true", "y", "yes"]
def falseWords : List String := ["0", "off", "f", "false", "n", "no"]

def readBool (s : String) : Checked Bool :=
  if trueWords.contains (lowerAscii s) then .ok true
  else if falseWords.contains (lowerAscii s) then .ok false
  else .fail .boolParsing

def decodeBool : Value → Checked Bool
  | .bool b => .ok b
  | .int n =>
      if n == 0 then .ok false
      else if n == 1 then .ok true
      else if -wordLimit ≤ n && n < wordLimit then .fail .boolParsing
      else .fail .boolType
  | .float x =>
      if x == 0.0 then .ok false
      else if x == 1.0 then .ok true
      else match decodeWhole x with
        | .ok _ => .fail .boolParsing
        | .error _ => .fail .boolType
  | .str s => readBool s
  | .bytes content => ofBytes content .boolParsing readBool
  | _ => .fail .boolType

def bool : Codec Bool := ⟨decodeBool, .bool, .bool⟩

def decodeText : Value → Checked String
  | .str s => .ok s
  | .bytes content => ofBytes content .stringUnicode .ok
  | _ => .fail .stringType

def text : Codec String := ⟨decodeText, .str, .text⟩

def choice [Inhabited α] (all : List α) (word : α → String) : Codec α where
  decode
    | .str s => match all.find? fun a => word a == s with
        | some a => .ok a
        | none => .fail .literalError
    | _ => .fail .literalError
  encode a := .str (word a)
  shape := .choice (all.map word)

/-! ## Free data -/

def plainKey : Value → String
  | .bool b => if b then "true" else "false"
  | .stamp s => s
  | .bytes content => (String.fromUTF8? content).getD ""
  | key => key.shown

mutual

/-- Free data as it is written: what is no finite number is written as nothing, and bytes as the
text they encode. -/
def plainData : Value → Value
  | .float x => if isFinite x then .float x else .null
  | .list items => .list (plainItems items)
  | .mapping entries => .mapping (plainEntries entries)
  | .stamp s => .str s
  | .bytes content => match String.fromUTF8? content with
      | some s => .str s
      | none => .bytes content
  | .table pairs => .mapping (Entries.ofList (plainPairs pairs))
  | value => value

def plainItems : List Value → List Value
  | [] => []
  | item :: rest => plainData item :: plainItems rest

def plainEntries : List (String × Value) → List (String × Value)
  | [] => []
  | (key, value) :: rest => (key, plainData value) :: plainEntries rest

def plainPairs : List (Value × Value) → List (String × Value)
  | [] => []
  | (key, value) :: rest => (plainKey key, plainData value) :: plainPairs rest

end

def anything : Codec Value := ⟨.ok, plainData, .anything⟩

def stepTo : Value → Step
  | .str s => .key s
  | .bool b => .number (if b then 1 else 0)
  | .int n => if -wordLimit ≤ n && n < wordLimit then .number n else .key (Value.intText n)
  | key => .key key.quotedForm

def decodePairs {β : Type} (read : Value → Checked β) :
    List (Value × Value) → Checked (List (String × β))
  | [] => .ok []
  | (key, value) :: rest =>
      let step := stepTo key
      let name := Checked.under step (Checked.under (.key "[key]") (decodeText key))
      let here := Checked.both (name.map Prod.mk) (Checked.under step (read value))
      Checked.both (here.map List.cons) (decodePairs read rest)

def decodeEntries : Value → Checked Entries
  | .mapping entries => .ok entries
  | .table pairs => (decodePairs .ok pairs).map Entries.ofList
  | _ => .fail .mappingType

def entries : Codec Entries :=
  ⟨decodeEntries, fun entries => .mapping (plainEntries entries), .mapping .anything⟩

/-! ## Composite data -/

def nullable (c : Codec α) : Codec (Option α) where
  decode
    | .null => .ok none
    | value => (c.decode value).map some
  encode
    | none => .null
    | some a => c.encode a
  shape := .nullable c.shape

def decodeItems (c : Codec α) : Nat → List Value → Checked (List α)
  | _, [] => .ok []
  | position, value :: rest =>
      Checked.both ((Checked.under (.index position) (c.decode value)).map List.cons)
        (decodeItems c (position + 1) rest)

def list (c : Codec α) : Codec (List α) where
  decode
    | .list items => decodeItems c 0 items
    | _ => .fail .listType
  encode items := .list (items.map c.encode)
  shape := .list c.shape

def decodeBindings (c : Codec α) : Entries → Checked (List (String × α))
  | [] => .ok []
  | (key, value) :: rest =>
      Checked.both ((Checked.under (.key key) (c.decode value)).map fun a => List.cons (key, a))
        (decodeBindings c rest)

def mapping (c : Codec α) : Codec (List (String × α)) where
  decode
    | .mapping entries => decodeBindings c entries
    | .table pairs => decodePairs c.decode pairs
    | _ => .fail .mappingType
  encode bindings := .mapping (bindings.map fun (key, a) => (key, c.encode a))
  shape := .mapping c.shape

/-- Refuse the values in which `issue?` finds an issue. -/
def refine (c : Codec α) (issue? : α → Option IssueKind) : Codec α where
  decode value := do
    let a ← c.decode value
    match issue? a with
    | some kind => .fail kind
    | none => .ok a
  encode := c.encode
  shape := c.shape

end Codec

end StillMotion
