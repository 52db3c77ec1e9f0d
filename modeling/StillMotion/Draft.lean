import StillMotion.Data.Operation
import StillMotion.Data.Shown
import StillMotion.Failure.Report

/-!
# Drafts

A draft is a record while it is edited.  It has the fields of the record, but a field that is
assigned holds what it is given, whatever that is.  Whether a draft still is what it was made
from shows when it is written and read again; until then each use takes the values as they are,
and fails where they do not fit it.
-/

namespace StillMotion

open StillMotion.Text

inductive Draft where
  | record (title : String) (fields : List (String × Shape × Draft))
  | list (items : List Draft)
  /-- A value of the shape of its field. -/
  | exact (value : Value)
  | loose (value : Value)
deriving Inhabited

namespace Draft

variable {β : Type}

def misfit (cause : Misfit) : Except Fault β := .error (.misfit cause)

def ofMisfit (result : Except Misfit β) : Except Fault β := result.mapError .misfit

/-! ## From and to data -/

mutual

def ofData : Shape → Value → Draft
  | .record title _ members, .mapping entries => .record title (ofMembers members entries)
  | .list item, .list items => .list (items.map (ofData item))
  | .nullable inner, value => if value.isNull then .exact .null else ofData inner value
  | _, value => .exact value

def ofMembers : List (String × Presence × Shape) → Entries → List (String × Shape × Draft)
  | [], _ => []
  | (key, _, shape) :: rest, entries =>
      (key, shape, ofData shape ((Entries.get? entries key).getD .null)) ::
        ofMembers rest entries

end

def of {α : Type} (codec : Codec α) (a : α) : Draft := ofData codec.shape (codec.encode a)

def isNothing : Draft → Bool
  | .exact value => value.isNull
  | .loose value => value.isNull
  | _ => false

mutual

/-- A draft as data; fields without value are left out. -/
def toData : Draft → Value
  | .record _ fields => .mapping (toEntries fields)
  | .list items => .list (toItems items)
  | .exact value => value
  | .loose value => Codec.plainData value

def toItems : List Draft → List Value
  | [] => []
  | item :: rest => toData item :: toItems rest

def toEntries : List (String × Shape × Draft) → Entries
  | [] => []
  | (key, _, d) :: rest =>
      if d.isNothing then toEntries rest else (key, toData d) :: toEntries rest

end

/-! ## Reaching into a draft -/

def nameOf (key : String) : String := if key == "from" then "from_" else separatedKey key

def kindName : Draft → String
  | .record title _ => title
  | .list _ => "list"
  | .exact value => value.kindName
  | .loose value => value.kindName

def operand : Draft → Value
  | .exact value => value
  | .loose value => value
  | d => d.toData

def noAttribute (d : Draft) (name : String) : Except Fault β :=
  misfit (.noAttribute d.kindName name)

def isBuiltIn (name : String) : Bool := name == "model_extra" || name == "model_fields_set"

def field? (d : Draft) (name : String) : Option Draft :=
  match d with
  | .record _ fields => (fields.find? fun field => nameOf field.1 == name).map (·.2.2)
  | _ => none

def field (d : Draft) (name : String) : Except Fault Draft :=
  match d.field? name with
  | some inner => .ok inner
  | none => d.noAttribute name

/-- The place in a row of `length` items that a position stands for. -/
def placeOf (length : Nat) (position : Int) (otherwise : Fault) : Except Fault Nat :=
  let place := if position < 0 then position + length else position
  if 0 ≤ place && place < length then .ok place.toNat else .error otherwise

def item (d : Draft) (position : Int) : Except Fault Draft := do
  match d with
  | .list items =>
      let place ← placeOf items.length position .index
      .ok (items[place]?.getD default)
  | d => match d.operand with
      | .str s =>
          let outside : Fault := .misfit (.kindOf "IndexError" "string index out of range")
          let place ← placeOf s.length position outside
          .ok (.loose (.str ((s.toList[place]?).getD ' ').toString))
      | .mapping _ => misfit (.kindOf "KeyError" (Value.intText position))
      | _ => misfit (.notSubscriptable d.kindName)

def items (d : Draft) : Except Fault (List Draft) :=
  match d with
  | .list items => .ok items
  | d => match d.operand with
      | .str s => .ok (s.toList.map fun c => .loose (.str c.toString))
      | .mapping entries => .ok (entries.map fun entry => .loose (.str entry.1))
      | _ => misfit (.notIterable d.kindName)

def length (d : Draft) : Except Fault Nat :=
  match d with
  | .list items => .ok items.length
  | d => match d.operand with
      | .str s => .ok s.length
      | .mapping entries => .ok entries.length
      | _ => misfit (.noLength d.kindName)

def isPresent : Draft → Bool
  | .record _ _ => true
  | .list items => !items.isEmpty
  | .exact value => value.isPresent
  | .loose value => value.isPresent

/-! ## Changing a draft -/

def given : Value → Draft
  | .list items => .list (items.map .loose)
  | value => .loose value

def replace (d : Draft) (name : String) (inner : Draft) : Draft :=
  match d with
  | .record title fields =>
      .record title (fields.map fun (key, shape, old) =>
        if nameOf key == name then (key, shape, inner) else (key, shape, old))
  | d => d

/-- Assign a field; `settle` says what a field of a shape holds then.  A name that starts with a
low line is kept apart from the fields. -/
def assign (settle : Shape → Value → Draft) (name : String) (value : Value) (d : Draft) :
    Except Fault Draft :=
  match d with
  | .record title fields =>
      if name.startsWith "_" then .ok d
      else if isBuiltIn name then misfit (.readOnly title name)
      else if (d.field? name).isNone then misfit (.noField title name)
      else .ok (.record title (fields.map fun (key, shape, inner) =>
        if nameOf key == name then (key, shape, settle shape value) else (key, shape, inner)))
  | d => d.noAttribute name

def append {α : Type} (codec : Codec α) (data : Value) (d : Draft) : Except Fault Draft := do
  match d with
  | .list items => do
      let a ← codec.read data
      .ok (.list (items ++ [of codec a]))
  | d => d.noAttribute "append"

end Draft

end StillMotion
