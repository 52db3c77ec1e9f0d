import StillMotion.Data.Codec

/-!
# Records

A record is read from a mapping and written as one, field by field.  A field has a key, may
have another name that is accepted when the key is absent, and may have a value that it takes
when it is not given.  `Fields ρ α` describes fields of the records `ρ` that together give
an `α`; they are put together one after the other, starting from a constructor:

`Fields.of Vec3.mk |>.field (Field.optional "x" Codec.real 0.0) Vec3.x |>. …`
-/

namespace StillMotion

def separatedKey (key : String) : String :=
  String.ofList (key.toList.flatMap fun c =>
    if 'A' ≤ c && c ≤ 'Z' then ['_', Text.asciiLower c] else [c])

structure Field (α : Type) where
  key : String
  /-- A second name under which the field is accepted. -/
  otherName : String
  codec : Codec α
  /-- The value of the field when it is not given; a required field has none. -/
  standard : Option α
  presence : Presence

namespace Field

variable {α : Type}

def required (key : String) (codec : Codec α) : Field α :=
  ⟨key, separatedKey key, codec, none, .required⟩

def optional (key : String) (codec : Codec α) (standard : α) : Field α :=
  ⟨key, separatedKey key, codec, some standard, .optional (some (codec.encode standard))⟩

def composed (key : String) (codec : Codec α) (standard : α) : Field α :=
  ⟨key, separatedKey key, codec, some standard, .optional none⟩

def nullable (key : String) (codec : Codec α) : Field (Option α) :=
  optional key codec.nullable none

def also (name : String) (field : Field α) : Field α := { field with otherName := name }

def given? (field : Field α) (entries : Entries) : Option (String × Value) :=
  match entries.get? field.key with
  | some value => some (field.key, value)
  | none => (entries.get? field.otherName).map fun value => (field.otherName, value)

def read (field : Field α) (entries : Entries) : Checked α :=
  match field.given? entries with
  | some (key, value) => Checked.under (.key key) (field.codec.decode value)
  | none =>
      match field.standard with
      | some a => .ok a
      | none => Checked.under (.key field.key) (.fail .missing)

end Field

structure Fields (ρ α : Type) where
  read : Entries → Checked α
  write : ρ → Entries
  members : List (String × Presence × Shape)

namespace Fields

variable {ρ α β : Type}

def of (a : α) : Fields ρ α := ⟨fun _ => .ok a, fun _ => [], []⟩

def field (fields : Fields ρ (α → β)) (f : Field α) (get : ρ → α) : Fields ρ β where
  read entries := Checked.both (fields.read entries) (f.read entries)
  write record := fields.write record ++ [(f.key, f.codec.encode (get record))]
  members := fields.members ++ [(f.key, f.presence, f.codec.shape)]

end Fields

/-! ## Records as data -/

def unknownKeys (members : List (String × Presence × Shape)) (entries : Entries) : List Issue :=
  (entries.filter fun entry => !members.any fun member => member.1 == entry.1).map
    fun entry => ⟨[.key entry.1], .extraForbidden⟩

def unknownPairs (members : List (String × Presence × Shape)) (pairs : List (Value × Value)) :
    List Issue :=
  pairs.flatMap fun (key, _) =>
    match key with
    | .str s => unknownKeys members [(s, .null)]
    | key => [⟨[Codec.stepTo key], .invalidKey⟩]

structure Manner where
  /-- Leave out the fields whose value is nothing. -/
  omitsNull : Bool
  /-- Refuse keys that no field has. -/
  isClosed : Bool

namespace Manner

def wire : Manner := ⟨true, false⟩

def full : Manner := ⟨false, false⟩

def strict : Manner := ⟨false, true⟩

end Manner

def Value.isNull : Value → Bool
  | .null => true
  | _ => false

def withExtra {ρ : Type} (extra : List Issue) : Checked ρ → Checked ρ
  | .ok record => if extra.isEmpty then .ok record else .error extra
  | .error issues => .error (issues ++ extra)

def Fields.decode {ρ : Type} (fields : Fields ρ ρ) (manner : Manner) : Value → Checked ρ
  | .mapping entries =>
      withExtra (if manner.isClosed then unknownKeys fields.members entries else [])
        (fields.read entries)
  | .table pairs =>
      withExtra (if manner.isClosed then unknownPairs fields.members pairs else [])
        (fields.read (Value.textEntries pairs))
  | _ => .fail .modelType

def Fields.encode {ρ : Type} (fields : Fields ρ ρ) (manner : Manner) (record : ρ) : Value :=
  let entries := fields.write record
  .mapping (if manner.omitsNull then entries.filter fun entry => !entry.2.isNull else entries)

namespace Codec

def record {ρ : Type} (title : String) (manner : Manner) (fields : Fields ρ ρ) : Codec ρ where
  decode := fields.decode manner
  encode := fields.encode manner
  shape := .record title none fields.members

def summarized {ρ : Type} (c : Codec ρ) (summary : String) : Codec ρ where
  decode := c.decode
  encode := c.encode
  shape := match c.shape with
    | .record title _ members => .record title (some summary) members
    | shape => shape

def title {α : Type} (c : Codec α) : String :=
  match c.shape with
  | .record title _ _ => title
  | _ => ""

end Codec

end StillMotion
