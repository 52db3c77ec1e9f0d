import StillMotion.Data.Codec
import StillMotion.Text.Search

/-!
# Descriptions of records

A record is described by a JSON Schema: what its fields are, which must be given, and what an
absent one stands for.  Records inside a record are described once, under their titles, and
referred to.  The keys of a description are in alphabetical order, but its fields in their own.
-/

namespace StillMotion.JsonSchema

open StillMotion.Text

/-! ## Titles -/

def isLetter (c : Char) : Bool := ('a' ≤ c && c ≤ 'z') || ('A' ≤ c && c ≤ 'Z')

def capitalized : (inWord : Bool) → List Char → List Char
  | _, [] => []
  | inWord, c :: rest =>
      if isLetter c then (if inWord then asciiLower c else asciiUpper c) :: capitalized true rest
      else c :: capitalized false rest

def titleOf (key : String) : String :=
  String.ofList ((capitalized false key.toList).map fun c => if c == '_' then ' ' else c)

/-! ## Shapes -/

def typed (name : String) : Entries := [("type", .str name)]

def referenceTo (title : String) : Entries := [("$ref", .str ("#/$defs/" ++ title))]

def isAnything : Shape → Bool
  | .anything => true
  | _ => false

mutual

/-- A shape where it is used; a record is referred to. -/
def usage : Shape → Entries
  | .bool => typed "boolean"
  | .int => typed "integer"
  | .real => typed "number"
  | .text => typed "string"
  | .choice [word] => ("const", .str word) :: typed "string"
  | .choice words => ("enum", .list (words.map .str)) :: typed "string"
  | .anything => []
  | .list item => ("items", .mapping (usage item)) :: typed "array"
  | .mapping item =>
      ("additionalProperties", if isAnything item then .bool true else .mapping (usage item)) ::
        typed "object"
  | .nullable inner => [("anyOf", .list [.mapping (usage inner), .mapping (typed "null")])]
  | .oneOf options => [("anyOf", .list (usages options))]
  | .record title _ _ => referenceTo title

def usages : List Shape → List Value
  | [] => []
  | shape :: rest => .mapping (usage shape) :: usages rest

end

def isReference : Shape → Bool
  | .record _ _ _ => true
  | .nullable inner => isReference inner
  | _ => false

/-! ## Records -/

def ordered (entries : Entries) : Entries := entries.mergeSort fun a b => !decide (b.1 < a.1)

abbrev Members := List (String × Presence × Shape)

def fieldEntry (key : String) (presence : Presence) (shape : Shape) : Value :=
  let default : Entries := match presence with
    | .optional (some v) => [("default", v)]
    | _ => []
  let title : Entries := if isReference shape then [] else [("title", .str (titleOf key))]
  .mapping (ordered (usage shape ++ default ++ title))

def isRequired : Presence → Bool
  | .required => true
  | .optional _ => false

def recordEntries (title : String) (summary : Option String) (members : Members) : Entries :=
  let required := (members.filter fun member => isRequired member.2.1).map (·.1)
  [("properties", .mapping (members.map fun (key, presence, shape) =>
      (key, fieldEntry key presence shape))),
    ("title", .str title), ("type", .str "object")] ++
    (summary.map fun words => ("description", Value.str words)).toList ++
    if required.isEmpty then [] else [("required", .list (required.map .str))]

/-! ## Definitions -/

mutual

def recordsIn : Shape → Entries
  | .list item => recordsIn item
  | .mapping item => recordsIn item
  | .nullable inner => recordsIn inner
  | .oneOf options => recordsInAll options
  | .record title summary members =>
      (title, .mapping (ordered (recordEntries title summary members))) :: recordsInMembers members
  | _ => []

def recordsInAll : List Shape → Entries
  | [] => []
  | shape :: rest => recordsIn shape ++ recordsInAll rest

def recordsInMembers : List (String × Presence × Shape) → Entries
  | [] => []
  | (_, _, shape) :: rest => recordsIn shape ++ recordsInMembers rest

end

def firstOfEach (entries : Entries) : Entries :=
  entries.foldl (fun kept entry =>
    if kept.any fun known => known.1 == entry.1 then kept else kept ++ [entry]) []

/-- The description of a shape; only records have one. -/
def describe : Shape → Entries
  | .record title summary members =>
      let definitions := firstOfEach (recordsInMembers members)
      let inner : Entries :=
        if definitions.isEmpty then [] else [("$defs", .mapping (ordered definitions))]
      ordered (inner ++ recordEntries title summary members)
  | shape => usage shape

end StillMotion.JsonSchema
