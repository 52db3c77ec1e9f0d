import StillMotion.Number.Scalar

/-!
# Data values

The values that analysis answers, documents and timelines carry: nothing, truth values,
integers and doubles apart, text, lists and mappings.  A mapping keeps its entries in the
order of their first appearance.

The last four come from document formats only: a date or time, which is known by its text alone;
bytes; a mapping of which some key is no text; and a list or mapping inside itself.
-/

namespace StillMotion

inductive Value where
  | null
  | bool (b : Bool)
  | int (n : Int)
  | float (x : Float)
  | str (s : String)
  | list (items : List Value)
  | mapping (entries : List (String × Value))
  | stamp (text : String)
  | bytes (content : ByteArray)
  | table (pairs : List (Value × Value))
  | cycle (isMapping : Bool)
deriving Inhabited

abbrev Entries := List (String × Value)

namespace Entries

def get? (entries : Entries) (key : String) : Option Value :=
  (entries.find? fun entry => entry.1 == key).map (·.2)

def has (entries : Entries) (key : String) : Bool := entries.any fun entry => entry.1 == key

def put (key : String) (value : Value) : Entries → Entries
  | [] => [(key, value)]
  | entry :: rest =>
      if entry.1 == key then (key, value) :: rest else entry :: put key value rest

/-- The mapping of a list of entries in which a later entry of the same key wins. -/
def ofList (entries : List (String × Value)) : Entries :=
  entries.foldl (fun acc entry => put entry.1 entry.2 acc) []

theorem get?_put_self (key : String) (value : Value) (entries : Entries) :
    get? (put key value entries) key = some value := by
  induction entries with
  | nil => simp [put, get?]
  | cons entry rest ih =>
      by_cases h : entry.1 = key
      · simp [put, get?, h]
      · simp only [put, beq_iff_eq, h, if_false]
        simpa [get?, h] using ih

theorem get?_put_of_ne {key other : String} (value : Value) (entries : Entries)
    (h : other ≠ key) : get? (put key value entries) other = get? entries other := by
  induction entries with
  | nil => simp [put, get?, Ne.symm h]
  | cons entry rest ih =>
      by_cases hk : entry.1 = key
      · have hne : ¬ entry.1 = other := fun hc => h (hc.symm.trans hk)
        have hne' : ¬ key = other := fun hc => h hc.symm
        simp [put, get?, hk, hne']
      · simp only [put, beq_iff_eq, hk, if_false]
        by_cases ho : entry.1 = other
        · simp [get?, ho]
        · simpa [get?, ho] using ih

end Entries

namespace Value

def str? : Value → Option String
  | .str s => some s
  | _ => none

def textEntries (pairs : List (Value × Value)) : Entries :=
  pairs.filterMap fun (key, value) => key.str?.map fun s => (s, value)

def get? (key : String) : Value → Option Value
  | .mapping entries => Entries.get? entries key
  | .table pairs => Entries.get? (textEntries pairs) key
  | _ => none

def at? (keys : List String) (value : Value) : Option Value :=
  keys.foldlM (fun node key => node.get? key) value

def list? : Value → Option (List Value)
  | .list items => some items
  | _ => none

def mapping? : Value → Option Entries
  | .mapping entries => some entries
  | _ => none

def isDict : Value → Bool
  | .mapping _ => true
  | _ => false

def isEmpty : Value → Bool
  | .null => true
  | .str s => s.isEmpty
  | .list items => items.isEmpty
  | .mapping entries => entries.isEmpty
  | .bytes content => content.isEmpty
  | .table pairs => pairs.isEmpty
  | _ => false

/-- Whether a value counts as present: it is not empty, not false and not zero. -/
def isPresent : Value → Bool
  | .null => false
  | .bool b => b
  | .int n => n != 0
  | .float x => x != 0.0
  | .str s => !s.isEmpty
  | .list items => !items.isEmpty
  | .mapping entries => !entries.isEmpty
  | .bytes content => !content.isEmpty
  | .table pairs => !pairs.isEmpty
  | _ => true

mutual

/-- Whether every integer in a value has at most `limit` digits. -/
def isWithin (limit : Nat) : Value → Bool
  | .int n => n.natAbs.log2 < 3 * limit || n.natAbs < 10 ^ limit
  | .list items => areWithin limit items
  | .mapping entries => entriesWithin limit entries
  | .table pairs => pairsWithin limit pairs
  | _ => true

def areWithin (limit : Nat) : List Value → Bool
  | [] => true
  | item :: rest => item.isWithin limit && areWithin limit rest

def entriesWithin (limit : Nat) : List (String × Value) → Bool
  | [] => true
  | (_, value) :: rest => value.isWithin limit && entriesWithin limit rest

def pairsWithin (limit : Nat) : List (Value × Value) → Bool
  | [] => true
  | (key, value) :: rest =>
      key.isWithin limit && value.isWithin limit && pairsWithin limit rest

end

mutual

def bytes? : Value → Option ByteArray
  | .bytes content => some content
  | .list items => firstBytes? items
  | .mapping entries => bytesIn? entries
  | _ => none

def firstBytes? : List Value → Option ByteArray
  | [] => none
  | item :: rest => item.bytes? <|> firstBytes? rest

def bytesIn? : List (String × Value) → Option ByteArray
  | [] => none
  | (_, value) :: rest => value.bytes? <|> bytesIn? rest

end

def ofOption {α : Type} (f : α → Value) : Option α → Value
  | none => .null
  | some a => f a

def strings (xs : List String) : Value := .list (xs.map .str)

end Value

end StillMotion
