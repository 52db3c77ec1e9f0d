import StillMotion.Document.Lexer
import StillMotion.Proofs.Data.RoundTrip
import StillMotion.Proofs.Document.Quoted

/-!
# Payloads

What is written to a document is data: a tree of mappings and lists over nothing, truth values,
integers, numbers and texts.  Whether it is read back depends on three things: how its numbers are
written, how long its keys are, and how deeply it is nested.
-/

namespace StillMotion.Value

open StillMotion.Number

/-! ## Going over data -/

mutual

/-- Whether something holds of everything in a value that is no collection, and of every key. -/
def every (leaf : Value → Bool) (key : String → Bool) : Value → Bool
  | .list items => everyItem leaf key items
  | .mapping entries => everyEntry leaf key entries
  | value => leaf value

def everyItem (leaf : Value → Bool) (key : String → Bool) : List Value → Bool
  | [] => true
  | item :: rest => item.every leaf key && everyItem leaf key rest

def everyEntry (leaf : Value → Bool) (key : String → Bool) : List (String × Value) → Bool
  | [] => true
  | (name, value) :: rest => key name && value.every leaf key && everyEntry leaf key rest

end

mutual

def height : Value → Nat
  | .list items => heightOfItems items + 1
  | .mapping entries => heightOfEntries entries + 1
  | _ => 1

def heightOfItems : List Value → Nat
  | [] => 0
  | item :: rest => max item.height (heightOfItems rest)

def heightOfEntries : List (String × Value) → Nat
  | [] => 0
  | (_, value) :: rest => max value.height (heightOfEntries rest)

end

/-! ## What reading depends on -/

/-- Whether all texts and keys consist of characters of sixteen bits. -/
def isBasic (value : Value) : Bool :=
  value.every (fun leaf => leaf.str?.all Document.isBasicText) Document.isBasicText

def isPointed : Value → Bool
  | .float x => (dataText x).contains '.'
  | _ => true

/-- Whether a key is written within the reach of the colon after it. -/
def isShortKey (key : String) : Bool :=
  (Json.encodeString true key).length ≤ Document.Lexer.keyLimit

def hasPoints (value : Value) : Bool := value.every isPointed fun _ => true

def hasShortKeys (value : Value) : Bool := value.every (fun _ => true) isShortKey

/-! ## What is read -/

/-- A number that is written without a point is read as a text. -/
def rereadLeaf : Value → Value
  | .float x => if isPointed (.float x) then .float x else .str (String.ofList (dataText x))
  | value => value

mutual

def reread : Value → Value
  | .list items => .list (rereadItems items)
  | .mapping entries => .mapping (rereadEntries entries)
  | value => rereadLeaf value

def rereadItems : List Value → List Value
  | [] => []
  | item :: rest => item.reread :: rereadItems rest

def rereadEntries : List (String × Value) → List (String × Value)
  | [] => []
  | (key, value) :: rest => (key, value.reread) :: rereadEntries rest

end

mutual

/-- Data is read as it is when all its numbers have a point. -/
theorem reread_eq_iff {value : Value} : value.reread = value ↔ value.hasPoints = true := by
  cases value with
  | float x =>
      change rereadLeaf (.float x) = .float x ↔ isPointed (.float x) = true
      rw [rereadLeaf]
      split
      next pointed => simp [pointed]
      next pointless => simp [pointless]
  | list items =>
      change Value.list (rereadItems items) = .list items ↔ _
      rw [Value.list.injEq]
      exact rereadItems_eq_iff
  | mapping entries =>
      change Value.mapping (rereadEntries entries) = .mapping entries ↔ _
      rw [Value.mapping.injEq]
      exact rereadEntries_eq_iff
  | _ => exact iff_of_true rfl rfl

theorem rereadItems_eq_iff {items : List Value} :
    rereadItems items = items ↔ everyItem isPointed (fun _ => true) items = true := by
  match items with
  | [] => exact iff_of_true rfl rfl
  | item :: rest =>
      rw [rereadItems, everyItem, List.cons.injEq, Bool.and_eq_true, rereadItems_eq_iff,
        reread_eq_iff]
      rfl

theorem rereadEntries_eq_iff {entries : List (String × Value)} :
    rereadEntries entries = entries ↔ everyEntry isPointed (fun _ => true) entries = true := by
  match entries with
  | [] => exact iff_of_true rfl rfl
  | (key, value) :: rest =>
      rw [rereadEntries, everyEntry, List.cons.injEq, Prod.mk.injEq, Bool.and_eq_true,
        Bool.and_eq_true, rereadEntries_eq_iff, reread_eq_iff]
      simp [hasPoints]

end

end StillMotion.Value
