import StillMotion.Data.Toml.Reader

/-!
# TOML documents

A document is a sequence of assignments and headers.  A header opens a table, or the next table
of a list; a table is opened at most once, and neither a header nor a dotted key reaches into a
value that is already complete.
-/

namespace StillMotion.Toml

open StillMotion.Text

inductive Statement where
  | assign (key : List String) (value : Value)
  | table (key : List String)
  | listTable (key : List String)

/-! ## Statements -/

def lineEnd? (cs : List Char) : Option (List Char) := do
  let rest ← skipComment? (skipBlanks cs)
  match rest with
  | [] => some []
  | '\n' :: rest => some rest
  | _ => none

def statement? (cs : List Char) : Option (Statement × List Char) :=
  match cs with
  | '[' :: '[' :: rest => do
      let (key, rest) ← key? (rest.length + 1) (skipBlanks rest)
      let rest ← expect? ']' rest
      let rest ← expect? ']' rest
      some (.listTable key, rest)
  | '[' :: rest => do
      let (key, rest) ← key? (rest.length + 1) (skipBlanks rest)
      let rest ← expect? ']' rest
      some (.table key, rest)
  | _ => do
      let (key, rest) ← key? (cs.length + 1) cs
      let rest ← expect? '=' rest
      let (value, rest) ← readValue? (skipBlanks rest)
      some (.assign key value, rest)

def statements? : Nat → List Char → Option (List Statement)
  | 0, _ => none
  | fuel + 1, cs =>
      match skipBlanks cs with
      | [] => some []
      | '\n' :: rest => statements? fuel rest
      | '#' :: rest => do
          let rest ← lineEnd? ('#' :: rest)
          statements? fuel rest
      | rest => do
          let (statement, rest) ← statement? rest
          let rest ← lineEnd? rest
          let more ← statements? fuel rest
          some (statement :: more)

/-! ## Assembly -/

/-- A document in the making: its content, the tables that are opened, those that dotted keys
of the current section opened, the values that are complete, and the current section. -/
structure Draft where
  content : Entries
  opened : List (List String)
  pending : List (List String)
  complete : List (List String)
  section_ : List String

namespace Draft

def start : Draft := ⟨[], [], [], [], []⟩

def isComplete (draft : Draft) (key : List String) : Bool :=
  draft.complete.any fun path => key.take path.length == path

/-- Change the table behind a path, making tables where there are none.  A list on the way
stands for its last table. -/
def changeTable (change : Entries → Option Entries) : List String → Entries → Option Entries
  | [], entries => change entries
  | key :: rest, entries =>
      match Entries.get? entries key with
      | none => do
          let inner ← changeTable change rest []
          some (Entries.put key (.mapping inner) entries)
      | some (.mapping inner) => do
          let inner ← changeTable change rest inner
          some (Entries.put key (.mapping inner) entries)
      | some (.list items) =>
          match items.getLast? with
          | some (.mapping inner) => do
              let inner ← changeTable change rest inner
              some (Entries.put key (.list (items.dropLast ++ [.mapping inner])) entries)
          | _ => none
      | some _ => none

/-- A header begins a section; what dotted keys opened before is then opened for good. -/
def settle (draft : Draft) : Draft :=
  { draft with opened := draft.pending ++ draft.opened, pending := [] }

def openTable (key : List String) (draft : Draft) : Option Draft :=
  let draft := draft.settle
  if draft.opened.contains key || draft.isComplete key then none
  else do
    let content ← changeTable some key draft.content
    some { draft with content, opened := key :: draft.opened, section_ := key }

def forget (key : List String) (paths : List (List String)) : List (List String) :=
  paths.filter fun path => path.take key.length != key

def appendTable (key : String) (entries : Entries) : Option Entries :=
  match Entries.get? entries key with
  | none => some (Entries.put key (.list [.mapping []]) entries)
  | some (.list items) => some (Entries.put key (.list (items ++ [.mapping []])) entries)
  | some _ => none

def openListTable (key : List String) (draft : Draft) : Option Draft :=
  let draft := draft.settle
  if draft.isComplete key then none
  else do
    let last ← key.getLast?
    let content ← changeTable (appendTable last) key.dropLast draft.content
    some { draft with
      content
      opened := key :: forget key draft.opened
      complete := forget key draft.complete
      section_ := key }

/-- The tables that a dotted key goes through, outermost first. -/
def dottedTables (sectionKey key : List String) : List (List String) :=
  (List.range key.length).tail.map fun n => sectionKey ++ key.take n

def putNew (key : String) (value : Value) (entries : Entries) : Option Entries :=
  if Entries.has entries key then none else some (Entries.put key value entries)

def assign (key : List String) (value : Value) (draft : Draft) : Option Draft :=
  let path := draft.section_ ++ key
  let through := dottedTables draft.section_ key
  if through.any fun table => draft.opened.contains table then none
  else if draft.isComplete path.dropLast then none
  else do
    let last ← key.getLast?
    let content ← changeTable (putNew last value) path.dropLast draft.content
    some { draft with
      content
      pending := through ++ draft.pending
      complete := if isContainer value then path :: draft.complete else draft.complete }

def apply (draft : Draft) : Statement → Option Draft
  | .assign key value => draft.assign key value
  | .table key => draft.openTable key
  | .listTable key => draft.openListTable key

end Draft

def document? (s : String) : Option Entries := do
  let cs := s.toList
  let statements ← statements? (cs.length + 1) cs
  let draft ← statements.foldlM Draft.apply Draft.start
  some draft.content

end StillMotion.Toml
