import StillMotion.Data.Json.Writer
import StillMotion.Document.Lexer
import StillMotion.Document.Meaning
import StillMotion.Failure.Report
import StillMotion.Files.Workspace

/-!
# Reading and writing documents

A document is a mapping in YAML, of which JSON is nearly a part.  An empty document is an empty
mapping.  Documents are written as JSON, laid out in lines.
-/

namespace StillMotion.Document

/-- The value of a text; a text without content means nothing. -/
def valueOf (text : String) : Except Fault Value := do
  match ← rootOf (tokens text) with
  | none => .ok .null
  | some node => meaningOf node

/-- The mapping that a text is; `path` is for the report that it is something else. -/
def mappingIn (path : Path) (text : String) : Except Fault Value := do
  match ← valueOf text with
  | .null => .ok (.mapping [])
  | .mapping entries => .ok (.mapping entries)
  | .table pairs => .ok (.table pairs)
  | _ => .error (.rootNotMapping path.text)

/-! ## Keys as texts -/

def keyText : Value → String
  | .stamp s => (s.replace "T" " ").replace "Z" "+00:00"
  | key => key.shown

mutual

/-- A value in which all keys are written as texts.  A value inside itself has no such form. -/
def withTextKeys : Value → Except Fault Value
  | .list items => return .list (← itemsWithTextKeys items)
  | .mapping entries => return .mapping (← entriesWithTextKeys entries)
  | .table pairs => return .mapping (Entries.ofList (← pairsWithTextKeys pairs))
  | .cycle _ => .error .tooDeep
  | value => .ok value

def itemsWithTextKeys : List Value → Except Fault (List Value)
  | [] => .ok []
  | item :: rest => return (← withTextKeys item) :: (← itemsWithTextKeys rest)

def entriesWithTextKeys : List (String × Value) → Except Fault Entries
  | [] => .ok []
  | (key, value) :: rest => return (key, ← withTextKeys value) :: (← entriesWithTextKeys rest)

def pairsWithTextKeys : List (Value × Value) → Except Fault Entries
  | [] => .ok []
  | (key, value) :: rest =>
      return (keyText key, ← withTextKeys value) :: (← pairsWithTextKeys rest)

end

/-! ## Files -/

variable {ε α : Type}

def read (path : Path) : Act ε Value := do
  let text ← Act.readText path
  Act.of (mappingIn path text)

def load (codec : Codec α) (path : Path) : Act ε α := do
  Act.of (codec.read (← read path))

def text (payload : Value) : String := Json.text Json.indented payload

/-- Write a document; its directory is made first. -/
def write (path : Path) (payload : Value) : Act ε Unit := do
  Act.makeDirectories path.parent
  Act.ofArithmetic (Json.requireText payload)
  Act.writeText path (text payload)

end StillMotion.Document
