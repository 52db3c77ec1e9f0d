import StillMotion.Config.Basic
import StillMotion.Data.Toml.Document
import StillMotion.Files.Workspace

/-!
# Finding and loading a configuration

The configuration is the file of its name in the nearest directory, from the start upwards.
A file that cannot be read or does not fit is a fault that names it.
-/

namespace StillMotion

namespace Config

def fileName : String := "reelify.toml"

variable {ε : Type}

def faultAt {α : Type} (path : Path) (detail : String) (issues : Option (List Issue)) : Act ε α :=
  throw (.config detail (some path.text) issues)

def load (path : Path) : Act ε Config := do
  if !(← Act.exists? path) then
    faultAt path (s!"Config file not found: {path.text}\nCopy reelify.toml.example to {fileName}")
      none
  let text ← match ← Act.attempt (Act.readText path) with
    | .ok text => pure text
    | .error fault => faultAt path s!"Failed to parse TOML: {fault.message}" none
  let entries ← match Toml.document? text with
    | some entries => pure entries
    | none => faultAt path "Failed to parse TOML: malformed document" none
  match codec.decode (.mapping entries) with
  | .ok config => pure config
  | .error issues =>
      faultAt path s!"Invalid configuration: {Fault.issueCount codec.title issues.length}"
        (some issues)

/-! ## Finding -/

/-- Follow names from a place, whatever exists there. -/
def follow (place : Place) : List String → Place
  | [] => place
  | name :: rest =>
      if name == ".." then follow place.dropLast rest else follow (place ++ [name]) rest

def placePath (place : Place) : Path := ⟨.top, place⟩

/-- Look for a directory with a configuration, from a place upwards; `fuel` bounds the steps.
The top itself is not looked at. -/
def search : Nat → Place → Act ε (Option Place)
  | 0, _ => pure none
  | fuel + 1, place =>
      if place.isEmpty then pure none
      else do
        if ← Act.exists? ((placePath place).child fileName) then pure (some place)
        else search fuel place.dropLast

/-- Where the configuration is for a start directory; where it would be, when there is none. -/
def find (start : Path) : Act ε Path := do
  Act.checkedPath start
  let w ← Act.workspace
  let place := follow (if start.isAbsolute then [] else w.directory) start.names
  match ← search (place.length + 1) place with
  | some dir => pure ((placePath dir).child fileName)
  | none => pure (start.child fileName)

def currentDirectory : Act ε Path := do
  return placePath (← Act.workspace).directory

/-- The configuration of a given file, or the nearest one, or the standard one. -/
def loadOrDefault (path? : Option Path) : Act ε Config := do
  match path? with
  | some path => load path
  | none => do
      let path ← find (← currentDirectory)
      if ← Act.exists? path then load path else pure standard

end Config

end StillMotion
