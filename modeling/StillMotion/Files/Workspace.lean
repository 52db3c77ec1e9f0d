import StillMotion.Artifact.Naming
import StillMotion.Data.Operation
import StillMotion.Files.Tree
import StillMotion.Text.Blank
import StillMotion.Text.Utf8

/-!
# Workspaces

Everything that a run can see and change besides its arguments: files, variables, clocks, a
source of identifiers and a log.  An `Act` is a computation on a workspace that can fail; what
it did before it failed stays done.  The last field is the state of collaborators from outside,
whatever they are.
-/

namespace StillMotion

open StillMotion.Number

structure Workspace (ε : Type) where
  files : FileTree
  /-- The directory in which relative paths start. -/
  directory : Place
  environment : List (String × String)
  /-- The time of day, in seconds. -/
  time : Float
  now : Timestamp
  /-- How many identifiers have been given out. -/
  identifiers : Nat
  /-- A clock that advances by `tick` whenever it is read. -/
  clock : Float
  tick : Float
  /-- The waits so far, the latest first. -/
  sleeps : List Numeric
  /-- The log so far, the latest message first. -/
  log : List String
  outside : ε

abbrev Act (ε α : Type) := ExceptT Fault (StateM (Workspace ε)) α

namespace Act

variable {ε α : Type}

def fail (fault : Fault) : Act ε α := throw fault

def of : Except Fault α → Act ε α
  | .ok a => pure a
  | .error fault => throw fault

def ofArithmetic : Except ArithmeticFault α → Act ε α
  | .ok a => pure a
  | .error cause => throw (.arithmetic cause)

def workspace : Act ε (Workspace ε) := get

def change (f : Workspace ε → Workspace ε) : Act ε Unit := modify f

def attempt (act : Act ε α) : Act ε (Except Fault α) := tryCatch (Except.ok <$> act) (pure ∘ .error)

/-! ## Clocks, identifiers, log -/

def warn (message : String) : Act ε Unit := change fun w => { w with log := message :: w.log }

def readClock : Act ε Float := do
  change fun w => { w with clock := w.clock + w.tick }
  return (← workspace).clock

def elapse (seconds : Numeric) : Act ε Unit :=
  change fun w => { w with
    clock := w.clock + seconds.toFloat
    sleeps := seconds :: w.sleeps }

def nanosecondLimit : Float := 9223372036854775808.0

def spanFault? (now seconds : Float) : Option Fault :=
  if seconds < 0.0 then
    some (.external "ValueError" (some "sleep length must be non-negative"))
  else if nanosecondLimit ≤ (now + seconds) * 1e9 then
    some (.external "OSError" (some "[Errno 22] Invalid argument"))
  else none

def sleepFault? (now : Float) : Numeric → Option Fault
  | .float x =>
      if x.isNaN then
        some (.external "ValueError" (some "Invalid value NaN (not a number)"))
      else if -nanosecondLimit ≤ x * 1e9 && x * 1e9 < nanosecondLimit then spanFault? now x
      else
        some (.external "OverflowError" (some "timestamp out of range for platform time_t"))
  | .int n =>
      if -9223372036854775808 ≤ n * 1000000000 && n * 1000000000 < 9223372036854775808 then
        spanFault? now (Number.ofInt n)
      else
        some (.external "OverflowError" (some "timestamp too large to convert to C _PyTime_t"))

def sleep (seconds : Numeric) : Act ε Unit := do
  match sleepFault? (← workspace).clock seconds with
  | some fault => throw fault
  | none => elapse seconds

def identifierText (n : Nat) : String :=
  String.ofList (Text.hexDigits 8 n ++ List.replicate 24 '0')

def newIdentifier : Act ε String := do
  change fun w => { w with identifiers := w.identifiers + 1 }
  return identifierText (← workspace).identifiers

def newName (start ending : String) : Act ε String := do
  let millisecond ← ofArithmetic (Artifact.milliseconds (← workspace).time)
  let identifier ← newIdentifier
  return Artifact.name start ending millisecond identifier

/-! ## Files -/

def checkedPath (path : Path) : Act ε Unit :=
  if path.holdsNull then throw .nullInPath else pure ()

/-- Apply a file operation; a failure is told with the path. -/
def onFiles (path : Path) (operation : FileTree → Place → Except FileCause α) : Act ε α := do
  checkedPath path
  let w ← workspace
  match operation w.files w.directory with
  | .ok a => pure a
  | .error cause => throw (.file cause path.text)

def changeFiles (path : Path) (operation : FileTree → Place → Except FileCause FileTree) :
    Act ε Unit := do
  let files ← onFiles path operation
  change fun w => { w with files }

/-- What is at a path.  A path that cannot be walked leads to nothing, unless a name on it is
too long. -/
def nodeAt? (path : Path) : Act ε (Option Node) := do
  if path.holdsNull then return none
  let w ← workspace
  match w.files.locate w.directory path with
  | .ok place => return w.files.node? place
  | .error .nameTooLong => throw (.file .nameTooLong path.text)
  | .error _ => return none

def exists? (path : Path) : Act ε Bool := do
  return (← nodeAt? path).isSome

def readBytes (path : Path) : Act ε ByteArray :=
  onFiles path fun files directory => files.read directory path

/-- Read a text file; every line ends in a line feed. -/
def readText (path : Path) : Act ε String := do
  let bytes ← readBytes path
  match Utf8.decode bytes with
  | .ok s => return Text.unified s
  | .error cause => throw (.encoding cause)

def writeBytes (path : Path) (content : ByteArray) : Act ε Unit :=
  changeFiles path fun files directory => files.write directory path content

def writeText (path : Path) (content : String) : Act ε Unit := writeBytes path content.toUTF8

def makeOneDirectory (path : Path) : Act ε Unit :=
  changeFiles path fun files directory =>
    match files.makeDirectory directory path with
    | .ok files => .ok files
    | .error cause =>
        match files.locate directory path with
        | .ok place => if files.isDirectory place then .ok files else .error cause
        | .error _ => .error cause

/-- Make a directory and those that lead to it, `fuel` bounding their number. -/
def makeDirectoriesWith : Nat → Path → Act ε Unit
  | 0, path => makeOneDirectory path
  | fuel + 1, path => do
      match ← attempt (makeOneDirectory path) with
      | .ok _ => pure ()
      | .error (.file .notFound shown) =>
          if path.parent == path then throw (.file .notFound shown)
          else do
            makeDirectoriesWith fuel path.parent
            makeOneDirectory path
      | .error fault => throw fault

def makeDirectories (path : Path) : Act ε Unit := makeDirectoriesWith path.names.length path

/-- Remove a file; one that is not there is no fault. -/
def removeIfThere (path : Path) : Act ε Unit := do
  match ← attempt (changeFiles path fun files directory => files.unlink directory path) with
  | .ok _ => pure ()
  | .error (.file .notFound _) => pure ()
  | .error fault => throw fault

def sizeOf (path : Path) : Act ε Nat := do
  onFiles path fun files directory => do
    let place ← files.locate directory path
    match files.node? place with
    | some (.file content _) => .ok content.size
    | some .directory => .ok 4096
    | none => .error .notFound

end Act

end StillMotion
