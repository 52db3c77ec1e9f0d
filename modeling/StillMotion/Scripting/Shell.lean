import StillMotion.Files.Tree
import StillMotion.Scripting.Script

/-!
# The state of a running script

A script changes files and variables and writes to its console, which collects everything
that is not sent elsewhere.  Waiting takes time; a script that runs past its deadline is stopped.
What a script starts in the background is a job, which is put off until it is waited for or the
script has ended.
-/

namespace StillMotion.Scripting

inductive Stop where
  | exit (status : Nat)
  | killed (process signal : Nat)
  | expired
  /-- Leave loops, or go on with the next round of one. -/
  | leave (levels : Nat)
  | again (levels : Nat)
  | back (status : Nat)
deriving DecidableEq, Repr

inductive Target where
  | console
  | buffer (position : Nat)
  | file (place : Place)
  | nowhere

structure Streams where
  out : Target
  err : Target

structure Setting where
  directory : Place
  environment : List (String × String)
  /-- The variables that programs see. -/
  exported : List String
  /-- The variables that keep their values. -/
  fixed : List String
  /-- What the local variables of a function hid; nothing outside of functions. -/
  hidden : Option (List (String × Option String))
  functions : List (String × Command)
  /-- What is done at signals, and at the end for the number zero. -/
  traps : List (Nat × String)
  process : Nat
  /-- How many loops are around the command. -/
  loops : Nat
  /-- The name of the script and its arguments. -/
  name : String
  arguments : List String
  status : Nat
  /-- Whether a failing command ends the script. -/
  stopsOnFailure : Bool
  /-- Whether a parameter without value ends the script. -/
  stopsOnMissing : Bool
  /-- Whether commands are shown before they run. -/
  showsCommands : Bool
  /-- What stands before reports on a text that a command has run as part of the script. -/
  context : String

structure Job where
  number : Nat
  start : Float
  streams : Streams
  setting : Setting
  body : Command

/-- Where input comes from: given bytes, or a device that never ends. -/
inductive Input where
  | bytes (content : ByteArray)
  | zeros

structure Shell extends Setting where
  files : FileTree
  elapsed : Float
  deadline : Float
  console : ByteArray
  /-- What is collected for use in the script. -/
  buffers : List ByteArray
  input : Input
  /-- The jobs that have not run yet, in the order of their start. -/
  jobs : List Job
  /-- The numbers of the jobs that have ended and their statuses. -/
  ended : List (Nat × Nat)
  /-- The number of the process that was started last. -/
  started : Nat

abbrev Run (α : Type) := ExceptT Stop (StateM Shell) α

namespace Run

def shell : Run Shell := get

def change (f : Shell → Shell) : Run Unit := modify f

def stop {α : Type} (reason : Stop) : Run α := throw reason

/-- Let a computation end in a value, whatever stops it. -/
def caught {α : Type} (act : Run α) : Run (Except Stop α) :=
  tryCatch (Except.ok <$> act) (pure ∘ .error)

def resume {α : Type} : Except Stop α → Run α
  | .ok a => pure a
  | .error reason => stop reason

def setStatus (status : Nat) : Run Nat := do
  change fun s => { s with status }
  return status

/-! ## Output -/

def write (target : Target) (bytes : ByteArray) : Run Unit :=
  change fun s =>
    match target with
    | .console => { s with console := s.console ++ bytes }
    | .buffer n => { s with buffers := s.buffers.modify n (· ++ bytes) }
    | .file place => { s with files := s.files.append place bytes }
    | .nowhere => s

def say (target : Target) (text : String) : Run Unit := write target text.toUTF8

def report (streams : Streams) (line : Nat) (message : String) : Run Unit := do
  let s ← shell
  say streams.err s!"{s.name}: {line}: {message}\n"

def reportHere (streams : Streams) (line : Nat) (message : String) : Run Unit := do
  report streams line ((← shell).context ++ message)

def withContext {α : Type} (context : String) (act : Run α) : Run α := do
  let before := (← shell).context
  change fun s => { s with context }
  let result ← caught act
  change fun s => { s with context := before }
  resume result

def showCommand (streams : Streams) (words : List String) : Run Unit := do
  if (← shell).showsCommands then say streams.err ("+ " ++ " ".intercalate words ++ "\n")

def collected {α : Type} (act : Target → Run α) : Run (Except Stop α × ByteArray) := do
  let position := (← shell).buffers.length
  change fun s => { s with buffers := s.buffers ++ [ByteArray.empty] }
  let result ← caught (act (.buffer position))
  let bytes := ((← shell).buffers[position]?).getD ByteArray.empty
  change fun s => { s with buffers := s.buffers.take position }
  return (result, bytes)

/-! ## Time -/

def wait (seconds : Float) : Run Unit := do
  change fun s => { s with elapsed := s.elapsed + seconds }
  let s ← shell
  if s.deadline ≤ s.elapsed then stop .expired

/-! ## Variables -/

def valueOf (name : String) : Run (Option String) := do
  return ((← shell).environment.find? fun entry => entry.1 == name).map (·.2)

def withValue (name value : String) : List (String × String) → List (String × String)
  | [] => [(name, value)]
  | entry :: rest =>
      if entry.1 == name then (name, value) :: rest else entry :: withValue name value rest

def assign (name value : String) : Run Unit :=
  change fun s => { s with environment := withValue name value s.environment }

/-! ## Files -/

def sink : String := "/dev/null"

def endless : List String := ["/dev/zero", "/dev/urandom", "/dev/random"]

/-- Read a file; the cause of a failure is left to the caller to tell. -/
def openInput (text : String) : Run (Except FileCause Input) := do
  let s ← shell
  if text.isEmpty then return .error .notFound
  if text == sink then return .ok (.bytes ByteArray.empty)
  if endless.contains text then return .ok .zeros
  return (s.files.read s.directory (Path.ofText text)).map .bytes

def openFile (append : Bool) (text : String) : Run (Except FileCause Target) := do
  let s ← shell
  if text == sink then return .ok .nowhere
  if text.isEmpty then return .error .notFound
  let path := Path.ofText text
  match s.files.locate s.directory path with
  | .error cause => return .error cause
  | .ok place =>
      match s.files.node? place with
      | some .directory => return .error .isDirectory
      | some (.file _ executable) =>
          if append then return .ok (.file place)
          else do
            change fun s => { s with files := s.files.put place (.file ByteArray.empty executable) }
            return .ok (.file place)
      | none => do
          change fun s => { s with files := s.files.put place (.file ByteArray.empty false) }
          return .ok (.file place)

/-! ## Input -/

/-- As many bytes as are taken from a device that never ends. -/
def plenty : Nat := 65536

def zeroBytes (count : Nat) : ByteArray := ⟨Array.replicate count 0⟩

def withInput {α : Type} (input : Input) (act : Run α) : Run α := do
  let before := (← shell).input
  change fun s => { s with input }
  let result ← caught act
  change fun s => { s with input := before }
  resume result

/-- Take all of the input.  What never ends cannot be taken in time. -/
def takeInput : Run ByteArray := do
  match (← shell).input with
  | .bytes content => do
      change fun s => { s with input := .bytes ByteArray.empty }
      return content
  | .zeros => stop .expired

/-- The first bytes of an input, at most so many. -/
def firstBytes (count : Nat) : Input → ByteArray
  | .bytes content => content.extract 0 count
  | .zeros => zeroBytes count

def allBytes : Input → Run ByteArray
  | .bytes content => pure content
  | .zeros => stop .expired

end Run

end StillMotion.Scripting
