import StillMotion.Data.Operation
import StillMotion.Number.Notation
import StillMotion.Render.Outcome
import StillMotion.Scripting.Launch
import StillMotion.Text.Blank
import StillMotion.Text.Search
import StillMotion.Text.Utf8

/-!
# Running a renderer

The process of a renderer is judged by how it ends and by the file that it leaves.
-/

/-!
## The end of a render log

Of what a renderer writes only the last lines are kept.  Blank lines and the blanks at the ends
of lines are dropped.  Output that is no text leaves no lines, unless it is only cut off inside of
its last character: then the whole lines before that are kept.
-/

namespace StillMotion.LogTail

open StillMotion.Text

def size : Nat := 20

/-- Note a line; the oldest one goes when there are too many. -/
def note (tail : List String) (line : String) : List String :=
  let longer := tail ++ [line]
  longer.drop (longer.length - size)

/-- Note a line without the blanks at its end, unless nothing is left of it. -/
def take (tail : List String) (line : List Char) : List String :=
  let shown := trimRight line
  if shown.isEmpty then tail else note tail (String.ofList shown)

def ofLines (lines : List (List Char)) : List String := lines.foldl take []

/-- The lines of a text that have an end.  A carriage return with which the text stops is no end
yet, as a line feed may belong to it. -/
def endedLines (cs : List Char) : List (List Char) :=
  let read := if cs.getLast? == some '\r' then cs.dropLast else cs
  lines (read.reverse.dropWhile fun c => c != '\n' && c != '\r').reverse

def ofOutput (output : ByteArray) : List String :=
  match Utf8.decode output with
  | .ok text => ofLines (lines text.toList)
  | .error fault =>
      if fault.cause == .unexpectedEnd then
        match Utf8.decode (output.extract 0 fault.first) with
        | .ok text => ofLines (endedLines text.toList)
        | .error _ => []
      else []

end StillMotion.LogTail

namespace StillMotion

open StillMotion.Number

variable {ε : Type}

abbrev Launcher (ε : Type) := List String → Float → Act ε Scripting.Finished

/-- The launcher of the workspace; the process sees the variables of the workspace. -/
def Launcher.standard : Launcher ε := fun command deadline => Scripting.launch command deadline none

namespace RenderOutcome

def expiredMessage (deadline : Float) : String :=
  "render exceeded " ++ String.ofList (briefText deadline) ++ "s and was terminated"

def unusableMessage (output : Path) : String :=
  s!"render process succeeded but {output.text} is missing or empty"

def isUsable (path : Path) : Act ε Bool := do
  if !(← Act.exists? path) then return false
  return (← Act.sizeOf path) != 0

def ofFinished (command : String) (output : Path) (deadline : Float)
    (finished : Scripting.Finished) : Act ε RenderOutcome := do
  let tail := LogTail.ofOutput finished.output
  let told (status : RenderStatus) (code : Option Int) (message : String) : RenderOutcome :=
    ⟨status.word, output.text, code, message, tail⟩
  match finished.ending with
  | .notStarted cause =>
      let fault : Fault := .file cause command
      return { told .spawnError none s!"{fault.kind}: {fault.message}" with logTail := [] }
  | .expired => return told .timeout none (expiredMessage deadline)
  | .exited code =>
      if code != 0 then
        return told .exitError (some code) s!"render process exited with code {code}"
      if ← isUsable output then return told .ok (some 0) ""
      return told .emptyOutput (some 0) (unusableMessage output)

def ofCommand (launcher : Launcher ε) (command : List String) (output : Path) (deadline : Float) :
    Act ε RenderOutcome := do
  let finished ← launcher command deadline
  ofFinished (command.head?.getD "") output deadline finished

/-- The seconds that a value stands for; where none are given there is no limit. -/
def seconds : Value → Except Fault Float
  | .null => .ok (infinity false)
  | v => do
      let sum ← (Value.combine .add (.float 0.0) v).mapError .misfit
      .ok ((sum.numeric?.map Numeric.toFloat).getD 0.0)

/-- Run a command with a deadline as it was given.  One that cannot be reckoned with shows only
when the command has started. -/
def ofCommandGiven (launcher : Launcher ε) (command : List String) (output : Path)
    (deadline : Value) : Act ε RenderOutcome :=
  match seconds deadline with
  | .ok limit => ofCommand launcher command output limit
  | .error fault => do
      let outcome ← ofCommand launcher command output (infinity false)
      if outcome.hasStarted then throw fault else return outcome

end RenderOutcome

end StillMotion
