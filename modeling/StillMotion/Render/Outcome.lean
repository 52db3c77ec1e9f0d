/-!
# Outcomes of a render process

What became of one run of the renderer: it could not be started, failed, took too long, left no
usable output, or succeeded.
-/

namespace StillMotion

inductive RenderStatus where
  | ok
  | spawnError
  | exitError
  | timeout
  | emptyOutput
deriving DecidableEq, Repr

def RenderStatus.word : RenderStatus → String
  | .ok => "ok"
  | .spawnError => "spawn_error"
  | .exitError => "exit_error"
  | .timeout => "timeout"
  | .emptyOutput => "empty_output"

structure RenderOutcome where
  status : String
  outputPath : String
  returnCode : Option Int
  message : String
  logTail : List String
deriving DecidableEq, Repr

namespace RenderOutcome

def isOk (outcome : RenderOutcome) : Bool := outcome.status == RenderStatus.ok.word

def hasStarted (outcome : RenderOutcome) : Bool := outcome.status != RenderStatus.spawnError.word

def lastOf {α : Type} (count : Nat) (items : List α) : List α := items.drop (items.length - count)

def toldLines : Nat := 5

def description (outcome : RenderOutcome) : String :=
  let head := "render " ++ outcome.status ++ ": " ++ outcome.message
  if outcome.logTail.isEmpty then head
  else head ++ "\n" ++ "\n".intercalate (lastOf toldLines outcome.logTail)

end RenderOutcome

end StillMotion
