import StillMotion.Files.Workspace
import StillMotion.Scripting.Interpreter

/-!
# Launching processes

A process is started from a command and runs until it ends, is killed or its deadline passes.
What it wrote up to then is kept.  After its end its jobs may go on writing for a while.
-/

namespace StillMotion.Scripting

open Run

/-- How a process ended; the status of a killed process is the negated number of the signal. -/
inductive Ending where
  | notStarted (cause : FileCause)
  | exited (status : Int)
  | expired
deriving DecidableEq, Repr

structure Finished where
  output : ByteArray
  ending : Ending

def Ending.ofResult : Except Stop Nat → Ending
  | .ok status => .exited status
  | .error (.exit status) => .exited status
  | .error (.back status) => .exited status
  | .error (.killed _ signal) => .exited (-(signal : Int))
  | .error .expired => .expired
  | .error (.leave _) => .exited 0
  | .error (.again _) => .exited 0

/-! ## Running -/

def stepLimit : Nat := 20000

def firstProcess : Nat := 4000

def startState (files : FileTree) (directory : Place) (environment : List (String × String))
    (deadline : Float) : Shell where
  directory
  environment
  exported := environment.map (·.1)
  fixed := []
  hidden := none
  functions := []
  traps := []
  process := firstProcess
  loops := 0
  name := "sh"
  arguments := []
  status := 0
  stopsOnFailure := false
  stopsOnMissing := false
  showsCommands := false
  context := ""
  files
  elapsed := 0.0
  deadline
  console := ByteArray.empty
  buffers := []
  input := .bytes ByteArray.empty
  jobs := []
  ended := []
  started := firstProcess

def Job.holdsConsole (job : Job) : Bool :=
  match job.streams.out, job.streams.err with
  | .console, _ | _, .console => true
  | _, _ => false

def patience : Float := 1.0

def runOn (deadline : Float) (jobs : List Job) : Run Unit := do
  for job in jobs do
    let _ ← caught (withDeadline deadline (runJob stepLimit job))

/-- Let the jobs of a process go on after its end: as long as one of them can write to the
console, but not for long. -/
def runOnAll (result : Except Stop Nat) : Run Unit := do
  let s ← shell
  let (writers, others) := s.jobs.partition Job.holdsConsole
  match result with
  | .error .expired => runOn s.deadline s.jobs
  | _ => do
      runOn (s.elapsed + patience) writers
      runOn (← shell).elapsed others

def runCommand (name : String) (args : List String) : Run Ending := do
  let streams : Streams := ⟨.console, .console⟩
  if (← shell).deadline ≤ 0.0 then return .expired
  match ← caught (start streams 1 true stepLimit name args) with
  | .ok (.error cause) => return .notStarted cause
  | .ok (.ok status) => finished (.ok status)
  | .error reason => finished (.error reason)
where
  finished (result : Except Stop Nat) : Run Ending := do
    runOnAll result
    return .ofResult result

/-- Run a command until its deadline.  `environment` are its variables in place of those of the
workspace. -/
def launch {ε : Type} (command : List String) (deadline : Float)
    (environment : Option (List (String × String))) : Act ε Finished := do
  let w ← Act.workspace
  match command with
  | [] => throw .index
  | name :: args => do
      let texts := command ++ (environment.getD []).flatMap fun (key, value) => [key, value]
      if (environment.getD []).any fun entry => entry.1.contains '=' then
        throw (.external "ValueError" (some "illegal environment variable name"))
      if texts.any fun text => text.contains (Char.ofNat 0) then throw .nullInPath
      let begun := startState w.files w.directory (environment.getD w.environment) deadline
      let (result, finish) := (ExceptT.run (runCommand name args)).run begun
      Act.change fun w => { w with files := finish.files }
      return ⟨finish.console, result.toOption.getD .expired⟩

end StillMotion.Scripting
