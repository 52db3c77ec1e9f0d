import StillMotion.Files.Workspace
import StillMotion.Number.Notation

/-!
# The course of a run

A run is a computation on a workspace that also notes what became of its stages.  A stage whose
work fails is tried again after a wait that grows with every attempt, up to the number of
attempts that the settings allow.  Input that a stage refuses is not tried again.

What a clock tells is a parameter, and so is what it can be told to wait: doubles and numbers as
they are given when the library runs, rational numbers when it is reasoned about.
-/

namespace StillMotion

open StillMotion.Number

/-!
## Stages

A video is made in five stages, one after the other.  What became of each is noted.
-/

inductive Stage where
  | analyze
  | direct
  | compose
  | render
  | publish
deriving DecidableEq, Repr

namespace Stage

def word : Stage → String
  | .analyze => "analyze"
  | .direct => "direct"
  | .compose => "compose"
  | .render => "render"
  | .publish => "publish"

def sequence : List Stage := [.analyze, .direct, .compose, .render, .publish]

end Stage

/-- What became of a stage; seconds are told in `τ`. -/
structure StageNote (τ : Type) where
  stage : Stage
  succeeded : Bool
  /-- From the start of the first attempt to the end of the last one, in seconds. -/
  duration : τ
  attempts : Nat
  message : String
deriving Repr

abbrev StageResult := StageNote Float

variable {τ ω ε α : Type}

/-! ## Clocks -/

structure Timer (τ ω ε : Type) where
  read : Act ε τ
  wait : ω → Act ε Unit

abbrev Clock (ε : Type) := Timer Float Numeric ε

/-- Waits that can be told in words. -/
class Wait (ω : Type) where
  /-- The seconds, with one digit after the point. -/
  text : ω → List Char

instance : Wait Numeric := ⟨fun seconds => fixedText 1 seconds.toFloat⟩

instance : Wait Rat := ⟨Exact.fixed 1⟩

namespace Clock

def ofWorkspace : Clock ε := ⟨Act.readClock, Act.sleep⟩

def stopped : Clock ε := ⟨pure 0.0, fun _ => pure ()⟩

end Clock

/-! ## Notes -/

/-- A computation that notes the results of stages.  A failure ends it; the notes stay. -/
abbrev Course (τ ε α : Type) :=
  ExceptT Fault (StateT (List (StageNote τ)) (StateM (Workspace ε))) α

namespace Course

def lift (act : Act ε α) : Course τ ε α := ExceptT.mk (StateT.lift act.run)

def note (result : StageNote τ) : Course τ ε Unit := modify fun results => results ++ [result]

/-- Note how a stage that began at `start` has ended. -/
def conclude [Sub τ] (clock : Timer τ ω ε) (stage : Stage) (start : τ) (succeeded : Bool)
    (attempts : Nat) (message : String) : Course τ ε Unit := do
  let finish ← lift clock.read
  note ⟨stage, succeeded, finish - start, attempts, message⟩

end Course

/-! ## Attempts -/

/-- Input that was refused would be refused again. -/
def Fault.isFinal : Fault → Bool
  | .gate _ _ => true
  | _ => false

structure StageRun (τ ω ε : Type) where
  clock : Timer τ ω ε
  stage : Stage
  requestId : String
  /-- How often the stage is tried at most. -/
  limit : Nat
  /-- How many seconds are waited after an attempt. -/
  waitAfter : Nat → Except Fault ω

namespace StageRun

def shortId (requestId : String) : String := (requestId.take 8).toString

variable [Sub τ] [Wait ω]

def retryMessage (run : StageRun τ ω ε) (attempt : Nat) (fault : Fault) (wait : ω) : String :=
  s!"[{shortId run.requestId}] {run.stage.word} attempt {attempt}/{run.limit} failed " ++
    s!"({fault.message}); retrying in " ++ String.ofList (Wait.text wait) ++ "s"

def giveUp (run : StageRun τ ω ε) (start : τ) (attempt : Nat) (fault : Fault) : Course τ ε α := do
  Course.conclude run.clock run.stage start false attempt fault.message
  throw (fault.wrap run.stage.word run.requestId attempt)

def finish (run : StageRun τ ω ε) (start : τ) (attempt : Nat) (value : α) : Course τ ε α := do
  Course.conclude run.clock run.stage start true attempt "ok"
  return value

def pause (run : StageRun τ ω ε) (attempt : Nat) (fault : Fault) : Act ε Unit := do
  let wait ← Act.of (run.waitAfter attempt)
  Act.warn (run.retryMessage attempt fault wait)
  run.clock.wait wait

/-- Try the work; after a failure `left` more attempts are made. -/
def tryFrom (run : StageRun τ ω ε) (work : Act ε α) (start : τ) :
    (left attempt : Nat) → Course τ ε α
  | 0, attempt => do
      match ← Course.lift (Act.attempt work) with
      | .ok value => run.finish start attempt value
      | .error fault => run.giveUp start attempt fault
  | left + 1, attempt => do
      match ← Course.lift (Act.attempt work) with
      | .ok value => run.finish start attempt value
      | .error fault =>
          if fault.isFinal then run.giveUp start attempt fault
          else do
            Course.lift (run.pause attempt fault)
            tryFrom run work start left (attempt + 1)

/-- A stage that may not be tried at all fails without a note. -/
def neverTried : Fault := .external "AssertionError" (some "unreachable")

/-- Run a stage that began at `start`. -/
def perform (run : StageRun τ ω ε) (start : τ) (work : Act ε α) : Course τ ε α := do
  match run.limit with
  | 0 => throw neverTried
  | limit + 1 => run.tryFrom work start limit 1

end StageRun

end StillMotion
