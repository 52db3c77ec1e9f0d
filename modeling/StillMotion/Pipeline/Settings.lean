import StillMotion.Config.Basic
import StillMotion.Data.Operation
import StillMotion.Draft

/-!
# Settings of a run

What a pipeline asks of its configuration while it works.  A configuration that fits answers
every question.  One that is changed while the pipeline is at work holds what it was given, and
an answer fails where that cannot be used.
-/

namespace StillMotion

open StillMotion.Number

structure SettingsReport where
  maxAttempts : Value
  backoffSeconds : Value
  timeoutSeconds : Value
  validates : Value
  fallsBack : Value

structure RunSettings where
  /-- How often a stage is tried at most. -/
  attempts : Except Fault Nat
  /-- How many seconds are waited after an attempt. -/
  waitAfter : Nat → Except Fault Numeric
  /-- Whether what does not fit is refused. -/
  validates : Except Fault Bool
  /-- How many seconds a renderer may take, as it was given. -/
  deadline : Except Fault Value
  outputFormat : Except Fault String
  /-- Where a file of a name goes. -/
  outputPlace : Except Fault (Path → Except Fault Path)
  /-- What every address of a video starts with. -/
  address : Except Fault String
  /-- Whether a policy can be made from the settings of the director. -/
  director : Except Fault Unit
  report : Except Fault SettingsReport

def withoutLastSlashes (s : String) : String :=
  String.ofList (s.toList.reverse.dropWhile (· == '/')).reverse

namespace RunSettings

def ofConfig (config : Config) : RunSettings where
  attempts := .ok config.maxAttempts
  waitAfter attempt := .ok (.float (config.pipeline.backoffSeconds * Float.ofNat attempt))
  validates := .ok config.pipeline.enableValidation
  deadline := .ok (.float config.pipeline.timeoutSeconds)
  outputFormat := .ok config.render.outputFormat
  outputPlace := .ok fun name => .ok (config.paths.outputDirectory.join name)
  address := .ok (withoutLastSlashes config.publicBaseUrl)
  director := .ok ()
  report := .ok {
    maxAttempts := .int config.maxAttempts
    backoffSeconds := .float config.pipeline.backoffSeconds
    timeoutSeconds := .float config.pipeline.timeoutSeconds
    validates := .bool config.pipeline.enableValidation
    fallsBack := .bool config.pipeline.enableFallbacks }

/-! ## Settings as they are given -/

def setting (d : Draft) (sectionName name : String) : Except Fault Draft := do
  (← d.field sectionName).field name

def givenAttempts (d : Draft) : Except Fault Value := do
  if (← setting d "pipeline" "enable_fallbacks").isPresent then
    return (← setting d "pipeline" "max_retries").operand
  else return .int 1

def countOf (v : Value) : Except Fault Nat := do
  let next ← (Value.combine .add v (.int 1)).mapError .misfit
  match next.integer? with
  | some n => .ok (n - 1).toNat
  | none => .error (.misfit (.notInteger next.kindName))

def waitOf (backoff : Value) (attempt : Nat) : Except Fault Numeric := do
  let wait ← (Value.combine .multiply backoff (.int attempt)).mapError .misfit
  match wait.numeric? with
  | some n => .ok n
  | none => .error (.misfit (.kindOf "TypeError" s!"must be real number, not {wait.kindName}"))

/-- A directory; a value that was given in its place is none. -/
def placeIn (directory : Draft) (name : Path) : Except Fault Path :=
  match directory with
  | .exact (.str s) => .ok ((Path.ofText s).join name)
  | d => .error (.misfit (.operands Operator.divide.symbol d.kindName (Value.kindName (.str ""))))

def addressOf (d : Draft) : Except Fault String :=
  match d.operand with
  | .str s => .ok (withoutLastSlashes s)
  | _ => d.noAttribute "rstrip"

def reportOf (d : Draft) : Except Fault SettingsReport := do
  let maxAttempts ← givenAttempts d
  let shown (name : String) : Except Fault Value := return (← setting d "pipeline" name).operand
  return {
    maxAttempts
    backoffSeconds := ← shown "backoff_sec"
    timeoutSeconds := ← shown "timeout_sec"
    validates := ← shown "enable_validation"
    fallsBack := ← shown "enable_fallbacks" }

def ofDraft (d : Draft) : RunSettings where
  attempts := do countOf (← givenAttempts d)
  waitAfter attempt := do waitOf (← setting d "pipeline" "backoff_sec").operand attempt
  validates := return (← setting d "pipeline" "enable_validation").isPresent
  deadline := return (← setting d "pipeline" "timeout_sec").operand
  outputFormat := return (← setting d "render" "output_format").operand.shown
  outputPlace := return placeIn (← setting d "paths" "output_dir")
  address := do addressOf (← d.field "public_base_url")
  director := do
    let _ ← setting d "director" "default_duration"
    return ()
  report := reportOf d

end RunSettings

end StillMotion
