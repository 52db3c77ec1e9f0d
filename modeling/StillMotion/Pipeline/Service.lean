import StillMotion.Analysis.Registry
import StillMotion.Config.Load
import StillMotion.Pipeline.Basic
import StillMotion.Render.CommandRenderer

/-!
# The pipeline as a service

A pipeline is built from a configuration.  Its callers get a result or an error, never both, and
can ask how it is.
-/

namespace StillMotion

variable {ε : Type}

structure Services (ε : Type) where
  client : Vision.ChatRequest → Act ε Vision.Reply
  launcher : Launcher ε
  clock : Clock ε

namespace Pipeline

def standardRenderer (services : Services ε) (config : Config) : Renderer ε :=
  .ofCommand services.launcher config.render.toCommand config.paths.temporaryDirectory

/-- The pipeline of a configuration; the images are analyzed by a backend, if there is one. -/
def ofBackend (services : Services ε) (config : Config) (backend? : Option (Backend ε)) :
    Pipeline ε where
  settings := .ofConfig config
  analyst := .ofBackend backend?
  renderer := standardRenderer services config
  policy := .proper (.ofSettings config.director)
  clock := services.clock

def unavailableMessage (fault : Fault) : String :=
  s!"Analysis provider unavailable ({fault.message}); using fallback analysis."

/-- The backend of a configuration; unless it may not be replaced, the standalone one stands in
for one that cannot be made. -/
def backendFor (services : Services ε) (config : Config) : Act ε (Backend ε) := do
  let w ← Act.workspace
  let environment : Registry.Environment := fun name =>
    (w.environment.find? fun entry => entry.1 == name).map (·.2)
  match (Registry.ofConfig config).getDefault environment with
  | .ok (made, _) => return made.backend services.client
  | .error fault =>
      if config.pipeline.enableFallbacks then do
        Act.warn (unavailableMessage fault)
        return .standalone
      else throw fault

def ofConfig (services : Services ε) (config : Config) : Act ε (Pipeline ε) := do
  return ofBackend services config (some (← backendFor services config))

end Pipeline

/-! ## Answers to callers -/

def errorResponse (message : String) (category : ErrorCategory) (requestId : String) : Entries :=
  [("error", .str message), ("errorCode", .str category.word), ("requestId", .str requestId)]

namespace Fault

def response? (requestId : String) : Fault → Option Entries
  | .pipeline message category id _ => some (errorResponse message category id)
  | .config detail path issues =>
      let fault : Fault := .config detail path issues
      some (errorResponse (s!"Configuration error: {fault.message}. " ++
        "Please check reelify.toml and the analysis provider credentials.") .unknown requestId)
  | _ => none

def logLine (requestId : String) : Fault → String
  | .pipeline message _ id _ => s!"[{StageRun.shortId id}] {message}"
  | fault => s!"[{StageRun.shortId requestId}] configuration error: {fault.message}"

end Fault

namespace Pipeline

def generate (build : Act ε (Pipeline ε)) (image prompt : String) : Act ε Entries := do
  let requestId ← Act.newIdentifier
  let outcome ← Act.attempt do
    let pipeline ← build
    pipeline.run image prompt (some requestId)
  match outcome with
  | .ok result => return result.response true
  | .error fault =>
      match fault.response? requestId with
      | some response => do
          Act.warn (fault.logLine requestId)
          return response
      | none => throw fault

def generateWith (services : Services ε) (config? : Option Config) (image prompt : String) :
    Act ε Entries :=
  generate (do
    let config ← match config? with
      | some config => pure config
      | none => Config.loadOrDefault none
    ofConfig services config) image prompt

end Pipeline

/-! ## Health -/

/-- Which components work, and what is wrong with those that do not. -/
structure HealthReport where
  components : List (String × Bool)
  errors : List String
deriving DecidableEq, Repr

namespace HealthReport

def isHealthy (report : HealthReport) : Bool := report.components.all (·.2)

def add (report : HealthReport) (name : String) (outcome : Except Fault Unit) : HealthReport :=
  match outcome with
  | .ok () => { report with components := report.components ++ [(name, true)] }
  | .error fault =>
      ⟨report.components ++ [(name, false)],
        report.errors ++ [s!"{name}: {fault.kind}: {fault.message}"]⟩

def empty : HealthReport := ⟨[], []⟩

end HealthReport

structure PipelineStats where
  settings : SettingsReport
  analyst : String
  renderer : String
  rendererAvailable : Bool

namespace PipelineStats

def entries (stats : PipelineStats) (version : String) : Entries :=
  [("version", .str version),
   ("stages", Value.strings (Stage.sequence.map Stage.word)),
   ("max_attempts", stats.settings.maxAttempts),
   ("backoff_sec", stats.settings.backoffSeconds),
   ("timeout_sec", stats.settings.timeoutSeconds),
   ("validation_enabled", stats.settings.validates),
   ("fallbacks_enabled", stats.settings.fallsBack),
   ("analysis_provider", .str stats.analyst),
   ("renderer", .str stats.renderer),
   ("renderer_available", .bool stats.rendererAvailable)]

end PipelineStats

namespace Pipeline

/-- Check the components.  Analysis and composition always work. -/
def health (pipeline : Pipeline ε) : Act ε HealthReport := do
  let renderer ← Act.attempt (Functor.discard pipeline.renderer.id)
  return HealthReport.empty
    |>.add "mapper" (.ok ())
    |>.add "director" pipeline.settings.director
    |>.add "coder" (.ok ())
    |>.add "renderer" renderer

def stats (pipeline : Pipeline ε) : Act ε PipelineStats := do
  return {
    settings := ← Act.of pipeline.settings.report
    analyst := pipeline.analyst.id
    renderer := ← pipeline.renderer.id
    rendererAvailable := ← pipeline.renderer.isAvailable }

end Pipeline

end StillMotion
