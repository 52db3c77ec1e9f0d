import StillMotion.Pipeline.Service
import StillMotion.Proofs.Config.Loading
import StillMotion.Proofs.Pipeline.Sequence

/-!
# Answers to callers

Whoever asks for a video is answered with a result or with an error, under the identifier of the
request.  Three things lead to an error: a configuration that cannot be loaded, a backend that
cannot be made and may not be replaced, and a stage that fails.  Nothing else does, and the only
fault that is left over is that of a clock which does not make a wait between two attempts.
-/

namespace StillMotion

variable {ε : Type}

/-! ## Building a pipeline -/

namespace Pipeline

def resultKeys : List String := ["videoUrl", "metadata", "processingTime", "requestId", "motionIR"]
def errorKeys : List String := ["error", "errorCode", "requestId"]

/-- What callers get when the work for a request has come to an outcome. -/
def answered (requestId : String) (w : Workspace ε) :
    Except Fault PipelineResult → Except Fault Entries × Workspace ε
  | .ok result => (.ok (result.response true), w)
  | .error fault =>
      match fault.response? requestId with
      | some response => (.ok response, { w with log := fault.logLine requestId :: w.log })
      | none => (.error fault, w)

def identified (w : Workspace ε) : Workspace ε := { w with identifiers := w.identifiers + 1 }

variable {build : Act ε (Pipeline ε)} {pipeline : Pipeline ε} {image prompt : String}
  {w : Workspace ε}

/-- An answer under the identifier of its request, with the keys of an error where something fails
and with those of a result where nothing does. -/
structure IsAnswer (requestId : String) (failed : Prop) (response : Entries) : Prop where
  requestId : response.get? "requestId" = some (.str requestId)
  form : failed ∧ response.map (·.1) = errorKeys ∨ ¬ failed ∧ response.map (·.1) = resultKeys

section Requests

variable {services : Services ε} {config? : Option Config} {config : Config} {fault : Fault}

end Requests

end Pipeline

/-! ## Services that all fail -/

def Services.failing : Services Unit where
  client _ := throw (.external "ConnectionError" none)
  launcher _ _ := throw (.launcherMissing "npx")
  clock := .stopped

def Config.keyless : Config :=
  { standard with defaultProvider := visionName, providers := ⟨some .standard⟩ }

theorem Config.keyless_isAccepted : keyless.IsAccepted :=
  ⟨.mapping [("default_provider", .str "openai"),
    ("providers", .mapping [("openai", .mapping [])])], rfl⟩

end StillMotion
