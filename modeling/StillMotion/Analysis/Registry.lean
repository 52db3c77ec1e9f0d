import StillMotion.Analysis.Vision

/-!
# The registry of backends

Backends are made when they are first asked for, and kept: later requests for a name are
answered by the same instance.  The vision backend needs a key from the variables of the
environment at the moment at which it is made.
-/

namespace StillMotion

inductive BackendKind where
  | standalone
  | vision (settings : VisionConfig) (key : String)
deriving DecidableEq, Repr

/-- A backend that has been made; no two of a registry have the same serial number. -/
structure BackendInstance where
  kind : BackendKind
  serial : Nat
deriving DecidableEq, Repr

namespace BackendInstance

def id (made : BackendInstance) : String :=
  match made.kind with
  | .standalone => fallbackName
  | .vision _ _ => visionName

def model? (made : BackendInstance) : Option String :=
  match made.kind with
  | .standalone => none
  | .vision settings _ => some settings.model

def backend {ε : Type} (client : Vision.ChatRequest → Act ε Vision.Reply)
    (made : BackendInstance) : Backend ε :=
  match made.kind with
  | .standalone => .standalone
  | .vision settings _ => Vision.backend settings client

end BackendInstance

structure Registry where
  config : Config
  made : List (String × BackendInstance)
  /-- How many instances have been made. -/
  count : Nat

namespace Registry

abbrev Environment := String → Option String

def ofConfig (config : Config) : Registry := ⟨config, [], 0⟩

def configFault {α : Type} (detail : String) : Except Fault α := .error (.config detail none none)

def make (config : Config) (environment : Environment) (name : String) :
    Except Fault BackendKind :=
  if name == fallbackName then .ok .standalone
  else if name == visionName then
    match config.providers.openai with
    | none => configFault
        "Provider 'openai' is not configured in reelify.toml. Add a [providers.openai] section."
    | some settings =>
        let key := (environment settings.apiKeyVariable).getD ""
        if key.isEmpty then configFault
          (s!"Environment variable {settings.apiKeyVariable} is not set; " ++
            "it is required by the 'openai' analysis provider.")
        else .ok (.vision settings key)
  else configFault (s!"Unknown provider: '{name}'. Available providers: " ++
    Text.quotedList config.availableProviders)

def find? (registry : Registry) (name : String) : Option BackendInstance :=
  (registry.made.find? fun entry => entry.1 == name).map (·.2)

def get (environment : Environment) (name : String) (registry : Registry) :
    Except Fault (BackendInstance × Registry) :=
  match registry.find? name with
  | some known => .ok (known, registry)
  | none => do
      let kind ← make registry.config environment name
      let made : BackendInstance := ⟨kind, registry.count⟩
      let known := (name, made) :: registry.made
      .ok (made, { registry with made := known, count := registry.count + 1 })

def getDefault (environment : Environment) (registry : Registry) :
    Except Fault (BackendInstance × Registry) :=
  registry.get environment registry.config.defaultProvider

end Registry

end StillMotion
