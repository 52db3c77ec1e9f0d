import StillMotion.Analysis.Fallback
import StillMotion.Analysis.Normalize
import StillMotion.Files.Workspace

/-!
# Analysis backends

A backend answers the reference of an image with data about it, or fails.  An answer is brought
into the form of a visual schema; when the backend or its answer cannot be used, the schema is
that of the analysis without a backend, and the failure is logged.
-/

namespace StillMotion

variable {ε : Type}

structure Backend (ε : Type) where
  id : String
  /-- The model behind the backend, when there is one. -/
  model : Option String
  analyze : String → Act ε Value

namespace Backend

/-- The backend that needs nothing but the reference. -/
def standalone : Backend ε := ⟨"fallback", none, fun reference => pure (Fallback.payload reference)⟩

def nameOf (backend? : Option (Backend ε)) : String :=
  match backend? with
  | some backend => backend.id
  | none => "fallback"

end Backend

namespace VisualSchema

def ofReference (reference : String) : Act ε VisualSchema :=
  Act.ofArithmetic (normalize (Fallback.payload reference))

def backendFailure (id : String) (fault : Fault) : String :=
  s!"Image analysis via '{id}' failed ({fault.kind}: {fault.message}). Using fallback schema."

def ofImage (backend? : Option (Backend ε)) (reference : String) : Act ε VisualSchema :=
  match backend? with
  | none => ofReference reference
  | some backend => do
      let answer ← Act.attempt do
        let raw ← backend.analyze reference
        Act.ofArithmetic (normalize raw)
      match answer with
      | .ok schema => pure schema
      | .error fault => do
          Act.warn (backendFailure backend.id fault)
          ofReference reference

end VisualSchema

/-!
## Analysts

What gives the visual schema of an image, under a name.
-/

structure Analyst (ε : Type) where
  id : String
  examine : String → Act ε VisualSchema

def Analyst.ofBackend (backend? : Option (Backend ε)) : Analyst ε :=
  ⟨Backend.nameOf backend?, VisualSchema.ofImage backend?⟩

end StillMotion
