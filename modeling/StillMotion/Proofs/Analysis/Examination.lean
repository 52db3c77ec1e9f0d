import StillMotion.Pipeline.Service
import StillMotion.Proofs.Analysis.Usable
import StillMotion.Proofs.Files.Act

/-!
# Examinations

The examination of an image ends with a usable schema whatever its backend does: the schema of
the backend's answer, or that of the reference alone when there is no answer or none that can be
normalized.  The first stage of a run can therefore refuse nothing but an image that is missing.
-/

namespace StillMotion

variable {ε : Type}

/-! ## Answers -/

def Backend.answer (backend : Backend ε) (reference : String) (w : Workspace ε) :
    Except Fault VisualSchema := do
  let raw ← ((backend.analyze reference).on w).1
  (VisualSchema.normalize raw).mapError .arithmetic

namespace VisualSchema

/-- A schema is the one of the backend's answer, or else the one of the reference alone. -/
def IsAnswer (backend? : Option (Backend ε)) (reference : String) (w : Workspace ε)
    (schema : VisualSchema) : Prop :=
  match backend? with
  | none => normalize (Fallback.payload reference) = .ok schema
  | some backend =>
      match backend.answer reference w with
      | .ok found => schema = found
      | .error _ => normalize (Fallback.payload reference) = .ok schema

theorem IsAnswer.isUsable {backend? : Option (Backend ε)} {reference : String}
    {w : Workspace ε} {schema : VisualSchema} (h : IsAnswer backend? reference w schema) :
    schema.IsUsable := by
  cases backend? with
  | none => exact isUsable_of_normalize h
  | some backend =>
      cases answered : backend.answer reference w with
      | error fault =>
          simp only [IsAnswer, answered] at h
          exact isUsable_of_normalize h
      | ok found =>
          simp only [IsAnswer, answered] at h
          subst h
          obtain ⟨raw, _, normalized⟩ := Except.bind_eq_ok.mp answered
          exact isUsable_of_normalize (Except.mapError_eq_ok.mp normalized)

theorem exists_on_ofReference (reference : String) :
    ∃ schema, normalize (Fallback.payload reference) = .ok schema ∧
      ∀ w : Workspace ε, (ofReference reference).on w = (.ok schema, w) := by
  obtain ⟨schema, normalized⟩ := exists_normalize_encode (Fallback.describe reference)
  refine ⟨schema, normalized, fun w => ?_⟩
  rw [ofReference, Act.on_ofArithmetic, Fallback.payload, normalized]
  rfl

theorem on_ask (backend : Backend ε) (reference : String) (w : Workspace ε) :
    (do let raw ← backend.analyze reference
        Act.ofArithmetic (normalize raw) : Act ε VisualSchema).on w =
      (backend.answer reference w, ((backend.analyze reference).on w).2) := by
  rw [Act.on_bind, Backend.answer]
  rcases (backend.analyze reference).on w with ⟨_ | raw, w'⟩
  · rfl
  · exact Act.on_ofArithmetic _ _

theorem exists_on_ofImage (backend? : Option (Backend ε)) (reference : String)
    (w : Workspace ε) :
    ∃ schema w', (ofImage backend? reference).on w = (.ok schema, w') ∧
      IsAnswer backend? reference w schema := by
  cases backend? with
  | none =>
      obtain ⟨schema, normalized, run⟩ := exists_on_ofReference reference
      exact ⟨schema, w, run w, normalized⟩
  | some backend =>
      simp only [ofImage, IsAnswer]
      rw [Act.on_bind, Act.on_attempt, on_ask]
      cases backend.answer reference w with
      | ok schema => exact ⟨schema, _, rfl, rfl⟩
      | error fault =>
          obtain ⟨schema, normalized, run⟩ := @exists_on_ofReference ε reference
          exact ⟨schema, _, run _, normalized⟩

end VisualSchema

/-! ## The first stage -/

namespace Pipeline

def examine (pipeline : Pipeline ε) (image : String) : Act ε VisualSchema := do
  let schema ← pipeline.analyst.examine image
  pipeline.gate .analyze schema.validate
  return schema

theorem on_analyze (pipeline : Pipeline ε) (image : String) (w : Workspace ε) :
    (pipeline.analyze image).on w =
      if isRemote image then (pipeline.examine image).on w
      else match (Act.exists? (Path.ofText image)).on w with
        | (.ok true, w') => (pipeline.examine image).on w'
        | (.ok false, w') =>
            (.error (.gate Stage.analyze.word [s!"image not found: {image}"]), w')
        | (.error fault, w') => (.error fault, w') := by
  unfold analyze
  cases isRemote image with
  | true => rfl
  | false =>
      simp only [Bool.not_false, if_true, Bool.false_eq_true, if_false]
      rw [Act.on_bind]
      rcases (Act.exists? (Path.ofText image)).on w with ⟨_ | there, w'⟩
      · rfl
      · cases there <;> rfl

theorem on_gate (pipeline : Pipeline ε) (stage : Stage) (validation : ValidationResult)
    (w : Workspace ε) :
    (pipeline.gate stage validation).on w =
      match pipeline.settings.validates with
      | .ok validates =>
          if validates && !validation.isValid then
            (.error (.gate stage.word validation.errors), w)
          else (.ok (), w)
      | .error fault => (.error fault, w) := by
  rw [gate, Act.on_bind, Act.on_of]
  cases pipeline.settings.validates with
  | error fault => rfl
  | ok validates => exact Act.on_ite _ _ _ _

variable (pipeline : Pipeline ε) (config : Config) (backend? : Option (Backend ε))

def withBackend : Pipeline ε :=
  { pipeline with settings := .ofConfig config, analyst := .ofBackend backend? }

theorem on_examine {image : String} {w w' : Workspace ε} {schema : VisualSchema}
    (examined : (VisualSchema.ofImage backend? image).on w = (.ok schema, w'))
    (usable : schema.IsUsable) :
    ((pipeline.withBackend config backend?).examine image).on w = (.ok schema, w') := by
  have valid : schema.validate = ⟨true, []⟩ := VisualSchema.validate_eq_valid.mpr usable
  have passed : ((pipeline.withBackend config backend?).gate .analyze schema.validate).on w' =
      (.ok (), w') := by
    rw [on_gate, valid]
    simp [withBackend, RunSettings.ofConfig]
  exact (Act.on_bind_ok examined).trans (Act.on_bind_ok passed)

theorem exists_on_examine (image : String) (w : Workspace ε) :
    ∃ schema w', ((pipeline.withBackend config backend?).examine image).on w =
      (.ok schema, w') := by
  obtain ⟨schema, w', examined, answer⟩ := VisualSchema.exists_on_ofImage backend? image w
  exact ⟨schema, w', pipeline.on_examine config backend? examined answer.isUsable⟩

theorem analyze_gate_iff (image stage : String) (errors : List String) (w : Workspace ε) :
    (∃ w', ((pipeline.withBackend config backend?).analyze image).on w =
        (.error (.gate stage errors), w')) ↔
      isRemote image = false ∧ ((Act.exists? (Path.ofText image)).on w).1 = .ok false ∧
        stage = "analyze" ∧ errors = [s!"image not found: {image}"] := by
  have examined (w : Workspace ε) := exists_on_examine pipeline config backend? image w
  rw [on_analyze]
  cases isRemote image with
  | true =>
      obtain ⟨schema, w', run⟩ := examined w
      simp [run]
  | false =>
      simp only [Bool.false_eq_true, if_false, true_and]
      rcases found : (Act.exists? (Path.ofText image)).on w with ⟨fault | there, w'⟩
      · simp [Act.on_exists?_error found]
      · cases there with
        | true =>
            obtain ⟨schema, w'', run⟩ := examined w'
            simp [run]
        | false => simp [Stage.word, eq_comm]

end Pipeline

/-! ## Every analysis -/

/-- Whatever a backend does, and without one, the analysis of an image ends with a schema in
which the gate finds nothing wrong, and the first stage of a run refuses only a missing file. -/
theorem analysis_usable (backend? : Option (Backend ε)) (image : String) (w : Workspace ε) :
    (∃ schema w', (VisualSchema.ofImage backend? image).on w = (.ok schema, w') ∧
      schema.validate = ⟨true, []⟩ ∧ VisualSchema.IsAnswer backend? image w schema) ∧
    ∀ (pipeline : Pipeline ε) (config : Config) (stage : String) (errors : List String),
      (∃ w', ((pipeline.withBackend config backend?).analyze image).on w =
          (.error (.gate stage errors), w')) ↔
        isRemote image = false ∧ ((Act.exists? (Path.ofText image)).on w).1 = .ok false ∧
          stage = "analyze" ∧ errors = [s!"image not found: {image}"] := by
  constructor
  · obtain ⟨schema, w', examined, answer⟩ := VisualSchema.exists_on_ofImage backend? image w
    exact ⟨schema, w', examined, VisualSchema.validate_eq_valid.mpr answer.isUsable, answer⟩
  · intro pipeline config stage errors
    exact pipeline.analyze_gate_iff config backend? image stage errors w

end StillMotion
