import StillMotion.Config.Basic
import StillMotion.Proofs.Data.Record

/-!
# Accepted configurations

What is known of a configuration because it was read without an issue.
-/

namespace StillMotion

def Config.IsAccepted (config : Config) : Prop := ∃ data, codec.decode data = .ok config

theorem le_of_atLeast {least n : Int} (h : atLeast least n = none) : least ≤ n := by
  unfold atLeast at h
  split at h
  next bound => exact bound
  next => cases h

open Fields in
theorem PipelineSettings.one_le_maxRetries :
    PipelineSettings.codec.Ensures fun settings => 1 ≤ settings.maxRetries := by
  refine Codec.ensures_record (ensures_anyField (ensures_anyField ?_))
  refine ensures_field (Q := fun n => 1 ≤ n) (Field.ensures ?_ ?_) ?_
  · exact Codec.ensures_refine fun _ => le_of_atLeast
  · rintro _ ⟨⟩
    decide
  · exact ensures_anyField (ensures_anyField (ensures_of fun _ _ _ bound _ _ => bound))

open Fields in
theorem Config.one_le_maxRetries :
    Config.codec.Ensures fun config => 1 ≤ config.pipeline.maxRetries := by
  refine Codec.Ensures.refine (Codec.ensures_record ?_) _
  refine ensures_anyField (ensures_anyField (ensures_anyField ?_))
  refine ensures_field (Field.ensures PipelineSettings.one_le_maxRetries ?_) ?_
  · rintro _ ⟨⟩
    decide
  · refine ensures_anyField (ensures_anyField (ensures_anyField (ensures_of ?_)))
    exact fun _ _ _ _ bound _ _ _ => bound

theorem Config.IsAccepted.one_le_maxAttempts {config : Config} (accepted : config.IsAccepted) :
    1 ≤ config.maxAttempts := by
  obtain ⟨data, read⟩ := accepted
  have bound : 1 ≤ config.pipeline.maxRetries := Config.one_le_maxRetries data config read
  unfold Config.maxAttempts
  split
  · omega
  · exact Nat.le_refl 1

/-! ## Default providers -/

namespace Config

theorem mem_availableProviders {config : Config} {name : String} :
    name ∈ config.availableProviders ↔
      name = fallbackName ∨ name = visionName ∧ config.providers.openai.isSome := by
  unfold availableProviders
  cases config.providers.openai <;> simp

theorem providerIssue?_eq_none {config : Config} :
    config.providerIssue? = none ↔ config.defaultProvider ∈ config.availableProviders := by
  unfold providerIssue?
  split
  next available => simpa using available
  next missing => simpa using missing

theorem IsAccepted.defaultProvider_mem {config : Config} (accepted : config.IsAccepted) :
    config.defaultProvider ∈ config.availableProviders := by
  obtain ⟨data, read⟩ := accepted
  exact providerIssue?_eq_none.mp (Codec.decode_refine read).2

theorem nameIssue?_of_mem {config : Config} {name : String}
    (available : name ∈ config.availableProviders) : nameIssue? name = none := by
  rcases mem_availableProviders.mp available with rfl | ⟨rfl, -⟩
  · rfl
  · rfl

open Fields in
theorem IsAccepted.withDefault_iff {config : Config} (accepted : config.IsAccepted)
    (name : String) :
    IsAccepted { config with defaultProvider := name } ↔ name ∈ config.availableProviders := by
  constructor
  · exact fun accepted' => accepted'.defaultProvider_mem
  · intro available
    obtain ⟨data, read⟩ := accepted
    have named : (Codec.refine .text nameIssue?).decode (.str name) = .ok name :=
      Codec.decode_refine_of_fits rfl (nameIssue?_of_mem available)
    obtain ⟨data', _, read', rfl⟩ := Codec.exists_decode_record
      (fun config config' => config' = { config with defaultProvider := name })
      (turns_anyField (by decide) <| turns_anyField (by decide) <| turns_anyField (by decide) <|
        turns_anyField (by decide) <| turns_anyField (by decide) <| turns_anyField (by decide) <|
          turns_first named fun _ _ _ _ _ _ _ => rfl)
      (by decide) (Codec.decode_refine read).1
    exact ⟨data', Codec.decode_refine_of_fits read' (providerIssue?_eq_none.mpr available)⟩

end Config

end StillMotion
