import StillMotion.Analysis.Registry
import StillMotion.Proofs.Config.Search
import StillMotion.Proofs.Pipeline.Production

/-!
# Loading configurations

A configuration that is loaded is accepted, and one that cannot be loaded leaves a fault of the
configuration.  The same holds of the backend that it asks for; loading changes nothing.
-/

namespace StillMotion

variable {ε : Type}

/-! ## Loading a configuration -/

namespace Config

def nearest (w : Workspace ε) : Path := answer w.files (placePath w.directory)

structure HasPlainDirectory (w : Workspace ε) : Prop where
  plain : ∀ name ∈ w.directory, name ≠ ".."
  proper : (placePath w.directory).holdsNull = false

/-- Whether there is a configuration in the current directory can be told. -/
structure IsSearchable (w : Workspace ε) : Prop extends HasPlainDirectory w where
  shallow : ¬ IsTooDeep w.files w.directory

/-- The configuration of a request, a given one or the nearest. -/
def chosen (config? : Option Config) : Act ε Config :=
  match config? with
  | some config => pure config
  | none => loadOrDefault none

theorem target_directory {w : Workspace ε} (plain : HasPlainDirectory w) :
    target (placePath w.directory) = w.directory := by
  rw [target, placePath, follow_of_plain plain.plain, List.nil_append]

theorem on_find_directory {w : Workspace ε} (searchable : IsSearchable w) :
    (find (placePath w.directory)).on w = (.ok (nearest w), w) := by
  refine on_find rfl searchable.proper (.inr ?_)
  rw [target_directory searchable.toHasPlainDirectory]
  exact searchable.shallow

theorem on_loadOrDefault_none (w : Workspace ε) :
    (loadOrDefault none).on w = (find (placePath w.directory) >>= fun path => do
      if ← Act.exists? path then load path else pure standard).on w := by
  have here : (currentDirectory : Act ε Path).on w = (.ok (placePath w.directory), w) := rfl
  unfold loadOrDefault
  dsimp only
  rw [Act.on_bind_ok here]

theorem on_loadOrDefault_nearest {w : Workspace ε} (searchable : IsSearchable w) :
    (loadOrDefault none).on w = (Act.exists? (nearest w) >>= fun found =>
      if found then load (nearest w) else pure standard).on w := by
  rw [on_loadOrDefault_none, Act.on_bind_ok (on_find_directory searchable)]

end Config

/-! ## Making a backend -/

namespace Config

theorem make_error {config : Config} {environment : Registry.Environment} {name : String}
    {fault : Fault} (missing : Registry.make config environment name = .error fault) :
    ∃ detail, fault = .config detail none none := by
  unfold Registry.make at missing
  split at missing
  · cases missing
  split at missing
  · split at missing
    next => exact ⟨_, (Except.error.inj missing).symm⟩
    next settings _ =>
      dsimp only at missing
      split at missing
      · exact ⟨_, (Except.error.inj missing).symm⟩
      · cases missing
  · exact ⟨_, (Except.error.inj missing).symm⟩

end Config

end StillMotion
