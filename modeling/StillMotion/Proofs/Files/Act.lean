import StillMotion.Files.Workspace
import StillMotion.Proofs.Data.Outcome

/-!
# Running acts

What each way of putting acts together does to the outcome and to the workspace that is left.
-/

namespace StillMotion.Act

open StillMotion.Number

variable {ε α β : Type}

/-- The outcome of an act and the workspace that it leaves. -/
def on (act : Act ε α) (w : Workspace ε) : Except Fault α × Workspace ε := act.run.run w

@[simp] theorem on_pure (a : α) (w : Workspace ε) : (pure a : Act ε α).on w = (.ok a, w) := rfl

theorem on_bind (act : Act ε α) (next : α → Act ε β) (w : Workspace ε) :
    (act >>= next).on w = match act.on w with
      | (.ok a, w') => (next a).on w'
      | (.error fault, w') => (.error fault, w') := by
  simp only [on, ExceptT.run_bind, StateT.run_bind]
  rcases StateT.run act.run w with ⟨_ | a, w'⟩ <;> rfl

theorem on_map (f : α → β) (act : Act ε α) (w : Workspace ε) :
    (f <$> act).on w = ((act.on w).1.map f, (act.on w).2) := by
  simp only [on, ExceptT.run_map, StateT.run_map]
  rfl

theorem on_tryCatch (act : Act ε α) (handle : Fault → Act ε α) (w : Workspace ε) :
    (tryCatch act handle).on w = match act.on w with
      | (.ok a, w') => (.ok a, w')
      | (.error fault, w') => (handle fault).on w' := by
  simp only [on, ExceptT.run_tryCatch, StateT.run_bind]
  rcases StateT.run act.run w with ⟨_ | a, w'⟩ <;> rfl

@[simp] theorem on_attempt (act : Act ε α) (w : Workspace ε) :
    (attempt act).on w = (.ok (act.on w).1, (act.on w).2) := by
  rw [attempt, on_tryCatch, on_map]
  rcases act.on w with ⟨_ | a, w'⟩ <;> rfl

@[simp] theorem on_of (outcome : Except Fault α) (w : Workspace ε) :
    (Act.of outcome : Act ε α).on w = (outcome, w) := by
  cases outcome <;> rfl

@[simp] theorem on_ofArithmetic (outcome : Except ArithmeticFault α) (w : Workspace ε) :
    (Act.ofArithmetic outcome : Act ε α).on w = (outcome.mapError .arithmetic, w) := by
  cases outcome <;> rfl

@[simp] theorem on_workspace (w : Workspace ε) : (workspace : Act ε _).on w = (.ok w, w) := rfl

@[simp] theorem on_warn (message : String) (w : Workspace ε) :
    (warn message).on w = (.ok (), { w with log := message :: w.log }) := rfl

@[simp] theorem on_ite (c : Prop) [Decidable c] (act other : Act ε α) (w : Workspace ε) :
    (if c then act else other).on w = if c then act.on w else other.on w := by
  split <;> rfl

theorem on_bind_ok {act : Act ε α} {next : α → Act ε β} {w v : Workspace ε} {a : α}
    (h : act.on w = (.ok a, v)) : (act >>= next).on w = (next a).on v := by
  rw [on_bind, h]

theorem on_bind_error {act : Act ε α} {next : α → Act ε β} {w v : Workspace ε} {fault : Fault}
    (h : act.on w = (.error fault, v)) : (act >>= next).on w = (.error fault, v) := by
  rw [on_bind, h]

theorem on_bind_eq_ok {act : Act ε α} {next : α → Act ε β} {w w' : Workspace ε} {b : β} :
    (act >>= next).on w = (.ok b, w') ↔
      ∃ a v, act.on w = (.ok a, v) ∧ (next a).on v = (.ok b, w') := by
  rw [on_bind]
  rcases act.on w with ⟨_ | a, v⟩
  · simp
  · constructor
    · exact fun ended => ⟨a, v, rfl, ended⟩
    · rintro ⟨_, _, same, ended⟩
      cases same
      exact ended

theorem on_eq_of_toOption {act : Act ε α} {w : Workspace ε} {a : α}
    (given : (act.on w).1.toOption = some a) : act.on w = (.ok a, (act.on w).2) :=
  Prod.ext (Except.toOption_eq_some.mp given) rfl

/-! ## Files -/

theorem on_nodeAt? (path : Path) (w : Workspace ε) :
    (nodeAt? path).on w =
      (if path.holdsNull then .ok none
      else match w.files.locate w.directory path with
        | .ok place => .ok (w.files.node? place)
        | .error .nameTooLong => .error (.file .nameTooLong path.text)
        | .error _ => .ok none, w) := by
  unfold nodeAt?
  split
  · rfl
  · rw [on_bind, on_workspace]
    dsimp only
    cases w.files.locate w.directory path with
    | ok place => rfl
    | error cause => cases cause <;> rfl

theorem on_exists? (path : Path) (w : Workspace ε) :
    (exists? path).on w = (((nodeAt? path).on w).1.map Option.isSome, w) := by
  obtain ⟨looked, same⟩ : ∃ looked, (nodeAt? path).on w = (looked, w) := ⟨_, on_nodeAt? path w⟩
  rw [exists?, on_bind, same]
  cases looked <;> rfl

theorem on_exists?_error {path : Path} {w w' : Workspace ε} {fault : Fault}
    (h : (exists? path).on w = (.error fault, w')) :
    fault = .file .nameTooLong path.text := by
  rw [on_exists?, on_nodeAt?, Prod.mk.injEq] at h
  replace h := h.1
  split at h
  · cases h
  · split at h
    · cases h
    · simpa [Except.map, eq_comm] using h
    · cases h

theorem on_onFiles (path : Path) (operation : FileTree → Place → Except FileCause α)
    (w : Workspace ε) :
    (onFiles path operation).on w =
      (if path.holdsNull then .error .nullInPath
      else (operation w.files w.directory).mapError fun cause => .file cause path.text, w) := by
  unfold onFiles checkedPath
  cases path.holdsNull with
  | true => rfl
  | false =>
      simp only [Bool.false_eq_true, if_false]
      rw [on_bind_ok (on_pure () w), on_bind_ok (on_workspace w)]
      cases operation w.files w.directory <;> rfl

theorem on_onFiles_error {path : Path} {operation : FileTree → Place → Except FileCause α}
    {w w' : Workspace ε} {fault : Fault}
    (h : (onFiles path operation).on w = (.error fault, w')) :
    fault = .nullInPath ∨ ∃ cause, fault = .file cause path.text := by
  rw [on_onFiles, Prod.mk.injEq] at h
  replace h := h.1
  split at h
  · cases h
    exact .inl rfl
  · obtain ⟨cause, _, rfl⟩ := Except.mapError_eq_error.mp h
    exact .inr ⟨cause, rfl⟩

theorem exists_on_readBytes (path : Path) (w : Workspace ε) :
    ∃ outcome, (readBytes path).on w = (outcome, w) := ⟨_, on_onFiles path _ w⟩

end StillMotion.Act

namespace StillMotion

variable {ε : Type} {w : Workspace ε} {path : Path} {content : ByteArray}

def Workspace.HasFile (w : Workspace ε) (path : Path) (content : ByteArray) : Prop :=
  path.holdsNull = false ∧ ∃ place executable, w.files.locate w.directory path = .ok place ∧
    w.files.node? place = some (.file content executable)

namespace Workspace.HasFile

theorem on_nodeAt? (h : w.HasFile path content) :
    ∃ executable, (Act.nodeAt? path).on w = (.ok (some (.file content executable)), w) := by
  obtain ⟨proper, place, executable, found, node⟩ := h
  exact ⟨executable, by simp [Act.on_nodeAt?, proper, found, node]⟩

theorem of_on_readBytes (read : ((Act.readBytes path).on w).1 = .ok content) :
    w.HasFile path content := by
  rw [Act.readBytes, Act.on_onFiles] at read
  dsimp only at read
  split at read
  next => cases read
  next proper =>
      obtain ⟨place, found, node⟩ := Except.bind_eq_ok.mp (Except.mapError_eq_ok.mp read)
      refine ⟨by simpa using proper, place, ?_⟩
      split at node
      next => cases node
      next => cases node
      next executable there =>
          cases node
          exact ⟨executable, found, there⟩

theorem not_of_empty (empty : w.files = .empty) : ¬ w.HasFile path content := by
  rintro ⟨-, place, executable, -, node⟩
  rw [empty, FileTree.node?] at node
  split at node <;> cases node

end Workspace.HasFile

end StillMotion
