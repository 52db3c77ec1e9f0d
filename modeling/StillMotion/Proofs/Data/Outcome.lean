import Mathlib.Data.List.Forall2

/-!
# Outcomes

What the outcome of a sequence of computations says about its parts.
-/

namespace Except

variable {ε ε' α β : Type}

theorem ok_bind (a : α) (next : α → Except ε β) : (.ok a >>= next) = next a := rfl

theorem toOption_bind (first : Except ε α) (next : α → Except ε β) :
    (first >>= next).toOption = first.toOption.bind fun a => (next a).toOption := by
  cases first <;> rfl

theorem toOption_eq_some {outcome : Except ε α} {a : α} :
    outcome.toOption = some a ↔ outcome = .ok a := by
  cases outcome with
  | error fault => exact iff_of_false nofun nofun
  | ok a' => simp [Except.toOption]

theorem bind_eq_ok {first : Except ε α} {next : α → Except ε β} {b : β} :
    first >>= next = .ok b ↔ ∃ a, first = .ok a ∧ next a = .ok b := by
  cases first with
  | error e => simp [bind, Except.bind]
  | ok a => simp [bind, Except.bind]

theorem bind_eq_error {first : Except ε α} {next : α → Except ε β} {e : ε} :
    first >>= next = .error e ↔ first = .error e ∨ ∃ a, first = .ok a ∧ next a = .error e := by
  cases first with
  | error e' => simp [bind, Except.bind]
  | ok a => simp [bind, Except.bind]

theorem map_eq_error {outcome : Except ε α} {f : α → β} {e : ε} :
    outcome.map f = .error e ↔ outcome = .error e := by
  cases outcome <;> simp [Except.map]

@[simp] theorem mapError_eq_ok {outcome : Except ε α} {f : ε → ε'} {a : α} :
    outcome.mapError f = .ok a ↔ outcome = .ok a := by
  constructor
  · intro mapped
    cases outcome with
    | error e => cases mapped
    | ok a' =>
        cases mapped
        rfl
  · rintro rfl
    rfl

theorem mapError_eq_error {outcome : Except ε α} {f : ε → ε'} {e' : ε'} :
    outcome.mapError f = .error e' ↔ ∃ e, outcome = .error e ∧ f e = e' := by
  constructor
  · intro mapped
    cases outcome with
    | error e =>
        cases mapped
        exact ⟨e, rfl, rfl⟩
    | ok a => cases mapped
  · rintro ⟨e, rfl, rfl⟩
    rfl

theorem mapM_eq_ok_iff {f : α → Except ε β} {xs : List α} {ys : List β} :
    xs.mapM f = .ok ys ↔ List.Forall₂ (fun x y => f x = .ok y) xs ys := by
  induction xs generalizing ys with
  | nil => simp [pure, Except.pure, eq_comm]
  | cons x xs ih =>
      rw [List.mapM_cons, bind_eq_ok]
      simp only [bind_eq_ok, ih, pure, Except.pure, Except.ok.injEq]
      constructor
      · rintro ⟨y, first, rest, later, rfl⟩
        exact .cons first later
      · rintro (_ | ⟨first, later⟩)
        exact ⟨_, first, _, later, rfl⟩

theorem exists_mapM_eq_ok {f : α → Except ε β} {xs : List α}
    (each : ∀ x ∈ xs, ∃ y, f x = .ok y) : ∃ ys, xs.mapM f = .ok ys := by
  induction xs with
  | nil => exact ⟨[], rfl⟩
  | cons x xs ih =>
      obtain ⟨y, first⟩ := each x (by simp)
      obtain ⟨ys, later⟩ := ih fun x member => each x (by simp [member])
      exact ⟨y :: ys, by rw [mapM_eq_ok_iff] at later ⊢; exact .cons first later⟩

theorem mapM_eq_error_iff {f : α → Except ε β} {fault e : ε} {xs : List α}
    (only : ∀ x e, f x = .error e → e = fault) :
    xs.mapM f = .error e ↔ e = fault ∧ ∃ x ∈ xs, f x = .error fault := by
  induction xs with
  | nil => simp [pure, Except.pure]
  | cons x xs ih =>
      rw [List.mapM_cons, bind_eq_error]
      simp only [List.exists_mem_cons_iff, bind_eq_error, ih, pure, Except.pure, reduceCtorEq,
        and_false, exists_false, or_false]
      constructor
      · rintro (first | ⟨y, first, rfl, later⟩)
        · have same := only x e first
          rw [same] at first
          exact ⟨same, .inl first⟩
        · exact ⟨rfl, .inr later⟩
      · rintro ⟨rfl, first | later⟩
        · exact .inl first
        · rcases outcome : f x with e' | y
          · rw [only x e' outcome]
            exact .inl rfl
          · exact .inr ⟨y, rfl, rfl, later⟩

end Except
