import StillMotion.Pipeline.Course
import StillMotion.Proofs.Files.Act

/-!
# Courses and attempts

What a course gives, notes and leaves, for each way of putting courses together, and the rules
for what holds afterwards: of the value and the state when the course goes well, of the fault
and the state when it fails.

A stage is tried until an attempt succeeds, is refused for good or is the last one that may be
made, or until the clock does not wait as it is told to.  `StageRun.Tried` relates the workspaces
before and after those attempts; performing a stage is making them and settling how they ended.
-/

/-! ## Running courses -/

namespace StillMotion.Course

variable {τ ε α β : Type}

/-- The outcome of a course, the notes after it and the workspace that it leaves. -/
def on (course : Course τ ε α) (notes : List (StageNote τ)) (w : Workspace ε) :
    Except Fault α × List (StageNote τ) × Workspace ε :=
  let ((outcome, notes), w) := (course.run.run notes).run w
  (outcome, notes, w)

@[simp] theorem on_get (notes : List (StageNote τ)) (w : Workspace ε) :
    (get : Course τ ε (List (StageNote τ))).on notes w = (.ok notes, notes, w) := rfl

@[simp] theorem on_note (result : StageNote τ) (notes : List (StageNote τ)) (w : Workspace ε) :
    (note result : Course τ ε Unit).on notes w = (.ok (), notes ++ [result], w) := rfl

@[simp] theorem on_lift (act : Act ε α) (notes : List (StageNote τ)) (w : Workspace ε) :
    (lift act).on notes w = ((act.on w).1, notes, (act.on w).2) := rfl

theorem on_bind (course : Course τ ε α) (next : α → Course τ ε β) (notes : List (StageNote τ))
    (w : Workspace ε) :
    (course >>= next).on notes w = match course.on notes w with
      | (.ok a, notes', w') => (next a).on notes' w'
      | (.error fault, notes', w') => (.error fault, notes', w') := by
  simp only [on, ExceptT.run_bind, StateT.run_bind]
  rcases StateT.run (StateT.run course.run notes) w with ⟨⟨_ | a, notes'⟩, w'⟩ <;> rfl

theorem on_bind_ok {course : Course τ ε α} {next : α → Course τ ε β}
    {notes notes' : List (StageNote τ)} {w w' : Workspace ε} {a : α}
    (h : course.on notes w = (.ok a, notes', w')) :
    (course >>= next).on notes w = (next a).on notes' w' := by
  rw [on_bind, h]

theorem on_noted (course : Course τ ε α) (notes : List (StageNote τ)) (w : Workspace ε) :
    Act.on (ExceptT.lift (course.run.run notes)) w =
      (.ok ((course.on notes w).1, (course.on notes w).2.1), (course.on notes w).2.2) := rfl

/-! ## What holds afterwards -/

/-- A course that starts from some notes and a workspace ends well in `good` or fails in `bad`. -/
def Leads (course : Course τ ε α) (notes : List (StageNote τ)) (w : Workspace ε)
    (good : α → List (StageNote τ) → Workspace ε → Prop)
    (bad : Fault → List (StageNote τ) → Workspace ε → Prop) : Prop :=
  match course.on notes w with
  | (.ok a, notes', w') => good a notes' w'
  | (.error fault, notes', w') => bad fault notes' w'

section Rules

variable {notes : List (StageNote τ)} {w : Workspace ε}
  {good : α → List (StageNote τ) → Workspace ε → Prop}
  {better : β → List (StageNote τ) → Workspace ε → Prop}
  {bad : Fault → List (StageNote τ) → Workspace ε → Prop}

/-- A sequence fails as its first part does, or goes on from where that part ends. -/
theorem Leads.bind {course : Course τ ε α} {next : α → Course τ ε β}
    (first : course.Leads notes w good bad)
    (second : ∀ a notes' w', good a notes' w' → (next a).Leads notes' w' better bad) :
    (course >>= next).Leads notes w better bad := by
  unfold Leads at first ⊢
  rw [on_bind]
  rcases ended : course.on notes w with ⟨fault | a, notes', w'⟩
  · rw [ended] at first
    exact first
  · rw [ended] at first
    exact second a notes' w' first

theorem Leads.bind_ok {course : Course τ ε α} {next : α → Course τ ε β} {a : α}
    {notes' : List (StageNote τ)} {w' : Workspace ε}
    (first : course.on notes w = (.ok a, notes', w'))
    (second : (next a).Leads notes' w' better bad) :
    (course >>= next).Leads notes w better bad := by
  unfold Leads at second ⊢
  rw [Course.on_bind_ok first]
  exact second

end Rules

end StillMotion.Course

namespace StillMotion

variable {τ ω ε α : Type}

/-! ## Clocks -/

def Timer.CanBeRead (clock : Timer τ ω ε) : Prop :=
  ∀ w, ∃ time w', clock.read.on w = (.ok time, w')

/-- A clock that can be read.  It may fail to wait, with a fault from outside of the library. -/
structure Timer.IsSound (clock : Timer τ ω ε) : Prop where
  read : clock.CanBeRead
  wait {seconds : ω} {w w' : Workspace ε} {fault : Fault} :
    (clock.wait seconds).on w = (.error fault, w') → ∃ kind text, fault = .external kind text

structure Timer.IsSteady (clock : Timer τ ω ε) : Prop where
  read : clock.CanBeRead
  wait (seconds : ω) (w : Workspace ε) :
    ∃ w', (clock.wait seconds).on w = (.ok (), w')

theorem Timer.IsSteady.isSound {clock : Timer τ ω ε} (steady : clock.IsSteady) :
    clock.IsSound where
  read := steady.read
  wait {seconds w _ _} failed := by
    obtain ⟨w', waited⟩ := steady.wait seconds w
    rw [waited] at failed
    cases failed

theorem Clock.stopped_isSteady : (Clock.stopped : Clock ε).IsSteady where
  read _ := ⟨_, _, rfl⟩
  wait _ _ := ⟨_, rfl⟩

namespace StageRun

/-! ## Attempts as a relation -/

/-- How the attempts of a stage end: with what the last one came to, or in the wait after it. -/
inductive Ending (α : Type) where
  | came (outcome : Except Fault α)
  | cut (fault : Fault)

/-- From an attempt and the workspace before it, the attempts up to a last one, how they end and
the workspace after them. -/
inductive Tried [Wait ω] (run : StageRun τ ω ε) (work : Act ε α) :
    Nat → Workspace ε → Nat → Ending α → Workspace ε → Prop
  | last {attempt : Nat} {w w' : Workspace ε} {outcome : Except Fault α} :
      work.on w = (outcome, w') →
      (∀ fault, outcome = .error fault → fault.isFinal = true ∨ attempt = run.limit) →
      Tried run work attempt w attempt (.came outcome) w'
  | cut {attempt : Nat} {w failed w' : Workspace ε} {fault raised : Fault} :
      work.on w = (.error fault, failed) → fault.isFinal = false → attempt < run.limit →
      (run.pause attempt fault).on failed = (.error raised, w') →
      Tried run work attempt w attempt (.cut raised) w'
  | again {attempt final : Nat} {w failed waited w' : Workspace ε} {fault : Fault}
      {ending : Ending α} :
      work.on w = (.error fault, failed) → fault.isFinal = false → attempt < run.limit →
      (run.pause attempt fault).on failed = (.ok (), waited) →
      Tried run work (attempt + 1) waited final ending w' →
      Tried run work attempt w final ending w'

section Tried

variable [Wait ω] {run : StageRun τ ω ε} {work : Act ε α} {attempt final : Nat}
  {w w' : Workspace ε} {ending : Ending α}

theorem Tried.exists_on {outcome : Except Fault α}
    (tried : run.Tried work attempt w final (.came outcome) w') :
    ∃ w₀, work.on w₀ = (outcome, w') := by
  generalize ended : Ending.came outcome = ending at tried
  induction tried with
  | last worked _ =>
      cases ended
      exact ⟨_, worked⟩
  | cut => cases ended
  | again _ _ _ _ _ ih => exact ih ended

theorem Tried.exists_on_pause {raised : Fault}
    (tried : run.Tried work attempt w final (.cut raised) w') :
    final < run.limit ∧ ∃ fault w₀, (run.pause final fault).on w₀ = (.error raised, w') := by
  generalize ended : Ending.cut raised = ending at tried
  induction tried with
  | last => cases ended
  | cut _ _ below paused =>
      cases ended
      exact ⟨below, _, _, paused⟩
  | again _ _ _ _ _ ih => exact ih ended

end Tried

/-! ## Performing a stage -/

def outcomeOf (run : StageRun τ ω ε) (attempts : Nat) : Except Fault α → Except Fault α
  | .ok value => .ok value
  | .error fault =>
      let raw := if fault.message.isEmpty then fault.kind else fault.message
      let category := ErrorCategory.ofFailure raw (some run.stage.word)
      .error (.pipeline
        (run.stage.word ++ " stage failed after " ++ toString attempts ++
          (if attempts = 1 then " attempt: " else " attempts: ") ++ raw ++ ". " ++ category.hint)
        category run.requestId (some run.stage.word))

def noteOf (run : StageRun τ ω ε) (duration : τ) (attempts : Nat) :
    Except Fault α → StageNote τ
  | .ok _ => ⟨run.stage, true, duration, attempts, "ok"⟩
  | .error fault => ⟨run.stage, false, duration, attempts, fault.message⟩

variable {run : StageRun τ ω ε}

theorem outcomeOf_error (attempts : Nat) (fault : Fault) :
    (run.outcomeOf attempts (.error fault) : Except Fault α) =
      .error (fault.wrap run.stage.word run.requestId attempts) := by
  simp only [outcomeOf, Fault.wrap, Fault.telling, beq_iff_eq]
  split <;> simp [toString, String.append_assoc]

theorem on_pause [Wait ω] {attempt : Nat} {wait : ω} (known : run.waitAfter attempt = .ok wait)
    (fault : Fault) (w : Workspace ε) :
    (run.pause attempt fault).on w = (run.clock.wait wait).on
      { w with log := run.retryMessage attempt fault wait :: w.log } := by
  have h : (Act.of (run.waitAfter attempt)).on w = (.ok wait, w) := by
    rw [Act.on_of, known]
  rw [pause, Act.on_bind_ok h, Act.on_bind_ok (Act.on_warn _ _)]

def settle [Sub τ] (run : StageRun τ ω ε) (start : τ) (attempt : Nat) :
    Ending α → Course τ ε α
  | .came (.ok value) => run.finish start attempt value
  | .came (.error fault) => run.giveUp start attempt fault
  | .cut raised => throw raised

theorem exists_on_settle [Sub τ] (readable : run.clock.CanBeRead) (start : τ) (attempt : Nat)
    (outcome : Except Fault α) (notes : List (StageNote τ))
    (w : Workspace ε) :
    ∃ finish w', run.clock.read.on w = (.ok finish, w') ∧
      (run.settle start attempt (.came outcome)).on notes w =
        (run.outcomeOf attempt outcome,
          notes ++ [run.noteOf (finish - start) attempt outcome], w') := by
  obtain ⟨finish, w', read⟩ := readable w
  have known : (Course.lift run.clock.read).on notes w = (.ok finish, notes, w') := by
    rw [Course.on_lift, read]
  have concluded (succeeded : Bool) (message : String) :
      (Course.conclude run.clock run.stage start succeeded attempt message).on notes w =
        (.ok (), notes ++ [⟨run.stage, succeeded, finish - start, attempt, message⟩], w') :=
    (Course.on_bind_ok known).trans (Course.on_note _ _ _)
  refine ⟨finish, w', read, ?_⟩
  cases outcome with
  | ok value => exact (Course.on_bind_ok (concluded true "ok")).trans rfl
  | error fault =>
      rw [outcomeOf_error]
      exact (Course.on_bind_ok (concluded false fault.message)).trans rfl

theorem on_settle_cut [Sub τ] (start : τ) (attempt : Nat) (raised : Fault)
    (notes : List (StageNote τ)) (w : Workspace ε) :
    (run.settle start attempt (.cut raised) : Course τ ε α).on notes w =
      (.error raised, notes, w) := rfl

theorem on_tryFrom_zero [Sub τ] [Wait ω] (work : Act ε α) (start : τ) (attempt : Nat)
    (notes : List (StageNote τ)) (w : Workspace ε) :
    (run.tryFrom work start 0 attempt).on notes w =
      (run.settle start attempt (.came (work.on w).1)).on notes (work.on w).2 := by
  rw [tryFrom, Course.on_bind, Course.on_lift, Act.on_attempt]
  rcases work.on w with ⟨_ | value, w'⟩ <;> rfl

theorem on_tryFrom_succ [Sub τ] [Wait ω] (work : Act ε α) (start : τ) (left attempt : Nat)
    (notes : List (StageNote τ)) (w : Workspace ε) :
    (run.tryFrom work start (left + 1) attempt).on notes w = match work.on w with
      | (.ok value, w') => (run.settle start attempt (.came (.ok value))).on notes w'
      | (.error fault, w') =>
          if fault.isFinal then
            (run.settle start attempt (.came (.error fault) : Ending α)).on notes w'
          else (Course.lift (run.pause attempt fault) >>= fun _ =>
            run.tryFrom work start left (attempt + 1)).on notes w' := by
  rw [tryFrom, Course.on_bind, Course.on_lift, Act.on_attempt]
  rcases work.on w with ⟨fault | value, w'⟩
  · cases final : fault.isFinal <;> simp [final, settle]
  · rfl

/-- Trying goes through attempts as the relation has them, `left` more at most, and settles how
they end. -/
theorem exists_tried [Sub τ] [Wait ω] (work : Act ε α) (start : τ)
    (notes : List (StageNote τ)) (left attempt : Nat) (w : Workspace ε)
    (h : attempt + left = run.limit) :
    ∃ final ending w', run.Tried work attempt w final ending w' ∧
      (run.tryFrom work start left attempt).on notes w =
        (run.settle start final ending).on notes w' := by
  -- The attempt that comes next and those left after it always make up the limit.
  induction left generalizing attempt w with
  | zero =>
      refine ⟨attempt, .came (work.on w).1, (work.on w).2, .last rfl fun _ _ => .inr h, ?_⟩
      exact on_tryFrom_zero work start attempt notes w
  | succ left ih =>
      rw [on_tryFrom_succ]
      rcases worked : work.on w with ⟨fault | value, w₁⟩
      · cases final : fault.isFinal with
        | true =>
            refine ⟨attempt, .came (.error fault), w₁, .last worked ?_, if_pos final⟩
            rintro _ ⟨⟩
            exact .inl final
        | false =>
            dsimp only
            rw [if_neg (by simp [final])]
            rcases paused : (run.pause attempt fault).on w₁ with ⟨raised | _, w₂⟩
            · have stopped : (Course.lift (run.pause attempt fault)).on notes w₁ =
                  (.error raised, notes, w₂) := by rw [Course.on_lift, paused]
              refine ⟨attempt, .cut raised, w₂, .cut worked final (by omega) paused, ?_⟩
              rw [Course.on_bind, stopped, on_settle_cut]
            · have waited : (Course.lift (run.pause attempt fault)).on notes w₁ =
                  (.ok (), notes, w₂) := by rw [Course.on_lift, paused]
              obtain ⟨last, ending, w', tried, ended⟩ := ih (attempt + 1) w₂ (by omega)
              refine ⟨last, ending, w', .again worked final (by omega) paused tried, ?_⟩
              rw [← ended, Course.on_bind_ok waited]
      · refine ⟨attempt, .came (.ok value), w₁, .last worked ?_, rfl⟩
        rintro _ ⟨⟩

theorem exists_on_perform [Sub τ] [Wait ω] (positive : 1 ≤ run.limit)
    (work : Act ε α) (start : τ) (notes : List (StageNote τ)) (w : Workspace ε) :
    ∃ final ending w', run.Tried work 1 w final ending w' ∧
      (run.perform start work).on notes w = (run.settle start final ending).on notes w' := by
  obtain ⟨left, h⟩ := Nat.exists_eq_add_of_le positive
  obtain ⟨final, ending, w', tried, ended⟩ := exists_tried work start notes left 1 w h.symm
  refine ⟨final, ending, w', tried, ?_⟩
  rw [← ended, perform, h, Nat.add_comm]

end StageRun

end StillMotion
