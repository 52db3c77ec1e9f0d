import StillMotion.Proofs.Pipeline.Attempts

/-!
# Recorded runs

To say what a run calls, it is run on a workspace that also records calls, such as each begin of
the work of a stage and each answer of the renderer.  A recorded computation forgets to a plain
one when the plain one does the same but for the record.
-/

namespace StillMotion

variable {κ τ ω ε α β : Type}

/-! ## Records -/

inductive Call where
  | work (stage : Stage)
  | renderer (answer : Except Fault Path)

namespace Call

def work? : Call → Option Stage
  | .work stage => some stage
  | .renderer _ => none

def answer? : Call → Option (Except Fault Path)
  | .work _ => none
  | .renderer answer => some answer

end Call

/-- The stages whose work began, in order, once for each time. -/
def worksOf (calls : List Call) : List Stage := calls.filterMap Call.work?

def answersOf (calls : List Call) : List (Except Fault Path) := calls.filterMap Call.answer?

@[simp] theorem worksOf_append (calls rest : List Call) :
    worksOf (calls ++ rest) = worksOf calls ++ worksOf rest := List.filterMap_append

@[simp] theorem answersOf_append (calls rest : List Call) :
    answersOf (calls ++ rest) = answersOf calls ++ answersOf rest := List.filterMap_append

/-- What is outside of a workspace, and the calls so far. -/
structure RecordedAs (κ ε : Type) where
  outside : ε
  calls : List κ

abbrev Recorded (ε : Type) := RecordedAs Call ε

namespace Workspace

def recording (w : Workspace ε) (calls : List κ) : Workspace (RecordedAs κ ε) :=
  { w with outside := ⟨w.outside, calls⟩ }

def plain (w : Workspace (RecordedAs κ ε)) : Workspace ε := { w with outside := w.outside.outside }

def calls (w : Workspace (RecordedAs κ ε)) : List κ := w.outside.calls

@[simp] theorem plain_recording (w : Workspace ε) (calls : List κ) :
    (w.recording calls).plain = w := rfl

@[simp] theorem calls_recording (w : Workspace ε) (calls : List κ) :
    (w.recording calls).calls = calls := rfl

end Workspace

/-! ## Acts on a record -/

namespace Act

def within (act : Act ε α) : Act (RecordedAs κ ε) α :=
  ExceptT.mk fun w =>
    let (outcome, w') := act.on w.plain
    (outcome, w'.recording w.calls)

@[simp] theorem on_within (act : Act ε α) (w : Workspace (RecordedAs κ ε)) :
    act.within.on w = ((act.on w.plain).1, (act.on w.plain).2.recording w.calls) := rfl

def record (call : κ) : Act (RecordedAs κ ε) Unit :=
  change fun w => w.plain.recording (w.calls ++ [call])

@[simp] theorem on_record (call : κ) (w : Workspace (RecordedAs κ ε)) :
    (record call).on w = (.ok (), w.plain.recording (w.calls ++ [call])) := rfl

/-- A recorded act does what a plain one does, but for the record. -/
def Forgets (recorded : Act (RecordedAs κ ε) α) (act : Act ε α) : Prop :=
  ∀ w, act.on w.plain = ((recorded.on w).1, (recorded.on w).2.plain)

theorem forgets_within (act : Act ε α) :
    (act.within : Act (RecordedAs κ ε) α).Forgets act := fun _ => rfl

theorem forgets_of (outcome : Except Fault α) :
    (Act.of outcome : Act (RecordedAs κ ε) α).Forgets (Act.of outcome) := fun w => by
  simp

theorem forgets_warn (message : String) : (warn message : Act (RecordedAs κ ε) Unit).Forgets
    (warn message) := fun _ => rfl

theorem Forgets.bind {first : Act (RecordedAs κ ε) α} {first' : Act ε α}
    {next : α → Act (RecordedAs κ ε) β} {next' : α → Act ε β} (h : first.Forgets first')
    (hnext : ∀ a, (next a).Forgets (next' a)) : (first >>= next).Forgets (first' >>= next') := by
  intro w
  rw [on_bind, on_bind, h w]
  rcases first.on w with ⟨fault | a, w'⟩
  · rfl
  · exact hnext a w'

theorem Forgets.attempt {recorded : Act (RecordedAs κ ε) α} {act : Act ε α}
    (h : recorded.Forgets act) : (Act.attempt recorded).Forgets (Act.attempt act) := by
  intro w
  rw [on_attempt, on_attempt, h w]

def begin (stage : Stage) (work : Act (Recorded ε) α) : Act (Recorded ε) α := do
  record (.work stage)
  work

theorem on_begin (stage : Stage) (work : Act (Recorded ε) α) (w : Workspace (Recorded ε)) :
    (begin stage work).on w = work.on (w.plain.recording (w.calls ++ [.work stage])) :=
  on_bind_ok (on_record _ w)

theorem Forgets.begin {work : Act (Recorded ε) α} {act : Act ε α} (h : work.Forgets act)
    (stage : Stage) : (Act.begin stage work).Forgets act := by
  intro w
  rw [on_begin]
  exact h (w.plain.recording (w.calls ++ [.work stage]))

end Act

/-! ## Courses on a record -/

namespace Course

def Forgets (recorded : Course τ (RecordedAs κ ε) α) (course : Course τ ε α) : Prop :=
  ∀ notes w, course.on notes w.plain =
    ((recorded.on notes w).1, (recorded.on notes w).2.1, (recorded.on notes w).2.2.plain)

theorem forgets_pure (a : α) : (pure a : Course τ (RecordedAs κ ε) α).Forgets (pure a) :=
  fun _ _ => rfl

theorem forgets_throw (fault : Fault) :
    (throw fault : Course τ (RecordedAs κ ε) α).Forgets (throw fault) := fun _ _ => rfl

theorem forgets_note (result : StageNote τ) :
    (note result : Course τ (RecordedAs κ ε) Unit).Forgets (note result) := fun _ _ => rfl

theorem forgets_lift {recorded : Act (RecordedAs κ ε) α} {act : Act ε α}
    (h : recorded.Forgets act) :
    (lift recorded : Course τ (RecordedAs κ ε) α).Forgets (lift act) := by
  intro notes w
  rw [on_lift, on_lift, h w]

theorem Forgets.bind {first : Course τ (RecordedAs κ ε) α} {first' : Course τ ε α}
    {next : α → Course τ (RecordedAs κ ε) β} {next' : α → Course τ ε β} (h : first.Forgets first')
    (hnext : ∀ a, (next a).Forgets (next' a)) : (first >>= next).Forgets (first' >>= next') := by
  intro notes w
  rw [on_bind, on_bind, h notes w]
  rcases first.on notes w with ⟨fault | a, notes', w'⟩
  · rfl
  · exact hnext a notes' w'

end Course

/-! ## Stages on a record -/

def Timer.within (clock : Timer τ ω ε) : Timer τ ω (RecordedAs κ ε) :=
  ⟨clock.read.within, fun seconds => (clock.wait seconds).within⟩

theorem Timer.CanBeRead.within {clock : Timer τ ω ε} (readable : clock.CanBeRead) :
    (clock.within : Timer τ ω (RecordedAs κ ε)).CanBeRead := by
  intro w
  obtain ⟨time, w', read⟩ := readable w.plain
  exact ⟨time, w'.recording w.calls, by simp [Timer.within, read]⟩

structure Timer.Forgets (recorded : Timer τ ω (RecordedAs κ ε)) (clock : Timer τ ω ε) : Prop where
  read : recorded.read.Forgets clock.read
  wait (seconds : ω) : (recorded.wait seconds).Forgets (clock.wait seconds)

theorem Timer.forgets_within (clock : Timer τ ω ε) :
    (clock.within : Timer τ ω (RecordedAs κ ε)).Forgets clock where
  read := Act.forgets_within _
  wait _ := Act.forgets_within _

namespace StageRun

def withClock {ε' : Type} (run : StageRun τ ω ε) (clock : Timer τ ω ε') : StageRun τ ω ε' :=
  ⟨clock, run.stage, run.requestId, run.limit, run.waitAfter⟩

def within (run : StageRun τ ω ε) : StageRun τ ω (RecordedAs κ ε) := run.withClock run.clock.within

section Forgets

variable (run : StageRun τ ω ε) {clock : Timer τ ω (RecordedAs κ ε)}
  (forgets : clock.Forgets run.clock)

include forgets

theorem forgets_conclude [Sub τ] (start : τ) (succeeded : Bool) (attempts : Nat)
    (message : String) :
    (Course.conclude clock run.stage start succeeded attempts message).Forgets
      (Course.conclude run.clock run.stage start succeeded attempts message) :=
  (Course.forgets_lift forgets.read).bind fun _ => Course.forgets_note _

theorem forgets_giveUp [Sub τ] (start : τ) (attempt : Nat) (fault : Fault) :
    ((run.withClock clock).giveUp start attempt fault : Course τ (RecordedAs κ ε) α).Forgets
      (run.giveUp start attempt fault) :=
  (run.forgets_conclude forgets start false attempt fault.message).bind fun _ =>
    Course.forgets_throw _

theorem forgets_finish [Sub τ] (start : τ) (attempt : Nat) (value : α) :
    ((run.withClock clock).finish start attempt value).Forgets (run.finish start attempt value) :=
  (run.forgets_conclude forgets start true attempt "ok").bind fun _ => Course.forgets_pure _

theorem forgets_pause [Wait ω] (attempt : Nat) (fault : Fault) :
    ((run.withClock clock).pause attempt fault).Forgets (run.pause attempt fault) :=
  (Act.forgets_of _).bind fun _ => (Act.forgets_warn _).bind fun _ => forgets.wait _

theorem forgets_tryFrom [Sub τ] [Wait ω] {recorded : Act (RecordedAs κ ε) α} {work : Act ε α}
    (h : recorded.Forgets work) (start : τ) (left attempt : Nat) :
    ((run.withClock clock).tryFrom recorded start left attempt).Forgets
      (run.tryFrom work start left attempt) := by
  induction left generalizing attempt with
  | zero =>
      refine (Course.forgets_lift h.attempt).bind fun answer => ?_
      cases answer with
      | ok value => exact run.forgets_finish forgets start attempt value
      | error fault => exact run.forgets_giveUp forgets start attempt fault
  | succ left ih =>
      refine (Course.forgets_lift h.attempt).bind fun answer => ?_
      cases answer with
      | ok value => exact run.forgets_finish forgets start attempt value
      | error fault =>
          cases final : fault.isFinal with
          | true =>
              simp only [final, if_true]
              exact run.forgets_giveUp forgets start attempt fault
          | false =>
              simp only [final, Bool.false_eq_true, if_false]
              exact (Course.forgets_lift (run.forgets_pause forgets attempt fault)).bind fun _ =>
                ih (attempt + 1)

theorem forgets_perform [Sub τ] [Wait ω] {recorded : Act (RecordedAs κ ε) α} {work : Act ε α}
    (h : recorded.Forgets work) (start : τ) :
    ((run.withClock clock).perform start recorded).Forgets (run.perform start work) := by
  unfold perform
  cases limit : run.limit with
  | zero => simpa [withClock, limit] using Course.forgets_throw _
  | succ left => simpa [withClock, limit] using run.forgets_tryFrom forgets h start left 1

end Forgets

end StageRun

end StillMotion
