import StillMotion.Proofs.Pipeline.Sequence
import Mathlib.Order.Bounds.Basic
import Mathlib.Tactic.Linarith
import Mathlib.Tactic.Ring

/-!
# Bounded retry

The work of a stage, with what happens around it, is a sequence of outcomes, one for each attempt.
The attempts end with the first outcome that is a value or a refusal, or with the limit, and
between two attempts there is one wait, which grows with them.  A wait that the clock does not
make ends the stage before that, without a note.  To say what a stage does, it is run on a
workspace that records every attempt and every wait as they come.
-/

namespace StillMotion

variable {τ ω ε α : Type}

/-! ## Deeds -/

/-- What a stage does over and over: it tries its work, and it tells the clock to wait. -/
inductive Deed (α ω : Type) where
  | tried (outcome : Except Fault α)
  | waited (seconds : ω)

namespace Deed

def outcome? : Deed α ω → Option (Except Fault α)
  | .tried outcome => some outcome
  | .waited _ => none

def seconds? : Deed α ω → Option ω
  | .tried _ => none
  | .waited seconds => some seconds

end Deed

def triesOf (deeds : List (Deed α ω)) : List (Except Fault α) := deeds.filterMap Deed.outcome?

def waitsOf (deeds : List (Deed α ω)) : List ω := deeds.filterMap Deed.seconds?

/-- So many attempts from the first one on, each with a wait after it. -/
def rounds (outcomes : Nat → Except Fault α) (waits : Nat → ω) (count : Nat) :
    List (Deed α ω) :=
  (List.range' 1 count).flatMap fun attempt =>
    [.tried (outcomes attempt), .waited (waits attempt)]

section Rounds

variable (outcomes : Nat → Except Fault α) (waits : Nat → ω) (count : Nat)

theorem rounds_succ :
    rounds outcomes waits (count + 1) =
      rounds outcomes waits count ++
        [.tried (outcomes (count + 1)), .waited (waits (count + 1))] := by
  simp [rounds, List.range'_concat, Nat.add_comm]

theorem triesOf_rounds :
    triesOf (rounds outcomes waits count) = (List.range' 1 count).map outcomes := by
  rw [triesOf, rounds, List.filterMap_flatMap, List.map_eq_flatMap]
  rfl

theorem waitsOf_rounds :
    waitsOf (rounds outcomes waits count) = (List.range' 1 count).map waits := by
  rw [waitsOf, rounds, List.filterMap_flatMap, List.map_eq_flatMap]
  rfl

end Rounds

/-! ## Stages that record their deeds -/

namespace Act

def tried (work : Act ε α) : Act (RecordedAs (Deed α ω) ε) α := do
  let outcome ← (Act.attempt work).within
  record (.tried outcome)
  Act.of outcome

theorem on_tried (work : Act ε α) (w : Workspace (RecordedAs (Deed α ω) ε)) :
    work.tried.on w = ((work.on w.plain).1,
      (work.on w.plain).2.recording (w.calls ++ [.tried (work.on w.plain).1])) := by
  have attempted : ((Act.attempt work).within : Act (RecordedAs (Deed α ω) ε) _).on w =
      (.ok (work.on w.plain).1, (work.on w.plain).2.recording w.calls) := by
    rw [on_within, on_attempt]
  rw [tried, on_bind_ok attempted, on_bind_ok (on_record _ _), on_of]
  rfl

theorem forgets_tried (work : Act ε α) :
    (work.tried : Act (RecordedAs (Deed α ω) ε) α).Forgets work := by
  intro w
  rw [on_tried]
  rfl

end Act

namespace Timer

def recorded (clock : Timer τ ω ε) : Timer τ ω (RecordedAs (Deed α ω) ε) where
  read := clock.read.within
  wait seconds := do
    Act.record (.waited seconds)
    (clock.wait seconds).within

theorem on_recorded_wait (clock : Timer τ ω ε) (seconds : ω)
    (w : Workspace (RecordedAs (Deed α ω) ε)) :
    (clock.recorded.wait seconds).on w = (((clock.wait seconds).on w.plain).1,
      ((clock.wait seconds).on w.plain).2.recording (w.calls ++ [.waited seconds])) :=
  Act.on_bind_ok (Act.on_record _ _)

theorem forgets_recorded (clock : Timer τ ω ε) :
    (clock.recorded : Timer τ ω (RecordedAs (Deed α ω) ε)).Forgets clock where
  read := Act.forgets_within _
  wait seconds := by
    intro w
    rw [on_recorded_wait]
    rfl

end Timer

namespace StageRun

variable {run : StageRun τ ω ε}

def recorded (run : StageRun τ ω ε) : StageRun τ ω (RecordedAs (Deed α ω) ε) :=
  run.withClock run.clock.recorded

theorem canBeRead_recorded (readable : run.clock.CanBeRead) :
    (run.recorded : StageRun τ ω (RecordedAs (Deed α ω) ε)).clock.CanBeRead := by
  intro w
  obtain ⟨time, w', read⟩ := readable w.plain
  refine ⟨time, w'.recording w.calls, ?_⟩
  change run.clock.read.within.on w = _
  rw [Act.on_within, read]

/-! ## The outcomes of a stage -/

section Outcomes

variable [Wait ω]

/-- The workspace after so many attempts, each with the wait after it, the limit left aside. -/
def after (run : StageRun τ ω ε) (work : Act ε α) (w : Workspace ε) : Nat → Workspace ε
  | 0 => w
  | attempts + 1 =>
      match work.on (run.after work w attempts) with
      | (.ok _, w') => w'
      | (.error fault, w') => ((run.pause (attempts + 1) fault).on w').2

def attemptOn (run : StageRun τ ω ε) (work : Act ε α) (w : Workspace ε) (attempt : Nat) :
    Except Fault α × Workspace ε :=
  work.on (run.after work w (attempt - 1))

/-- The outcomes of the work of a stage, as a sequence from the first attempt on. -/
def outcomes (run : StageRun τ ω ε) (work : Act ε α) (w : Workspace ε) (attempt : Nat) :
    Except Fault α :=
  (run.attemptOn work w attempt).1

def waitOn (run : StageRun τ ω ε) (work : Act ε α) (w : Workspace ε) (attempt : Nat) :
    Except Fault Unit :=
  match run.attemptOn work w attempt with
  | (.ok _, _) => .ok ()
  | (.error fault, w') => ((run.pause attempt fault).on w').1

end Outcomes

/-- After such an outcome there is no other attempt, whatever the limit. -/
inductive Ends : Except Fault α → Prop
  | value (a : α) : Ends (.ok a)
  | refusal (stage : String) (errors : List String) : Ends (.error (.gate stage errors))

theorem ends_error_iff {fault : Fault} :
    Ends (.error fault : Except Fault α) ↔ fault.isFinal = true := by
  constructor
  · rintro ⟨⟩
    rfl
  · intro final
    cases fault with
    | gate stage errors => exact .refusal stage errors
    | _ => cases final

theorem exists_of_not_ends {outcome : Except Fault α} (h : ¬ Ends outcome) :
    ∃ fault, outcome = .error fault ∧ ∀ stage errors, fault ≠ .gate stage errors := by
  cases outcome with
  | ok a => exact absurd (.value a) h
  | error fault =>
      refine ⟨fault, rfl, ?_⟩
      rintro stage errors rfl
      exact h (.refusal stage errors)

/-- The attempts, from one on, that would be the last one if they were reached. -/
def endings (limit : Nat) (outcomes : Nat → Except Fault α) (first : Nat) : Set Nat :=
  {attempt | first ≤ attempt ∧ attempt ≤ limit ∧ (Ends (outcomes attempt) ∨ attempt = limit)}

/-- Each of the attempts from one to before another is a failure and no refusal, and the clock makes
the wait after it. -/
def GoesOn [Wait ω] (run : StageRun τ ω ε) (work : Act ε α) (w : Workspace ε) (first last : Nat) :
    Prop :=
  ∀ attempt, first ≤ attempt → attempt < last →
    ¬ Ends (run.outcomes work w attempt) ∧ run.waitOn work w attempt = .ok ()

theorem GoesOn.cons [Wait ω] {work : Act ε α} {w : Workspace ε} {first last : Nat}
    (ends : ¬ Ends (run.outcomes work w first)) (waited : run.waitOn work w first = .ok ())
    (later : run.GoesOn work w (first + 1) last) : run.GoesOn work w first last := by
  intro attempt lower before
  rcases Nat.eq_or_lt_of_le lower with rfl | above
  · exact ⟨ends, waited⟩
  · exact later attempt above before

theorem GoesOn.isLeast [Wait ω] {work : Act ε α} {w : Workspace ε} {first last limit : Nat}
    (goesOn : run.GoesOn work w first last)
    (ending : last ∈ endings limit (run.outcomes work w) first) :
    IsLeast (endings limit (run.outcomes work w) first) last := by
  refine ⟨ending, ?_⟩
  rintro attempt ⟨lower, upper, ended⟩
  by_contra before
  rw [Nat.not_le] at before
  rcases ended with ended | rfl
  · exact (goesOn attempt lower before).1 ended
  · exact absurd ending.2.1 (Nat.not_le.mpr before)

/-! ## Attempts that are recorded -/

section Recorded

variable [Wait ω] {work : Act ε α} {w : Workspace ε}

theorem after_succ {count : Nat} {fault : Fault}
    (failed : run.outcomes work w (count + 1) = .error fault) :
    run.after work w (count + 1) =
      ((run.pause (count + 1) fault).on (run.attemptOn work w (count + 1)).2).2 := by
  have attempted : work.on (run.after work w count) =
      (.error fault, (run.attemptOn work w (count + 1)).2) := Prod.ext failed rfl
  rw [after, attempted]

theorem on_tried_after (run : StageRun τ ω ε) (work : Act ε α) (w : Workspace ε) (count : Nat)
    (deeds : List (Deed α ω)) :
    work.tried.on ((run.after work w count).recording deeds) =
      (run.outcomes work w (count + 1), (run.attemptOn work w (count + 1)).2.recording
        (deeds ++ [.tried (run.outcomes work w (count + 1))])) :=
  Act.on_tried work _

theorem on_recorded_pause {attempt : Nat} {seconds : ω}
    (known : run.waitAfter attempt = .ok seconds) (fault : Fault) (v : Workspace ε)
    (deeds : List (Deed α ω)) :
    (run.recorded.pause attempt fault).on (v.recording deeds) =
      (((run.pause attempt fault).on v).1,
        ((run.pause attempt fault).on v).2.recording (deeds ++ [.waited seconds])) := by
  have known' : (run.recorded : StageRun τ ω (RecordedAs (Deed α ω) ε)).waitAfter attempt =
      .ok seconds := known
  rw [on_pause known, on_pause known']
  exact Timer.on_recorded_wait _ _ _

theorem waitOn_eq {attempt : Nat} {fault : Fault}
    (came : run.outcomes work w attempt = .error fault) :
    run.waitOn work w attempt =
      ((run.pause attempt fault).on (run.attemptOn work w attempt).2).1 := by
  have attempted : run.attemptOn work w attempt =
      (.error fault, (run.attemptOn work w attempt).2) := Prod.ext came rfl
  rw [waitOn, attempted]

theorem on_paused {waits : Nat → ω} (known : ∀ i, run.waitAfter i = .ok (waits i)) {count : Nat}
    {failed v' : Workspace (RecordedAs (Deed α ω) ε)} {fault : Fault} {waited : Except Fault Unit}
    (worked : work.tried.on
      ((run.after work w count).recording (rounds (run.outcomes work w) waits count)) =
        (.error fault, failed))
    (paused : (run.recorded.pause (count + 1) fault).on failed = (waited, v')) :
    run.outcomes work w (count + 1) = .error fault ∧
      run.waitOn work w (count + 1) = waited ∧
      v' = (run.after work w (count + 1)).recording
        (rounds (run.outcomes work w) waits (count + 1)) := by
  rw [on_tried_after] at worked
  obtain ⟨came, rfl⟩ := Prod.mk.inj worked
  rw [on_recorded_pause (known (count + 1))] at paused
  obtain ⟨hasWaited, rfl⟩ := Prod.mk.inj paused
  refine ⟨came, (waitOn_eq came).trans hasWaited, ?_⟩
  rw [rounds_succ, after_succ came, List.append_assoc]
  rfl

/-- How attempts end that record their deeds: as the sequence of outcomes and waits has it, and
with a record of all of them. -/
def RecordsEnding (run : StageRun τ ω ε) (waits : Nat → ω) (work : Act ε α) (w : Workspace ε)
    (first last : Nat) (v' : Workspace (RecordedAs (Deed α ω) ε)) : Ending α → Prop
  | .came outcome => last ∈ endings run.limit (run.outcomes work w) first ∧
      outcome = run.outcomes work w last ∧
      v' = (run.attemptOn work w last).2.recording
        (rounds (run.outcomes work w) waits (last - 1) ++ [.tried (run.outcomes work w last)])
  | .cut raised => first ≤ last ∧ last < run.limit ∧ ¬ Ends (run.outcomes work w last) ∧
      run.waitOn work w last = .error raised ∧
      v' = (run.after work w last).recording (rounds (run.outcomes work w) waits last)

theorem RecordsEnding.of_succ {waits : Nat → ω} {first last : Nat}
    {v' : Workspace (RecordedAs (Deed α ω) ε)} {ending : Ending α}
    (h : run.RecordsEnding waits work w (first + 1) last v' ending) :
    run.RecordsEnding waits work w first last v' ending := by
  cases ending with
  | came outcome => exact ⟨⟨Nat.le_of_succ_le h.1.1, h.1.2⟩, h.2⟩
  | cut raised => exact ⟨Nat.le_of_succ_le h.1, h.2⟩

/-- The attempts of a stage that records its deeds go on as its sequence of outcomes and waits
does, and end as it ends. -/
theorem Tried.of_recorded {waits : Nat → ω} (known : ∀ i, run.waitAfter i = .ok (waits i))
    {count last : Nat} {v v' : Workspace (RecordedAs (Deed α ω) ε)} {ending : Ending α}
    (tried : run.recorded.Tried work.tried (count + 1) v last ending v')
    (below : count < run.limit)
    (begun : v = (run.after work w count).recording (rounds (run.outcomes work w) waits count)) :
    run.GoesOn work w (count + 1) last ∧
      run.RecordsEnding waits work w (count + 1) last v' ending := by
  generalize first : count + 1 = attempt at tried
  induction tried generalizing count with
  | @last attempt v v' outcome worked ends =>
      subst first begun
      rw [on_tried_after] at worked
      obtain ⟨rfl, rfl⟩ := Prod.mk.inj worked
      refine ⟨fun i lower before => absurd lower (Nat.not_le.mpr before),
        ⟨Nat.le_refl _, below, ?_⟩, rfl, rfl⟩
      cases came : run.outcomes work w (count + 1) with
      | ok value => exact .inl (.value value)
      | error fault => exact (ends fault came).imp_left ends_error_iff.mpr
  | @cut attempt v failed v' fault raised worked retried under paused =>
      subst first begun
      obtain ⟨came, waited, after⟩ := on_paused known worked paused
      refine ⟨fun i lower before => absurd lower (Nat.not_le.mpr before), Nat.le_refl _, under,
        ?_, waited, after⟩
      rw [came, ends_error_iff, retried]
      exact Bool.false_ne_true
  | @again attempt last v failed waited v' fault ending worked retried under paused later ih =>
      subst first begun
      obtain ⟨came, hasWaited, next⟩ := on_paused known worked paused
      have goesOn : ¬ Ends (run.outcomes work w (count + 1)) := by
        rw [came, ends_error_iff, retried]
        exact Bool.false_ne_true
      have under : count + 1 < run.limit := under
      obtain ⟨goesOnLater, ended⟩ := ih under next rfl
      exact ⟨goesOnLater.cons goesOn hasWaited, ended.of_succ⟩

end Recorded

/-! ## What a stage does -/

/-- A stage that began at `start` is tried so many times: what it does meanwhile, what is noted
of it, and what it comes to. -/
structure IsRetried [Sub τ] [Wait ω] (run : StageRun τ ω ε) (waits : Nat → ω) (start : τ)
    (work : Act ε α) (notes : List (StageNote τ)) (w : Workspace ε) (attempts : Nat) (finish : τ)
    (w' : Workspace ε) (deeds : List (Deed α ω)) : Prop where
  least : IsLeast (endings run.limit (run.outcomes work w) 1) attempts
  /-- The clock is read after the last attempt. -/
  finished : run.clock.read.on (run.attemptOn work w attempts).2 = (.ok finish, w')
  performed : (run.perform start work).on notes w =
    (run.outcomeOf attempts (run.outcomes work w attempts),
      notes ++ [run.noteOf (finish - start) attempts (run.outcomes work w attempts)], w')
  recorded : (run.recorded.perform start work.tried).on notes (w.recording []) =
    (run.outcomeOf attempts (run.outcomes work w attempts),
      notes ++ [run.noteOf (finish - start) attempts (run.outcomes work w attempts)],
      w'.recording deeds)
  alternates : deeds =
    rounds (run.outcomes work w) waits (attempts - 1) ++ [.tried (run.outcomes work w attempts)]
  tries : triesOf deeds = (List.range' 1 attempts).map (run.outcomes work w)
  waited : waitsOf deeds = (List.range' 1 (attempts - 1)).map waits
  /-- What is followed by another attempt is a failure and no refusal, and a wait. -/
  again : ∀ attempt, 1 ≤ attempt → attempt < attempts →
    (∃ fault, run.outcomes work w attempt = .error fault ∧
      ∀ stage errors, fault ≠ .gate stage errors) ∧ run.waitOn work w attempt = .ok ()
  tried : run.outcomeOf attempts (run.outcomes work w attempts) ≠ .error neverTried

/-- A stage that began at `start` is tried so many times, none of which ends it, and the clock
makes all the waits between them but not the next one, whose fault is raised without a note. -/
structure IsCutShort [Sub τ] [Wait ω] (run : StageRun τ ω ε) (waits : Nat → ω) (start : τ)
    (work : Act ε α) (notes : List (StageNote τ)) (w : Workspace ε) (attempts : Nat)
    (raised : Fault) (w' : Workspace ε) (deeds : List (Deed α ω)) : Prop where
  positive : 1 ≤ attempts
  below : attempts < run.limit
  failed : ∀ attempt, 1 ≤ attempt → attempt ≤ attempts →
    ∃ fault, run.outcomes work w attempt = .error fault ∧
      ∀ stage errors, fault ≠ .gate stage errors
  before : ∀ attempt, 1 ≤ attempt → attempt < attempts → run.waitOn work w attempt = .ok ()
  raises : run.waitOn work w attempts = .error raised
  performed : (run.perform start work).on notes w = (.error raised, notes, w')
  recorded : (run.recorded.perform start work.tried).on notes (w.recording []) =
    (.error raised, notes, w'.recording deeds)
  alternates : deeds = rounds (run.outcomes work w) waits attempts

theorem outcomeOf_ne_neverTried (attempts : Nat) (outcome : Except Fault α) :
    run.outcomeOf attempts outcome ≠ .error neverTried := by
  cases outcome with
  | ok value => exact nofun
  | error fault => exact nofun

theorem on_perform_of_recorded [Sub τ] [Wait ω] {start : τ} {work : Act ε α}
    {notes notes' : List (StageNote τ)} {w : Workspace ε} {outcome : Except Fault α}
    {v' : Workspace (RecordedAs (Deed α ω) ε)}
    (performed : (run.recorded.perform start work.tried).on notes (w.recording []) =
      (outcome, notes', v')) :
    (run.perform start work).on notes w = (outcome, notes', v'.plain) := by
  have plain := run.forgets_perform run.clock.forgets_recorded (Act.forgets_tried work) start
    notes (w.recording [])
  rw [Workspace.plain_recording] at plain
  rw [recorded] at performed
  rw [plain, performed]

/-- A stage that may be tried is tried as often as its outcomes and its limit ask for, or up to
a wait that the clock does not make. -/
theorem exists_isRetried_or_isCutShort [Sub τ] [Wait ω] (readable : run.clock.CanBeRead)
    (positive : 1 ≤ run.limit) {waits : Nat → ω} (known : ∀ i, run.waitAfter i = .ok (waits i))
    (start : τ) (work : Act ε α) (notes : List (StageNote τ)) (w : Workspace ε) :
    (∃ attempts finish w' deeds,
      run.IsRetried waits start work notes w attempts finish w' deeds) ∨
    ∃ attempts raised w' deeds,
      run.IsCutShort waits start work notes w attempts raised w' deeds := by
  obtain ⟨attempts, ending, v, tried, performed⟩ :=
    (run.recorded : StageRun τ ω (RecordedAs (Deed α ω) ε)).exists_on_perform positive
      work.tried start notes (w.recording [])
  obtain ⟨goesOn, ended⟩ := tried.of_recorded known positive rfl
  cases ending with
  | came outcome =>
      obtain ⟨ending, rfl, rfl⟩ := ended
      obtain ⟨finish, v', read, settled⟩ := run.recorded.exists_on_settle
        (canBeRead_recorded readable) start attempts (run.outcomes work w attempts) notes _
      obtain ⟨sameFinish, rfl⟩ := Prod.mk.inj read
      rw [settled] at performed
      obtain ⟨count, rfl⟩ := Nat.exists_eq_add_of_le' ending.1
      have finished : run.clock.read.on (run.attemptOn work w (count + 1)).2 = (.ok finish, _) :=
        Prod.ext sameFinish rfl
      refine .inl ⟨count + 1, finish, _, _, goesOn.isLeast ending, finished,
        on_perform_of_recorded performed, performed, rfl, ?_, ?_, ?_,
        outcomeOf_ne_neverTried _ _⟩
      · rw [Workspace.calls_recording, Nat.add_sub_cancel, triesOf, List.filterMap_append,
          ← triesOf, triesOf_rounds, List.range'_concat]
        simp [Deed.outcome?, Nat.add_comm]
      · rw [Workspace.calls_recording, Nat.add_sub_cancel, waitsOf, List.filterMap_append,
          ← waitsOf, waitsOf_rounds]
        simp [Deed.seconds?]
      · intro attempt lower before
        obtain ⟨ends, waited⟩ := goesOn attempt lower before
        exact ⟨exists_of_not_ends ends, waited⟩
  | cut raised =>
      obtain ⟨positive, below, ends, raises, rfl⟩ := ended
      rw [on_settle_cut] at performed
      refine .inr ⟨attempts, raised, _, _, positive, below, ?_, ?_, raises,
        on_perform_of_recorded performed, performed, rfl⟩
      · intro attempt lower upper
        rcases Nat.eq_or_lt_of_le upper with rfl | before
        · exact exists_of_not_ends ends
        · exact exists_of_not_ends (goesOn attempt lower before).1
      · exact fun attempt lower before => (goesOn attempt lower before).2

end StageRun

/-! ## Exact seconds -/

/-- A clock of exact seconds keeps the time of a workspace: it is read between two of its times,
a wait takes as long as it should or longer, and writing to the log takes no time back. -/
structure Timer.Keeps (clock : Timer Rat Rat ε) (time : Workspace ε → Rat) : Prop where
  read (w : Workspace ε) : ∃ now w', clock.read.on w = (.ok now, w') ∧ time w ≤ now ∧ now ≤ time w'
  wait {seconds : Rat} (nonneg : 0 ≤ seconds) (w : Workspace ε) :
    ∃ w', (clock.wait seconds).on w = (.ok (), w') ∧ time w + seconds ≤ time w'
  warn (message : String) (w : Workspace ε) : time w ≤ time { w with log := message :: w.log }

namespace StageRun

section Exact

variable {run : StageRun Rat Rat ε} {time : Workspace ε → Rat} (keeps : run.clock.Keeps time)
  {waits : Nat → Rat} (known : ∀ i, run.waitAfter i = .ok (waits i)) (nonneg : ∀ i, 0 ≤ waits i)
  {work : Act ε α} (goesOn : ∀ w, time w ≤ time (work.on w).2)

include keeps in
theorem canBeRead_of_keeps : run.clock.CanBeRead := by
  intro w
  obtain ⟨now, w', read, _⟩ := keeps.read w
  exact ⟨now, w', read⟩

include keeps known nonneg in
theorem waitOn_of_keeps (work : Act ε α) (w : Workspace ε) (attempt : Nat) :
    run.waitOn work w attempt = .ok () := by
  unfold waitOn
  rcases run.attemptOn work w attempt with ⟨fault | value, v⟩
  · obtain ⟨w', waited, _⟩ := keeps.wait (nonneg attempt)
      { v with log := run.retryMessage attempt fault (waits attempt) :: v.log }
    dsimp only
    rw [on_pause (known attempt), waited]
  · rfl

include keeps known nonneg in
theorem time_pause (attempt : Nat) (fault : Fault) (w : Workspace ε) :
    time w + waits attempt ≤ time ((run.pause attempt fault).on w).2 := by
  rw [on_pause (known attempt)]
  have warned := keeps.warn (run.retryMessage attempt fault (waits attempt)) w
  obtain ⟨w', waited, later⟩ := keeps.wait (nonneg attempt)
    { w with log := run.retryMessage attempt fault (waits attempt) :: w.log }
  rw [waited]
  linarith

include keeps known nonneg goesOn in
/-- Attempts that fail take as long as the waits after them, at least. -/
theorem time_after (w : Workspace ε) (count : Nat)
    (failed : ∀ attempt, 1 ≤ attempt → attempt ≤ count →
      ∃ fault, run.outcomes work w attempt = .error fault) :
    time w + ((List.range' 1 count).map waits).sum ≤ time (run.after work w count) := by
  induction count with
  | zero => simp [after]
  | succ count ih =>
      have before := ih fun attempt lower upper => failed attempt lower (Nat.le_succ_of_le upper)
      have worked : time (run.after work w count) ≤ time (run.attemptOn work w (count + 1)).2 :=
        goesOn _
      obtain ⟨fault, came⟩ := failed (count + 1) (Nat.le_add_left 1 count) (Nat.le_refl _)
      have paused := time_pause keeps known nonneg (count + 1) fault
        (run.attemptOn work w (count + 1)).2
      rw [after_succ came, List.range'_concat, List.map_append, List.sum_append]
      simp only [Nat.one_mul, Nat.add_comm 1 count, List.map_cons, List.map_nil, List.sum_cons,
        List.sum_nil, add_zero]
      linarith

include keeps known nonneg goesOn in
/-- What is noted as the duration of a stage is at least the sum of its waits. -/
theorem IsRetried.sum_waits_le {start finish : Rat} {notes : List (StageNote Rat)}
    {w w' : Workspace ε} {attempts : Nat} {deeds : List (Deed α Rat)}
    (retried : run.IsRetried waits start work notes w attempts finish w' deeds)
    (begun : start ≤ time w) : (waitsOf deeds).sum ≤ finish - start := by
  have worked : time (run.after work w (attempts - 1)) ≤ time (run.attemptOn work w attempts).2 :=
    goesOn _
  obtain ⟨now, v, read, upper, _⟩ := keeps.read (run.attemptOn work w attempts).2
  rw [retried.finished] at read
  cases read
  have positive := retried.least.1.1
  have waited := time_after keeps known nonneg goesOn w (attempts - 1) fun attempt lower before =>
    (retried.again attempt lower (by omega)).1.imp fun _ failed => failed.1
  rw [retried.waited]
  linarith

end Exact

end StageRun

theorem sum_multiples (b : Rat) (count : Nat) :
    ((List.range' 1 count).map fun attempt : Nat => b * attempt).sum =
      b * (count + 1) * count / 2 := by
  induction count with
  | zero => simp
  | succ count ih =>
      rw [List.range'_concat, List.map_append, List.sum_append, ih]
      simp only [Nat.one_mul, List.map_cons, List.map_nil, List.sum_cons, List.sum_nil]
      push_cast
      ring

/-! ## Stages of a pipeline -/

namespace Pipeline

def stageRun (pipeline : Pipeline ε) (requestId : String) (stage : Stage) (limit : Nat) :
    StageRun Float Numeric ε :=
  ⟨pipeline.clock, stage, requestId, limit, pipeline.settings.waitAfter⟩

theorem on_stage {pipeline : Pipeline ε} {config : Config} {start : Float} {w w₀ : Workspace ε}
    (settings : pipeline.settings = .ofConfig config)
    (read : pipeline.clock.read.on w = (.ok start, w₀)) (requestId : String) (stage : Stage)
    (work : Act ε α) (notes : List StageResult) :
    (pipeline.stage requestId stage work).on notes w =
      ((pipeline.stageRun requestId stage config.maxAttempts).perform start work).on notes w₀ := by
  -- One stage alone does not depend on the image and the prompt of the run.
  rw [pipeline.stage_eq "" ""]
  exact Production.on_perform settings read requestId stage work notes

end Pipeline

theorem StageRun.IsCutShort.not_makes {run : StageRun Float Numeric ε} {config : Config}
    {start : Float} {work : Act ε α} {notes : List StageResult} {w w' : Workspace ε}
    {attempts : Nat} {raised : Fault} {deeds : List (Deed α Numeric)}
    (cut : run.IsCutShort config.wait start work notes w attempts raised w' deeds)
    (known : ∀ i, run.waitAfter i = .ok (config.wait i)) (limit : run.limit = config.maxAttempts) :
    ¬ run.clock.Makes config := by
  intro makes
  obtain ⟨fault, came, -⟩ := cut.failed attempts cut.positive (Nat.le_refl _)
  have raises := cut.raises
  rw [waitOn_eq came, on_pause (known attempts)] at raises
  obtain ⟨w'', waited⟩ := makes attempts _ cut.positive (limit ▸ cut.below)
  rw [waited] at raises
  cases raises

/-- Bounded retry.  A stage of a pipeline with an accepted configuration is tried up to its first
outcome that is a value or a refusal, or as often as the configuration allows, and it waits
between the attempts; it raises what the clock raises where that does not make a wait.  By a clock
of exact seconds that makes every wait the duration of a stage is no shorter than its waits. -/
theorem stage_isRetried_or_isCutShort (work : Act ε α) :
    (∀ (pipeline : Pipeline ε) (config : Config) (requestId : String) (stage : Stage)
        (notes : List StageResult) (w : Workspace ε),
      config.IsAccepted → pipeline.settings = .ofConfig config → pipeline.clock.CanBeRead →
      ∃ start w₀,
        pipeline.clock.read.on w = (.ok start, w₀) ∧
        (pipeline.stage requestId stage work).on notes w =
          ((pipeline.stageRun requestId stage config.maxAttempts).perform start work).on
            notes w₀ ∧
        ((∃ attempts finish w' deeds,
            (pipeline.stageRun requestId stage config.maxAttempts).IsRetried config.wait start
              work notes w₀ attempts finish w' deeds) ∨
          ∃ attempts raised w' deeds,
            (pipeline.stageRun requestId stage config.maxAttempts).IsCutShort config.wait start
              work notes w₀ attempts raised w' deeds) ∧
        (pipeline.clock.Makes config → ∃ attempts finish w' deeds,
          (pipeline.stageRun requestId stage config.maxAttempts).IsRetried config.wait start
            work notes w₀ attempts finish w' deeds)) ∧
    ∀ (run : StageRun Rat Rat ε) (b : Rat) (time : Workspace ε → Rat)
        (notes : List (StageNote Rat)) (w : Workspace ε),
      1 ≤ run.limit → 0 ≤ b → (∀ attempt, run.waitAfter attempt = .ok (b * attempt)) →
      run.clock.Keeps time → (∀ w, time w ≤ time (work.on w).2) →
      ∃ start w₀ attempts finish w' deeds,
        run.clock.read.on w = (.ok start, w₀) ∧
        run.IsRetried (fun attempt => b * attempt) start work notes w₀ attempts finish w' deeds ∧
        b * attempts * (attempts - 1) / 2 ≤ finish - start := by
  constructor
  · intro pipeline config requestId stage notes w accepted settings readable
    obtain ⟨start, w₀, read⟩ := readable w
    have known (attempt : Nat) :
        pipeline.settings.waitAfter attempt = .ok (config.wait attempt) := by
      rw [settings]
      rfl
    let run := pipeline.stageRun requestId stage config.maxAttempts
    have ended := run.exists_isRetried_or_isCutShort readable accepted.one_le_maxAttempts known
      start work notes w₀
    refine ⟨start, w₀, read, Pipeline.on_stage settings read requestId stage work notes, ended, ?_⟩
    intro makes
    refine ended.resolve_right ?_
    rintro ⟨attempts, raised, w', deeds, cut⟩
    exact cut.not_makes known rfl makes
  · intro run b time notes w positive nonneg known keeps goesOn
    have nonnegWaits (attempt : Nat) : 0 ≤ b * (attempt : Rat) :=
      mul_nonneg nonneg (Nat.cast_nonneg attempt)
    obtain ⟨start, w₀, read, _, begun⟩ := keeps.read w
    have ended := StageRun.exists_isRetried_or_isCutShort (StageRun.canBeRead_of_keeps keeps)
      positive known start work notes w₀
    rcases ended with ⟨attempts, finish, w', deeds, retried⟩ | ⟨attempts, raised, w', deeds, cut⟩
    · refine ⟨start, w₀, attempts, finish, w', deeds, read, retried, ?_⟩
      have waited := retried.sum_waits_le keeps known nonnegWaits goesOn begun
      obtain ⟨count, rfl⟩ := Nat.exists_eq_add_of_le' retried.least.1.1
      rw [retried.waited, Nat.add_sub_cancel, sum_multiples] at waited
      push_cast
      linarith
    · have made := StageRun.waitOn_of_keeps keeps known nonnegWaits work w₀ attempts
      rw [cut.raises] at made
      cases made

/-! ### Work that fails at first -/

/-- A clock that goes on in waits only, with the time outside of the workspace. -/
def Timer.waiting : Timer Rat Rat Rat where
  read := return (← Act.workspace).outside
  wait seconds := Act.change fun w => { w with outside := w.outside + seconds }

theorem Timer.waiting_keeps : Timer.waiting.Keeps Workspace.outside where
  read w := ⟨w.outside, w, rfl, le_refl _, le_refl _⟩
  wait _ _ := ⟨_, rfl, le_refl _⟩
  warn _ w := le_refl w.outside

def StageRun.halves : StageRun Rat Rat Rat :=
  ⟨.waiting, .render, "request", 3, fun attempt => .ok (1 / 2 * attempt)⟩

/-- Work that fails until the log tells of a failure. -/
def Act.busyAtFirst : Act ε String := do
  let w ← Act.workspace
  if w.log.isEmpty then Act.fail (.external "RuntimeError" (some "busy")) else return "done"

theorem Act.on_busyAtFirst (w : Workspace ε) :
    Act.busyAtFirst.on w =
      (if w.log.isEmpty then .error (.external "RuntimeError" (some "busy"))
        else .ok "done", w) := by
  rw [busyAtFirst, on_bind_ok (on_workspace w), on_ite]
  split <;> rfl

def Workspace.midnight : Workspace Rat := { Workspace.blank with outside := 0 }

theorem busy_isRetried :
    (∃ start w₀,
      (Pipeline.idle : Pipeline Rat).clock.read.on .midnight = (.ok start, w₀) ∧
      ((Pipeline.idle : Pipeline Rat).stage "request" .render Act.busyAtFirst).on [] .midnight =
        (((Pipeline.idle : Pipeline Rat).stageRun "request" .render
          Config.standard.maxAttempts).perform start Act.busyAtFirst).on [] w₀ ∧
      ∃ attempts finish w' deeds,
        ((Pipeline.idle : Pipeline Rat).stageRun "request" .render
          Config.standard.maxAttempts).IsRetried Config.standard.wait start Act.busyAtFirst
            [] w₀ attempts finish w' deeds) ∧
    ∃ start w₀ attempts finish w' deeds,
      Timer.waiting.read.on .midnight = (.ok start, w₀) ∧
      StageRun.halves.IsRetried (fun attempt => 1 / 2 * attempt) start Act.busyAtFirst
        [] w₀ attempts finish w' deeds ∧
      1 / 2 * attempts * (attempts - 1) / 2 ≤ finish - start := by
  have goesOn (w : Workspace Rat) : w.outside ≤ (Act.busyAtFirst.on w).2.outside := by
    rw [Act.on_busyAtFirst]
  obtain ⟨inDoubles, inFractions⟩ := stage_isRetried_or_isCutShort Act.busyAtFirst
  constructor
  · obtain ⟨start, w₀, read, performed, -, made⟩ := inDoubles .idle .standard "request" .render []
      .midnight Config.standard_isAccepted rfl Clock.stopped_isSteady.read
    exact ⟨start, w₀, read, performed, made fun _ _ _ _ => ⟨_, rfl⟩⟩
  · exact inFractions .halves (1 / 2) Workspace.outside [] .midnight (by decide) (by norm_num)
      (fun _ => rfl) Timer.waiting_keeps goesOn

/-! ### Waits that cannot be made -/

/-- Work that always fails. -/
def Act.busy : Act ε String := Act.fail (.external "RuntimeError" (some "busy"))

/-- A clock that takes any number for a wait and goes on by it. -/
def Clock.elapsing : Clock ε := ⟨Act.readClock, Act.elapse⟩

def Config.endless : Config :=
  { standard with pipeline := { PipelineSettings.standard with backoffSeconds := 1.0 / 0.0 } }

theorem Config.endless_isAccepted : endless.IsAccepted :=
  ⟨.mapping [("pipeline", .mapping [("backoff_sec", .float (1.0 / 0.0))])], rfl⟩

/-- The workspace after a stage that has waited without end. -/
def Workspace.endless : Workspace Unit := { Workspace.blank with clock := 1.0 / 0.0 }

/-- By the clock of the operating system, not every stage is retried; by one that takes any
number for a wait, the duration of a stage is not always as long as its waits: where they are
endless, it is no number. -/
theorem not_all_stages_isRetried :
    (¬ ∀ (pipeline : Pipeline Unit) (config : Config) (requestId : String) (stage : Stage)
        (work : Act Unit String) (notes : List StageResult) (w : Workspace Unit),
      config.IsAccepted → pipeline.settings = .ofConfig config → pipeline.clock = .ofWorkspace →
      ∃ start w₀ attempts finish w' deeds,
        pipeline.clock.read.on w = (.ok start, w₀) ∧
        (pipeline.stageRun requestId stage config.maxAttempts).IsRetried config.wait start work
          notes w₀ attempts finish w' deeds) ∧
    ¬ ∀ (pipeline : Pipeline Unit) (config : Config) (requestId : String) (stage : Stage)
        (work : Act Unit String) (w : Workspace Unit),
      config.IsAccepted → pipeline.settings = .ofConfig config → pipeline.clock = .elapsing →
      ∀ note ∈ ((pipeline.stage requestId stage work).on [] w).2.1,
        config.pipeline.backoffSeconds * Number.ofInt (note.attempts * (note.attempts - 1)) / 2.0 ≤
          note.duration := by
  constructor
  · intro all
    obtain ⟨start, w₀, attempts, finish, w', deeds, read, retried⟩ := all .patient .patient
      "request" .render .busy [] .blank Config.patient_isAccepted rfl rfl
    cases read
    have last : attempts = 3 := by
      rcases retried.least.1.2.2 with ended | last
      · cases ended
      · exact last
    have waited := (retried.again 1 (Nat.le_refl 1) (by omega)).2
    cases waited
  · intro all
    have long := all { Pipeline.idle with settings := .ofConfig .endless, clock := .elapsing }
      .endless "request" .render .busyAtFirst .endless Config.endless_isAccepted rfl rfl
    revert long
    decide +kernel

end StillMotion
