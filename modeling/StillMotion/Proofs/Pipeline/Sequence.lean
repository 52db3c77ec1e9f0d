import StillMotion.Proofs.Pipeline.Tally

/-!
# All or nothing

A run by an accepted configuration goes through its stages one after the other.  It ends well
when all of them have succeeded, or with the fault of the first that has not; no work of a later
stage begins, and the renderer is asked no more often than a stage may be tried.

Between two attempts the run waits, and the operating system does not wait for a number of
seconds of any size.  Where it refuses, the run is cut short: it raises what the clock raises,
and the stage that was to be tried again is not noted.
-/

namespace StillMotion

variable {ε α : Type}

/-! ## How far a run has come -/

structure Passed (limit : Nat) (done : List Stage) (notes : List StageResult)
    (calls : List Call) : Prop where
  stages : notes.map (·.stage) = done
  succeeded : ∀ note ∈ notes, note.succeeded = true
  tally : Tally limit notes calls

/-- A run has come through some stages and ended with the fault of the next one. -/
structure StoppedAt (limit : Nat) (requestId : String) (done : List Stage) (stage : Stage)
    (later : List Stage) (fault : Fault) (notes : List StageResult) (calls : List Call) :
    Prop where
  split : Stage.sequence = done ++ stage :: later
  fault : ∃ message category,
    fault = .pipeline message category requestId (some stage.word)
  noted : ∃ before note, notes = before ++ [note] ∧ before.map (·.stage) = done ∧
    (∀ earlier ∈ before, earlier.succeeded = true) ∧ note.stage = stage ∧ note.succeeded = false
  tally : Tally limit notes calls
  notCalled : ∀ other ∈ later, .work other ∉ calls
  notAsked : Stage.render ∈ later → answersOf calls = []

def Stopped (limit : Nat) (requestId : String) (fault : Fault) (notes : List StageResult)
    (calls : List Call) : Prop :=
  ∃ done stage later, StoppedAt limit requestId done stage later fault notes calls

/-- A run has come through some stages and has tried the next one so often that it had to wait,
and the clock has not waited. -/
structure CutShortAt (clock : Clock ε) (config : Config) (done : List Stage) (stage : Stage)
    (later : List Stage) (attempt : Nat) (raised : Fault) (notes : List StageResult)
    (calls : List Call) : Prop where
  split : Stage.sequence = done ++ stage :: later
  attempts : 1 ≤ attempt ∧ attempt < config.maxAttempts
  raises : ∃ w w', (clock.wait (config.wait attempt)).on w = (.error raised, w')
  stages : notes.map (·.stage) = done
  succeeded : ∀ note ∈ notes, note.succeeded = true
  works : worksOf calls =
    (notes.flatMap fun note => List.replicate note.attempts note.stage) ++
      List.replicate attempt stage
  answers : (answersOf calls).length ≤ config.maxAttempts
  notCalled : ∀ other ∈ later, .work other ∉ calls
  notAsked : Stage.render ∈ later → answersOf calls = []

def CutShort (clock : Clock ε) (config : Config) (raised : Fault) (notes : List StageResult)
    (calls : List Call) : Prop :=
  ∃ done stage later attempt,
    CutShortAt clock config done stage later attempt raised notes calls

theorem Stage.nodup_sequence : Stage.sequence.Nodup := by decide

/-! ## One stage -/

section Stage

variable {limit : Nat} {done later : List Stage} {stage : Stage} {notes : List StageResult}
  {calls log : List Call}

theorem not_mem_done (split : Stage.sequence = done ++ stage :: later) : stage ∉ done := by
  have nodup := Stage.nodup_sequence
  rw [split, List.nodup_append] at nodup
  intro member
  exact nodup.2.2 stage member stage List.mem_cons_self rfl

theorem not_mem_later (split : Stage.sequence = done ++ stage :: later) {other : Stage}
    (member : other ∈ later) : other ∉ done ++ [stage] := by
  have nodup := Stage.nodup_sequence
  rw [split, List.append_cons, List.nodup_append] at nodup
  intro earlier
  exact nodup.2.2 other earlier other member rfl

theorem Passed.tally_add {note : StageResult} (passed : Passed limit done notes calls)
    (split : Stage.sequence = done ++ stage :: later) (named : note.stage = stage)
    (bounds : 1 ≤ note.attempts ∧ note.attempts ≤ limit)
    (isLog : IsLogOf stage note.attempts log) :
    Tally limit (notes ++ [note]) (calls ++ log) := by
  subst named
  refine passed.tally.add isLog bounds ?_
  rw [passed.stages]
  exact not_mem_done split

theorem Passed.stages_add {note : StageResult} (passed : Passed limit done notes calls)
    (named : note.stage = stage) : (notes ++ [note]).map (·.stage) = done ++ [stage] := by
  rw [List.map_append, passed.stages, List.map_singleton, named]

theorem Passed.add {note : StageResult} (passed : Passed limit done notes calls)
    (split : Stage.sequence = done ++ stage :: later) (named : note.stage = stage)
    (succeeded : note.succeeded = true) (bounds : 1 ≤ note.attempts ∧ note.attempts ≤ limit)
    (isLog : IsLogOf stage note.attempts log) :
    Passed limit (done ++ [stage]) (notes ++ [note]) (calls ++ log) where
  stages := passed.stages_add named
  succeeded other member := by
    rcases List.mem_append.mp member with old | new
    · exact passed.succeeded other old
    · rw [List.mem_singleton.mp new]
      exact succeeded
  tally := passed.tally_add split named bounds isLog

theorem not_mem_calls {count : Nat} {other : Stage} (passed : Passed limit done notes calls)
    (split : Stage.sequence = done ++ stage :: later) (isLog : IsLogOf stage count log)
    (member : other ∈ later) : .work other ∉ calls ++ log := by
  intro called
  refine not_mem_later split member (List.mem_append.mpr ?_)
  rcases List.mem_append.mp called with early | late
  · exact .inl (passed.stages ▸ passed.tally.mem_notes early)
  · have began : other ∈ worksOf log := List.mem_filterMap.mpr ⟨_, late, rfl⟩
    rw [isLog.works] at began
    exact .inr (List.mem_singleton.mpr (List.eq_of_mem_replicate began))

theorem answers_length_le {count : Nat} (passed : Passed limit done notes calls)
    (split : Stage.sequence = done ++ stage :: later) (isLog : IsLogOf stage count log)
    (bound : count ≤ limit) : (answersOf (calls ++ log)).length ≤ limit := by
  rw [answersOf_append, List.length_append]
  -- The renderer has been asked before only if its stage is one of those that are done.
  by_cases rendering : stage = .render
  · have fresh : Stage.render ∉ notes.map (·.stage) := by
      rw [passed.stages, ← rendering]
      exact not_mem_done split
    rw [passed.tally.noAnswers fresh, List.length_nil, Nat.zero_add]
    exact Nat.le_trans isLog.answers bound
  · rw [isLog.noAnswers rendering, List.length_nil, Nat.add_zero]
    exact passed.tally.answers

theorem Passed.cut {clock : Clock ε} {config : Config} {attempt : Nat} {raised : Fault}
    (passed : Passed config.maxAttempts done notes calls)
    (split : Stage.sequence = done ++ stage :: later)
    (attempts : 1 ≤ attempt ∧ attempt < config.maxAttempts)
    (raises : ∃ w w', (clock.wait (config.wait attempt)).on w = (.error raised, w'))
    (isLog : IsLogOf stage attempt log) :
    CutShortAt clock config done stage later attempt raised notes (calls ++ log) where
  split := split
  attempts := attempts
  raises := raises
  stages := passed.stages
  succeeded := passed.succeeded
  works := by rw [worksOf_append, passed.tally.works, isLog.works]
  answers := answers_length_le passed split isLog (Nat.le_of_lt attempts.2)
  notCalled _ member := not_mem_calls passed split isLog member
  notAsked member := by
    have fresh := not_mem_later split member
    rw [List.mem_append, List.mem_singleton, not_or] at fresh
    rw [answersOf_append, passed.tally.noAnswers (passed.stages ▸ fresh.1),
      isLog.noAnswers (Ne.symm fresh.2), List.append_nil]

theorem Passed.stop {note : StageResult} {requestId message : String} {category : ErrorCategory}
    (passed : Passed limit done notes calls)
    (split : Stage.sequence = done ++ stage :: later) (named : note.stage = stage)
    (failed : note.succeeded = false) (bounds : 1 ≤ note.attempts ∧ note.attempts ≤ limit)
    (isLog : IsLogOf stage note.attempts log) :
    StoppedAt limit requestId done stage later
      (.pipeline message category requestId (some stage.word)) (notes ++ [note])
      (calls ++ log) := by
  have tally := passed.tally_add split named bounds isLog
  have stages := passed.stages_add named
  exact {
    split
    fault := ⟨message, category, rfl⟩
    noted := ⟨notes, note, rfl, passed.stages, passed.succeeded, named, failed⟩
    tally
    notCalled := fun other member called =>
      not_mem_later split member (stages ▸ tally.mem_notes called)
    notAsked := fun member => tally.noAnswers (stages ▸ not_mem_later split member) }

end Stage

/-! ## The stages of a run -/

namespace Pipeline

variable {pipeline : Pipeline ε} {config : Config}

def Ends (clock : Clock ε) (config : Config) (requestId : String) (fault : Fault)
    (notes : List StageResult) (calls : List Call) : Prop :=
  Stopped config.maxAttempts requestId fault notes calls ∨ CutShort clock config fault notes calls

end Pipeline

/-! ## Every run -/

def IsCutShort (clock : Clock ε) (config : Config) (outcome : Except Fault PipelineResult)
    (notes : List StageResult) (calls : List Call) : Prop :=
  ∃ raised, outcome = .error raised ∧ CutShort clock config raised notes calls

/-- The clock makes every wait that a configuration may ask for. -/
def Timer.Makes (clock : Clock ε) (config : Config) : Prop :=
  ∀ attempt w, 1 ≤ attempt → attempt < config.maxAttempts →
    ∃ w', (clock.wait (config.wait attempt)).on w = (.ok (), w')

theorem IsCutShort.not_makes {clock : Clock ε} {config : Config}
    {outcome : Except Fault PipelineResult} {notes : List StageResult} {calls : List Call}
    (cut : IsCutShort clock config outcome notes calls) : ¬ clock.Makes config := by
  intro makes
  obtain ⟨raised, -, done, stage, later, attempt, cutShort⟩ := cut
  obtain ⟨w, w', failed⟩ := cutShort.raises
  obtain ⟨w'', waited⟩ := makes attempt w cutShort.attempts.1 cutShort.attempts.2
  rw [waited] at failed
  cases failed

/-- The standard configuration with waits of ten thousand million seconds and its multiples. -/
def Config.patient : Config :=
  { standard with pipeline := { PipelineSettings.standard with backoffSeconds := 1e10 } }

theorem Config.patient_isAccepted : patient.IsAccepted :=
  ⟨.mapping [("pipeline", .mapping [("backoff_sec", .float 1e10)])], rfl⟩

/-- The pipeline of that configuration, whose renderer writes nothing, by the clock of the
operating system. -/
def Pipeline.patient : Pipeline ε :=
  { idle with settings := .ofConfig .patient, clock := .ofWorkspace }

end StillMotion
