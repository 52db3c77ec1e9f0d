import StillMotion.Proofs.Pipeline.Production

/-!
# Notes and calls

The notes of a run account for the calls that it made: the work of each stage began as often as
its note says and in the order of the notes, and the renderer was asked in its stage only, at
most once for each time.  What one stage adds to both keeps them in step.
-/

namespace StillMotion

variable {ε α β : Type}

/-- The calls of a stage whose work began so often. -/
structure IsLogOf (stage : Stage) (count : Nat) (calls : List Call) : Prop where
  works : worksOf calls = List.replicate count stage
  answers : (answersOf calls).length ≤ count
  noAnswers : stage ≠ .render → answersOf calls = []

theorem IsLogOf.append {stage : Stage} {count more : Nat} {calls rest : List Call}
    (h : IsLogOf stage count calls) (hrest : IsLogOf stage more rest) :
    IsLogOf stage (count + more) (calls ++ rest) where
  works := by
    rw [worksOf_append, h.works, hrest.works, List.replicate_append_replicate]
  answers := by
    rw [answersOf_append, List.length_append]
    exact Nat.add_le_add h.answers hrest.answers
  noAnswers other := by
    rw [answersOf_append, h.noAnswers other, hrest.noAnswers other, List.append_nil]

/-! ## What acts record -/

namespace Act

def Keeps (act : Act (Recorded ε) α) : Prop := ∀ w, (act.on w).2.calls = w.calls

theorem Keeps.bind {act : Act (Recorded ε) α} {next : α → Act (Recorded ε) β} (h : act.Keeps)
    (hnext : ∀ a, (next a).Keeps) : (act >>= next).Keeps := by
  intro w
  have kept := h w
  rw [on_bind]
  rcases ended : act.on w with ⟨fault | a, w'⟩
  · rw [ended] at kept
    exact kept
  · rw [ended] at kept
    exact (hnext a w').trans kept

end Act

namespace Pipeline

variable (pipeline : Pipeline ε) (image prompt : String) (composition : Composition Float)

end Pipeline

/-! ## The attempts of a stage -/

namespace StageRun

end StageRun

/-! ## Notes that account for calls -/

structure Tally (limit : Nat) (notes : List StageResult) (calls : List Call) : Prop where
  attempts : ∀ note ∈ notes, 1 ≤ note.attempts ∧ note.attempts ≤ limit
  works : worksOf calls = notes.flatMap fun note => List.replicate note.attempts note.stage
  answers : (answersOf calls).length ≤ limit
  noAnswers : Stage.render ∉ notes.map (·.stage) → answersOf calls = []

namespace Tally

variable {limit : Nat} {notes : List StageResult} {calls : List Call}

theorem empty : Tally limit [] [] where
  attempts _ member := by cases member
  works := rfl
  answers := Nat.zero_le limit
  noAnswers _ := rfl

theorem add {note : StageResult} {log : List Call} (tally : Tally limit notes calls)
    (isLog : IsLogOf note.stage note.attempts log)
    (bounds : 1 ≤ note.attempts ∧ note.attempts ≤ limit)
    (fresh : note.stage ∉ notes.map (·.stage)) :
    Tally limit (notes ++ [note]) (calls ++ log) where
  attempts other member := by
    rcases List.mem_append.mp member with old | new
    · exact tally.attempts other old
    · rw [List.mem_singleton.mp new]
      exact bounds
  works := by
    rw [worksOf_append, tally.works, isLog.works, List.flatMap_append, List.flatMap_singleton]
  answers := by
    rw [answersOf_append, List.length_append]
    -- Only one note can be that of the rendering, so its attempts bound all answers.
    by_cases rendering : note.stage = .render
    · rw [rendering] at fresh
      rw [tally.noAnswers fresh, List.length_nil, Nat.zero_add]
      exact Nat.le_trans isLog.answers bounds.2
    · rw [isLog.noAnswers rendering, List.length_nil, Nat.add_zero]
      exact tally.answers
  noAnswers absent := by
    rw [List.map_append, List.mem_append, not_or] at absent
    have other : note.stage ≠ .render := fun same => absent.2 (by simp [same])
    rw [answersOf_append, tally.noAnswers absent.1, isLog.noAnswers other, List.append_nil]

theorem mem_notes {stage : Stage} (tally : Tally limit notes calls)
    (called : .work stage ∈ calls) : stage ∈ notes.map (·.stage) := by
  have began : stage ∈ worksOf calls := List.mem_filterMap.mpr ⟨_, called, rfl⟩
  rw [tally.works, List.mem_flatMap] at began
  obtain ⟨note, noted, member⟩ := began
  rw [List.eq_of_mem_replicate member]
  exact List.mem_map_of_mem noted

end Tally

end StillMotion
