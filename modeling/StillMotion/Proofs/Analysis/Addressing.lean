import StillMotion.Analysis.Vision
import StillMotion.Proofs.Analysis.Examination
import StillMotion.Proofs.Pipeline.Production
import StillMotion.Proofs.Text.Search

/-!
# Addresses and files

A run takes some references for addresses and looks for the file of every other.  The vision
backend sends some references as they are and opens the file of every other.  What it sends is
always an address for the run as well, so no file that was looked for is ever sent by its name.

The converse fails: the run knows an address by the mark after its scheme, the backend by a few
schemes in small letters.  A reference between the two is opened although nobody has looked for
its file, and when there is none the run goes on with what the reference alone tells.
-/

namespace StillMotion

open StillMotion.Text

/-- The reference has a scheme, but none of those, in this letter case, by which images are sent. -/
def IsForeign (reference : String) : Prop :=
  "://".toList <:+: reference.toList ∧
    ∀ start ∈ Vision.addressStarts, ¬ start.toList <+: reference.toList

namespace Vision

variable {ε : Type} {reference : String} {w : Workspace ε}

def IsPassedOn (reference : String) : Prop :=
  ∀ (ε : Type) (w : Workspace ε), (addressOf reference).on w = (.ok reference, w)

/-- What is sent is the content of the file that the reference names, and nothing without it. -/
def IsOpened (reference : String) : Prop :=
  ∀ (ε : Type) (w : Workspace ε), (addressOf reference).on w =
    (((Act.readBytes (Path.ofText reference)).on w).1 >>= inlineAddress (Path.ofText reference), w)

theorem isAddress_iff :
    isAddress reference = true ↔ ∃ start ∈ addressStarts, start.toList <+: reference.toList := by
  simp only [isAddress, List.any_eq_true, startsWith_iff]

theorem isPassedOn_of_isAddress (address : isAddress reference = true) : IsPassedOn reference := by
  intro ε w
  rw [addressOf, if_pos address]
  rfl

theorem isOpened_of_not_isAddress (other : ¬ isAddress reference = true) : IsOpened reference := by
  intro ε w
  obtain ⟨outcome, read⟩ := Act.exists_on_readBytes (Path.ofText reference) w
  rw [addressOf, if_neg other, read]
  cases outcome with
  | error fault => exact Act.on_bind_error read
  | ok content => exact (Act.on_bind_ok read).trans (Act.on_of _ w)

theorem not_isPassedOn_of_isOpened (opened : IsOpened reference) : ¬ IsPassedOn reference := by
  intro passed
  have sent := congrArg Prod.fst
    ((opened Unit Workspace.blank).symm.trans (passed Unit Workspace.blank))
  obtain ⟨content, read, -⟩ := Except.bind_eq_ok.mp sent
  exact Workspace.HasFile.not_of_empty rfl (.of_on_readBytes read)

theorem isPassedOn_iff : IsPassedOn reference ↔ isAddress reference = true := by
  refine ⟨fun passed => ?_, isPassedOn_of_isAddress⟩
  by_contra other
  exact not_isPassedOn_of_isOpened (isOpened_of_not_isAddress other) passed

theorem exists_on_analyze_of_missing (opened : IsOpened reference)
    (missing : ∀ content, ¬ w.HasFile (Path.ofText reference) content)
    (settings : VisionConfig) (client : ChatRequest → Act ε Reply) :
    ∃ fault, (analyze settings client reference).on w = (.error fault, w) := by
  rw [analyze]
  cases Instruction.analysis (.list []) with
  | error fault => exact ⟨fault, rfl⟩
  | ok instruction =>
      rw [Act.on_bind_ok (Act.on_of (.ok instruction) w)]
      rcases read : ((Act.readBytes (Path.ofText reference)).on w).1 with fault | content
      · have failed := opened ε w
        rw [read] at failed
        exact ⟨fault, Act.on_bind_error failed⟩
      · exact absurd (.of_on_readBytes read) (missing content)

end Vision

/-! ## Addresses of a run -/

theorem isRemote_iff {reference : String} :
    isRemote reference = true ↔
      "://".toList <:+: reference.toList ∨ "data:".toList <+: reference.toList := by
  simp only [isRemote, Bool.or_eq_true, containsText, contains_iff, startsWith_iff]

theorem isRemote_of_isAddress {reference : String} (address : Vision.isAddress reference = true) :
    isRemote reference = true := by
  obtain ⟨start, listed, rest, whole⟩ := Vision.isAddress_iff.mp address
  rw [isRemote_iff, ← whole]
  simp only [Vision.addressStarts, List.mem_cons, List.not_mem_nil, or_false] at listed
  rcases listed with rfl | rfl | rfl
  · exact .inl ⟨"http".toList, rest, rfl⟩
  · exact .inl ⟨"https".toList, rest, rfl⟩
  · exact .inr ⟨rest, rfl⟩

theorem isForeign_iff {reference : String} :
    IsForeign reference ↔ isRemote reference = true ∧ ¬ Vision.isAddress reference = true := by
  rw [isRemote_iff, Vision.isAddress_iff]
  push Not
  constructor
  · rintro ⟨marked, other⟩
    exact ⟨.inl marked, other⟩
  · rintro ⟨marked | inline, other⟩
    · exact ⟨marked, other⟩
    · exact absurd inline (other "data:" (by simp [Vision.addressStarts]))

/-- An image that a run takes for an address and the backend for a file that is not there is
described by its reference alone, and the log is all that tells of it. -/
theorem Pipeline.exists_on_analyze_of_missing {ε : Type} {reference : String} {w : Workspace ε}
    (foreign : IsForeign reference)
    (missing : ∀ content, ¬ w.HasFile (Path.ofText reference) content)
    (pipeline : Pipeline ε) (config : Config) (settings : VisionConfig)
    (client : Vision.ChatRequest → Act ε Vision.Reply) :
    ∃ schema message, VisualSchema.normalize (Fallback.payload reference) = .ok schema ∧
      ((pipeline.withBackend config (some (Vision.backend settings client))).analyze reference).on w =
        (.ok schema, { w with log := message :: w.log }) := by
  obtain ⟨remote, other⟩ := isForeign_iff.mp foreign
  obtain ⟨fault, failed⟩ := Vision.exists_on_analyze_of_missing
    (Vision.isOpened_of_not_isAddress other) missing settings client
  obtain ⟨schema, normalized, described⟩ := VisualSchema.exists_on_ofReference (ε := ε) reference
  refine ⟨schema, VisualSchema.backendFailure visionName fault, normalized, ?_⟩
  rw [on_analyze, if_pos remote]
  refine pipeline.on_examine config _ ?_ (VisualSchema.isUsable_of_normalize normalized)
  have asked : (do let raw ← (Vision.backend settings client).analyze reference
                   Act.ofArithmetic (VisualSchema.normalize raw) : Act ε VisualSchema).on w =
      (.error fault, w) := Act.on_bind_error failed
  rw [VisualSchema.ofImage, Act.on_bind, Act.on_attempt, asked]
  exact (Act.on_bind_ok (Act.on_warn _ w)).trans (described _)

/-! ## The two readings of a reference -/

/-- A run and the vision backend agree on what an address is exactly for the references that are
not foreign.  What is no address for the run is opened; a foreign reference is opened as well. -/
theorem isRemote_iff_isPassedOn_iff (reference : String) :
    ((isRemote reference = true ↔ Vision.IsPassedOn reference) ↔ ¬ IsForeign reference) ∧
    (Vision.IsPassedOn reference → isRemote reference = true) ∧
    (isRemote reference = false → Vision.IsOpened reference) ∧
    (IsForeign reference → Vision.IsOpened reference ∧
      ∀ (ε : Type) (pipeline : Pipeline ε) (config : Config) (settings : VisionConfig)
        (client : Vision.ChatRequest → Act ε Vision.Reply) (w : Workspace ε),
        (∀ content, ¬ w.HasFile (Path.ofText reference) content) →
        ∃ schema message, VisualSchema.normalize (Fallback.payload reference) = .ok schema ∧
          ((pipeline.withBackend config (some (Vision.backend settings client))).analyze
              reference).on w = (.ok schema, { w with log := message :: w.log })) := by
  refine ⟨?_, ?_, ?_, ?_⟩
  · rw [isForeign_iff, Vision.isPassedOn_iff]
    have sent (address : Vision.isAddress reference = true) := isRemote_of_isAddress address
    tauto
  · exact fun passed => isRemote_of_isAddress (Vision.isPassedOn_iff.mp passed)
  · intro near
    refine Vision.isOpened_of_not_isAddress fun address => ?_
    rw [isRemote_of_isAddress address] at near
    cases near
  · intro foreign
    refine ⟨Vision.isOpened_of_not_isAddress (isForeign_iff.mp foreign).2, ?_⟩
    intro ε pipeline config settings client w missing
    exact pipeline.exists_on_analyze_of_missing foreign missing config settings client

def shoutedReference : String := "HTTP://example.com/lake.jpg"

theorem shoutedReference_isForeign : IsForeign shoutedReference := by
  refine ⟨⟨"HTTP".toList, "example.com/lake.jpg".toList, rfl⟩, ?_⟩
  decide

theorem shoutedReference_isOpened :
    isRemote shoutedReference = true ∧ Vision.IsOpened shoutedReference := by
  have remote : isRemote shoutedReference = true := by decide
  exact ⟨remote,
    ((isRemote_iff_isPassedOn_iff shoutedReference).2.2.2 shoutedReference_isForeign).1⟩

/-- Not everything that a run takes for an address is sent as it is. -/
theorem not_all_isRemote_iff_isPassedOn :
    ¬ ∀ reference : String, isRemote reference = true ↔ Vision.IsPassedOn reference := by
  intro all
  have passed := (all shoutedReference).mp (by decide)
  exact (isForeign_iff.mp shoutedReference_isForeign).2 (Vision.isPassedOn_iff.mp passed)

end StillMotion
