import Mathlib.Data.List.Lex
import StillMotion.Proofs.Scene.Baking
import StillMotion.Proofs.Timeline.Extent

/-!
# Violations

What a valid timeline must not hold, told without walking it: an end of a layer beyond the clip or
a keyframe outside of it, each by the positions at which it is found.  Checking reports all of
these and nothing else, each once and in the order of their positions.
-/

namespace StillMotion

open StillMotion.Number

inductive Violation where
  | noAssets
  | noTracks
  | lateLayer (trackPlace place : Nat) (track : Track Rat) (layer : Layer Rat)
  | strayKeyframe (trackPlace layerPlace place : Nat) (keyframe : Keyframe Rat)

namespace Violation

/-- Where a violation is reported: the two of the whole timeline first, then those of the tracks
from position to position, the end of a layer before its keyframes. -/
def place : Violation → List Nat
  | .noAssets => [0]
  | .noTracks => [1]
  | .lateLayer t l _ _ => [2, t, l]
  | .strayKeyframe t l k _ => [2, t, l, k]

def message (total : Rat) : Violation → String
  | .noAssets => "Timeline must have at least one asset"
  | .noTracks => "Timeline must have at least one track"
  | .lateLayer _ _ track layer =>
      s!"Layer '{layer.id}' in track '{track.id}' ends at {briefly layer.finish}s, " ++
        s!"beyond timeline duration {briefly total}s"
  | .strayKeyframe t l k keyframe =>
      s!"Keyframe {k} in layer {l} of track {t} has " ++
        s!"invalid time {briefly keyframe.time}s"

end Violation

namespace Timeline

/-- The last instant of a clip, with the slack of a billionth of a second. -/
def limit (timeline : Timeline Rat) : Rat := timeline.metadata.duration + 1 / 10 ^ 9

inductive Violates (timeline : Timeline Rat) : Violation → Prop
  | noAssets : timeline.assets = [] → Violates timeline .noAssets
  | noTracks : timeline.tracks = [] → Violates timeline .noTracks
  | lateLayer {t l : Nat} {track : Track Rat} {layer : Layer Rat} :
      timeline.tracks[t]? = some track → track.layers[l]? = some layer →
      timeline.limit < layer.start + layer.duration →
      Violates timeline (.lateLayer t l track layer)
  | strayKeyframe {t l k : Nat} {track : Track Rat} {layer : Layer Rat} {keyframe : Keyframe Rat} :
      timeline.tracks[t]? = some track → track.layers[l]? = some layer →
      layer.keyframes[k]? = some keyframe →
      keyframe.time < 0 ∨ timeline.limit < keyframe.time →
      Violates timeline (.strayKeyframe t l k keyframe)

end Timeline

/-! ## The violations of a timeline, one after the other -/

theorem pairwise_flatMap_zipIdx {β γ : Type} {R : γ → γ → Prop} {xs : List β}
    {f : β × Nat → List γ} (inside : ∀ x i, (f (x, i)).Pairwise R)
    (across : ∀ x i y j, i < j → ∀ a ∈ f (x, i), ∀ b ∈ f (y, j), R a b) :
    (xs.zipIdx.flatMap f).Pairwise R := by
  rw [List.pairwise_flatMap]
  constructor
  · rintro ⟨x, i⟩ -
    exact inside x i
  · rw [List.pairwise_iff_getElem]
    intro i j hi hj less
    simp only [List.getElem_zipIdx]
    exact across _ _ _ _ (by omega)

variable {total : Rat} {track : Track Rat} {layer : Layer Rat} {t l : Nat} {v : Violation}

def Keyframe.violation? (total : Rat) (t l k : Nat) (keyframe : Keyframe Rat) : Option Violation :=
  if keyframe.time < 0 ∨ total + 1 / 10 ^ 9 < keyframe.time then
    some (.strayKeyframe t l k keyframe)
  else none

def Layer.violations (total : Rat) (track : Track Rat) (t l : Nat) (layer : Layer Rat) :
    List Violation :=
  (if total + 1 / 10 ^ 9 < layer.start + layer.duration then [.lateLayer t l track layer]
    else []) ++
    layer.keyframes.zipIdx.flatMap fun (keyframe, k) => (keyframe.violation? total t l k).toList

def Track.violations (total : Rat) (t : Nat) (track : Track Rat) : List Violation :=
  track.layers.zipIdx.flatMap fun (layer, l) => layer.violations total track t l

def Timeline.violations (timeline : Timeline Rat) : List Violation :=
  (if timeline.assets = [] then [.noAssets] else []) ++
    ((if timeline.tracks = [] then [.noTracks] else []) ++
      timeline.tracks.zipIdx.flatMap fun (track, t) =>
        track.violations timeline.metadata.duration t)

/-! ### Messages -/

theorem timeSlack_eq : (timeSlack : Rat) = 1 / 10 ^ 9 := by
  norm_num [timeSlack]

theorem Keyframe.error?_eq (total : Rat) (t l k : Nat) (keyframe : Keyframe Rat) :
    keyframe.error? total t l k =
      (keyframe.violation? total t l k).map (Violation.message total) := by
  have zero : (0.0 : Rat) = 0 := by norm_num
  simp only [error?, violation?, timeSlack_eq, zero, Bool.or_eq_true, decide_eq_true_eq]
  split
  · rfl
  · rfl

theorem Layer.errors_eq (total : Rat) (track : Track Rat) (t l : Nat) (layer : Layer Rat) :
    layer.errors total track t l =
      (layer.violations total track t l).map (Violation.message total) := by
  have ending : (layer.endError? total track).toList =
      (if total + 1 / 10 ^ 9 < layer.start + layer.duration then
        [Violation.lateLayer t l track layer] else []).map (Violation.message total) := by
    simp only [endError?, timeSlack_eq, Layer.finish]
    split
    · rfl
    · rfl
  rw [errors, violations, List.map_append, ending, List.map_flatMap,
    List.filterMap_eq_flatMap_toList]
  simp only [Keyframe.error?_eq, Option.toList_map]

theorem Timeline.errors_eq (timeline : Timeline Rat) :
    timeline.errors =
      timeline.violations.map (Violation.message timeline.metadata.duration) := by
  rw [errors, violations, List.map_append, List.map_append, List.map_flatMap, List.append_assoc]
  congr 1
  · cases timeline.assets <;> rfl
  congr 1
  · cases timeline.tracks <;> rfl
  simp only [Track.errors, Track.violations, List.map_flatMap, Layer.errors_eq]

/-! ### Completeness -/

theorem Layer.mem_violations :
    v ∈ layer.violations total track t l ↔
      (total + 1 / 10 ^ 9 < layer.start + layer.duration ∧ v = .lateLayer t l track layer) ∨
        ∃ (k : Nat) (keyframe : Keyframe Rat), layer.keyframes[k]? = some keyframe ∧
          (keyframe.time < 0 ∨ total + 1 / 10 ^ 9 < keyframe.time) ∧
          v = .strayKeyframe t l k keyframe := by
  rw [violations, List.mem_append]
  apply or_congr
  · rw [List.mem_ite_nil_right, List.mem_singleton]
  · simp only [List.mem_flatMap, Prod.exists, List.mem_zipIdx_iff_getElem?,
      Keyframe.violation?, Option.mem_toList, Option.ite_none_right_eq_some, Option.some.injEq]
    constructor
    · rintro ⟨keyframe, k, found, stray, rfl⟩
      exact ⟨k, keyframe, found, stray, rfl⟩
    · rintro ⟨k, keyframe, found, stray, rfl⟩
      exact ⟨keyframe, k, found, stray, rfl⟩

theorem Timeline.mem_violations {timeline : Timeline Rat} :
    v ∈ timeline.violations ↔ timeline.Violates v := by
  simp only [violations, Track.violations, List.mem_append, List.mem_flatMap, Prod.exists,
    List.mem_zipIdx_iff_getElem?, Layer.mem_violations, List.mem_ite_nil_right, List.mem_singleton]
  constructor
  · rintro (⟨absent, rfl⟩ | ⟨absent, rfl⟩ | ⟨track, t, foundTrack, layer, l, foundLayer, wrong⟩)
    · exact .noAssets absent
    · exact .noTracks absent
    · rcases wrong with ⟨late, rfl⟩ | ⟨k, keyframe, found, stray, rfl⟩
      · exact .lateLayer foundTrack foundLayer late
      · exact .strayKeyframe foundTrack foundLayer found stray
  · rintro (absent | absent | ⟨foundTrack, foundLayer, late⟩ |
      ⟨foundTrack, foundLayer, found, stray⟩)
    · exact .inl ⟨absent, rfl⟩
    · exact .inr (.inl ⟨absent, rfl⟩)
    · exact .inr (.inr ⟨_, _, foundTrack, _, _, foundLayer, .inl ⟨late, rfl⟩⟩)
    · exact .inr (.inr ⟨_, _, foundTrack, _, _, foundLayer, .inr ⟨_, _, found, stray, rfl⟩⟩)

/-! ### Order -/

theorem Layer.place_of_mem (h : v ∈ layer.violations total track t l) :
    ∃ rest, v.place = 2 :: t :: l :: rest := by
  rcases Layer.mem_violations.mp h with ⟨-, rfl⟩ | ⟨k, keyframe, -, -, rfl⟩
  · exact ⟨[], rfl⟩
  · exact ⟨[k], rfl⟩

theorem Layer.violations_pairwise :
    (layer.violations total track t l).Pairwise fun v w => v.place < w.place := by
  rw [violations, List.pairwise_append]
  refine ⟨?_, ?_, ?_⟩
  · split <;> simp
  · apply pairwise_flatMap_zipIdx
    · intro keyframe k
      cases keyframe.violation? total t l k <;> simp
    · intro keyframe k keyframe' k' less v hv w hw
      simp only [Keyframe.violation?, Option.mem_toList, Option.ite_none_right_eq_some,
        Option.some.injEq] at hv hw
      rw [← hv.2, ← hw.2]
      simp [Violation.place, List.cons_lt_cons_iff, less]
  · intro v hv w hw
    simp only [List.mem_flatMap, Prod.exists, Keyframe.violation?, Option.mem_toList,
      Option.ite_none_right_eq_some, Option.some.injEq] at hw
    obtain ⟨keyframe, k, -, -, rfl⟩ := hw
    rw [List.mem_ite_nil_right, List.mem_singleton] at hv
    rw [hv.2]
    simp [Violation.place]

theorem Track.place_of_mem (h : v ∈ track.violations total t) :
    ∃ rest, v.place = 2 :: t :: rest := by
  simp only [violations, List.mem_flatMap, Prod.exists] at h
  obtain ⟨layer, l, -, member⟩ := h
  obtain ⟨rest, placed⟩ := Layer.place_of_mem member
  exact ⟨l :: rest, placed⟩

theorem Track.violations_pairwise :
    (track.violations total t).Pairwise fun v w => v.place < w.place := by
  apply pairwise_flatMap_zipIdx
  · intro layer l
    exact Layer.violations_pairwise
  · intro layer l layer' l' less v hv w hw
    obtain ⟨rest, placed⟩ := Layer.place_of_mem hv
    obtain ⟨rest', placed'⟩ := Layer.place_of_mem hw
    rw [placed, placed']
    simp [List.cons_lt_cons_iff, less]

theorem Timeline.violations_pairwise (timeline : Timeline Rat) :
    timeline.violations.Pairwise fun v w => v.place < w.place := by
  have tracks : (timeline.tracks.zipIdx.flatMap fun (track, t) =>
      track.violations timeline.metadata.duration t).Pairwise fun v w => v.place < w.place := by
    apply pairwise_flatMap_zipIdx
    · intro track t
      exact Track.violations_pairwise
    · intro track t track' t' less v hv w hw
      obtain ⟨rest, placed⟩ := Track.place_of_mem hv
      obtain ⟨rest', placed'⟩ := Track.place_of_mem hw
      rw [placed, placed']
      simp [List.cons_lt_cons_iff, less]
  have later (v : Violation) (hv : v ∈ timeline.tracks.zipIdx.flatMap fun (track, t) =>
      track.violations timeline.metadata.duration t) : ∃ rest, v.place = 2 :: rest := by
    simp only [List.mem_flatMap, Prod.exists] at hv
    obtain ⟨track, t, -, member⟩ := hv
    obtain ⟨rest, placed⟩ := Track.place_of_mem member
    exact ⟨t :: rest, placed⟩
  rw [violations, List.pairwise_append, List.pairwise_append]
  refine ⟨?_, ⟨?_, tracks, ?_⟩, ?_⟩
  · split <;> simp
  · split <;> simp
  · intro v hv w hw
    rw [List.mem_ite_nil_right, List.mem_singleton] at hv
    obtain ⟨rest, placed⟩ := later w hw
    rw [hv.2, placed]
    simp [Violation.place, List.cons_lt_cons_iff]
  · intro v hv w hw
    rw [List.mem_ite_nil_right, List.mem_singleton] at hv
    rw [hv.2]
    rcases List.mem_append.mp hw with hw | hw
    · rw [List.mem_ite_nil_right, List.mem_singleton] at hw
      rw [hw.2]
      simp [Violation.place, List.cons_lt_cons_iff]
    · obtain ⟨rest, placed⟩ := later w hw
      rw [placed]
      simp [Violation.place, List.cons_lt_cons_iff]

/-! ## Checking a timeline -/

theorem Timeline.isValid_iff (timeline : Timeline Rat) :
    timeline.validate.isValid = true ↔ timeline.validate.errors = [] := by
  simp [validate, ValidationResult.ofErrors]

theorem Timeline.isValid_iff_forall (timeline : Timeline Rat) :
    timeline.validate.isValid = true ↔ ∀ v, ¬ timeline.Violates v := by
  rw [isValid_iff]
  change timeline.errors = [] ↔ _
  rw [errors_eq, List.map_eq_nil_iff, List.eq_nil_iff_forall_not_mem]
  simp only [mem_violations]

/-- Nothing of a valid timeline is seen after its end. -/
theorem Timeline.isShown_eq_false {timeline : Timeline Rat} {time : Rat}
    (valid : ∀ v, ¬ timeline.Violates v) (beyond : timeline.limit < time)
    {painted : Track Rat × Layer Rat} (member : painted ∈ timeline.paintedLayers) :
    isShown time painted = false := by
  obtain ⟨track, layer⟩ := painted
  obtain ⟨hasTrack, hasLayer⟩ := mem_paintedLayers.mp member
  obtain ⟨t, foundTrack⟩ := List.mem_iff_getElem?.mp hasTrack
  obtain ⟨l, foundLayer⟩ := List.mem_iff_getElem?.mp hasLayer
  have ended : ¬ timeline.limit < layer.start + layer.duration := fun late =>
    valid _ (.lateLayer foundTrack foundLayer late)
  have late : ¬ time ≤ layer.start + layer.duration := by linarith
  simp [isShown, spans, late]

theorem Timeline.exists_sample_beyond [QuarterTurn Rat] {timeline : Timeline Rat} {time : Rat}
    (valid : ∀ v, ¬ timeline.Violates v) (beyond : timeline.limit < time) (id : String) :
    ∃ composition sample, Composition.ofTimeline id timeline = .ok composition ∧
      composition.sample time = .ok sample ∧ sample.layers = [] := by
  obtain ⟨composition, composed⟩ : ∃ composition : Composition Rat,
      Composition.ofTimeline id timeline = .ok composition := ⟨_, rfl⟩
  obtain ⟨sample, sampled⟩ := composition.exists_sample time
  refine ⟨composition, sample, composed, sampled, ?_⟩
  have nothing : composition.shownLayers time = [] := by
    rw [(reads_of_ofTimeline composed).shownLayers_eq, List.map_eq_nil_iff,
      List.filter_eq_nil_iff]
    intro painted member
    simp [isShown_eq_false valid beyond member]
  have seen := (Composition.time_of_sample sampled).2.2
  rw [nothing, List.map_nil, List.map_eq_nil_iff] at seen
  exact seen

/-- Checking reports the violations of a timeline, each once and in the order of their places, and
accepts the timeline when there are none; what is composed from it then shows no layer after its
end. -/
theorem validate_isExact [QuarterTurn Rat] (timeline : Timeline Rat) :
    (∃ violations : List Violation,
      timeline.validate.errors =
        violations.map (Violation.message timeline.metadata.duration) ∧
      (violations.Pairwise fun v w => v.place < w.place) ∧
      ∀ v, v ∈ violations ↔ timeline.Violates v) ∧
    (timeline.validate.isValid = true ↔ timeline.validate.errors = []) ∧
    (timeline.validate.isValid = true ↔ ∀ v, ¬ timeline.Violates v) ∧
    (timeline.validate.isValid = true → ∀ (id : String) (time : Rat), timeline.limit < time →
      ∃ composition sample, Composition.ofTimeline id timeline = .ok composition ∧
        composition.sample time = .ok sample ∧ sample.layers = []) := by
  refine ⟨⟨timeline.violations, timeline.errors_eq, timeline.violations_pairwise, ?_⟩,
    timeline.isValid_iff, timeline.isValid_iff_forall, ?_⟩
  · intro v
    exact Timeline.mem_violations
  · intro valid id time beyond
    exact Timeline.exists_sample_beyond (timeline.isValid_iff_forall.mp valid) beyond id

def slackTimeline : Timeline Rat where
  metadata := ⟨"Slack", "2024-01-01T00:00:00Z", 1, 30, 640, 360, none⟩
  assets := [⟨"image", .image, "lake.jpg", none⟩]
  tracks := [⟨"track", "track", 0, .video, [
    { id := "layer", name := "layer", kind := .image, assetId := some "image", trackIndex := 0,
      start := 1 / 2, duration := 1 / 2 + 1 / 10 ^ 9,
      keyframes := [⟨1 + 1 / 10 ^ 9, KeyframeProperties.none, none⟩], effects := [],
      blendMode := none, visible := true }], false, true⟩]
  camera := Camera.still
  globalEffects := []

theorem slackTimeline_isExact :
    slackTimeline.validate.isValid = true ∧ slackTimeline.limit < 1 + 2 / 10 ^ 9 ∧
      ∃ composition sample, Composition.ofTimeline "slack" slackTimeline = .ok composition ∧
        @Composition.sample Rat _ chord composition (1 + 2 / 10 ^ 9) = .ok sample ∧
        sample.layers = [] := by
  have valid : slackTimeline.validate.isValid = true := by decide +kernel
  have beyond : slackTimeline.limit < 1 + 2 / 10 ^ 9 := by
    norm_num [Timeline.limit, slackTimeline]
  exact ⟨valid, beyond, (@validate_isExact chord slackTimeline).2.2.2 valid "slack" _ beyond⟩

end StillMotion
