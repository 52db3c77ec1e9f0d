import Mathlib.Tactic.Linarith
import Mathlib.Tactic.NormNum.OfScientific
import StillMotion.Timeline.Validation

/-!
# Timelines within their clips

What it means that everything in a timeline happens while its clip lasts.  Nothing is wrong with
such a timeline once it has an asset and a track.
-/

namespace StillMotion

open StillMotion.Number

structure LiesWithin (total start duration : Rat) : Prop where
  start_nonneg : 0 ≤ start
  duration_nonneg : 0 ≤ duration
  finish_le : start + duration ≤ total

structure Layer.IsContained (total : Rat) (layer : Layer Rat) : Prop where
  span : LiesWithin total layer.start layer.duration
  effects : ∀ effect ∈ layer.effects, LiesWithin total effect.start effect.duration
  keyframes : ∀ keyframe ∈ layer.keyframes, 0 ≤ keyframe.time ∧ keyframe.time ≤ total
  ordered : layer.keyframes.Pairwise fun a b => a.time ≤ b.time

namespace Timeline

/-- Everything in a timeline happens while the clip lasts, and what is shown is there. -/
structure IsContained (timeline : Timeline Rat) : Prop where
  duration_pos : 0 < timeline.metadata.duration
  layers : ∀ track ∈ timeline.tracks, ∀ layer ∈ track.layers,
    layer.IsContained timeline.metadata.duration
  globalEffects : ∀ effect ∈ timeline.globalEffects,
    LiesWithin timeline.metadata.duration effect.start effect.duration
  assets : ∀ track ∈ timeline.tracks, ∀ layer ∈ track.layers, ∀ id, layer.assetId = some id →
    ∃ asset, timeline.asset? id = some asset

def fades {α : Type} (timeline : Timeline α) : List (Effect α) :=
  timeline.tracks.flatMap fun track =>
    track.layers.flatMap fun layer => layer.effects.filter (·.kind == .fade)

end Timeline

/-! ## Checking -/

theorem timeSlack_pos : (0 : Rat) < timeSlack := by
  norm_num [timeSlack]

variable {total : Rat}

theorem Keyframe.error?_eq_none {keyframe : Keyframe Rat} (early : 0 ≤ keyframe.time)
    (late : keyframe.time ≤ total) (track layer place : Nat) :
    keyframe.error? total track layer place = none := by
  have slack := timeSlack_pos
  have started : ¬ keyframe.time < 0.0 := by norm_num; exact early
  have unfinished : ¬ total + timeSlack < keyframe.time := by linarith
  simp [Keyframe.error?, started, unfinished]

theorem Layer.errors_eq_nil {layer : Layer Rat} (contained : layer.IsContained total)
    (track : Track Rat) (trackPlace place : Nat) :
    layer.errors total track trackPlace place = [] := by
  have slack := timeSlack_pos
  have unfinished : ¬ total + timeSlack < layer.finish := by
    have finish : layer.finish ≤ total := contained.span.finish_le
    linarith
  simp only [Layer.errors, Layer.endError?, if_neg unfinished, Option.toList_none,
    List.nil_append, List.filterMap_eq_nil_iff, Prod.forall]
  intro keyframe k member
  obtain ⟨early, late⟩ := contained.keyframes keyframe (List.fst_mem_of_mem_zipIdx member)
  exact Keyframe.error?_eq_none early late trackPlace place k

theorem Timeline.IsContained.validate_eq {timeline : Timeline Rat}
    (contained : timeline.IsContained) (assets : timeline.assets ≠ [])
    (tracks : timeline.tracks ≠ []) : timeline.validate = ⟨true, []⟩ := by
  have none : timeline.errors = [] := by
    simp only [Timeline.errors, List.isEmpty_iff, assets, tracks, if_false, List.nil_append,
      Track.errors, List.flatMap_eq_nil_iff, Prod.forall]
    intro track t trackMember layer l layerMember
    exact Layer.errors_eq_nil (contained.layers track (List.fst_mem_of_mem_zipIdx trackMember)
      layer (List.fst_mem_of_mem_zipIdx layerMember)) track t l
  rw [Timeline.validate, none]
  rfl

end StillMotion
