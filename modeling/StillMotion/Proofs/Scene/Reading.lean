import Mathlib.Data.List.Forall2
import StillMotion.Proofs.Data.Ordering
import StillMotion.Scene.Identity

/-!
# Frames read off a timeline

What is seen at a time can be read off a timeline without composing it: walk the layers in the
order in which they are painted and keep those that are visible and active.  A composition puts
tracks and keyframes in order, and sampling puts them in order again; its samples are the frames
that are read off the timeline, and its layers are those of the timeline.
-/

namespace StillMotion

open StillMotion.Number

variable {α : Type} [Scalar α]

/-! ## Reading frames -/

/-- What is seen of a layer, by its keyframes in the order in which they are given. -/
def Layer.sample (layer : Layer α) (trackId : String) (t : α) :
    Except ArithmeticFault (LayerSample α) := do
  let style ← keyframeStyle layer.keyframes t
  let effects ← Effect.styles layer.effects t
  .ok ⟨layer.id, trackId, style, effects⟩

namespace Timeline

def isShown (t : α) (painted : Track α × Layer α) : Bool :=
  painted.1.visible && painted.2.visible && spans painted.2.start painted.2.duration t

def frame [QuarterTurn α] (timeline : Timeline α) (t : α) :
    Except ArithmeticFault (FrameSample α) := do
  let layers ← (timeline.paintedLayers.filter (isShown t)).mapM fun (track, layer) =>
    layer.sample track.id t
  let globalEffects ← Effect.styles timeline.globalEffects t
  let fps ← Scalar.ofInt? timeline.metadata.fps
  let frame ← Scalar.round? (t * fps)
  let camera ← timeline.camera.at t
  .ok ⟨frame, t, camera, layers, globalEffects⟩

end Timeline

/-! ## What a composition keeps -/

structure CompositionTrack.Shows (track : Track α) (shown : CompositionTrack α) : Prop where
  id : shown.id = track.id
  name : shown.name = track.name
  index : shown.index = track.index
  kind : shown.kind = track.kind.word
  visible : shown.visible = track.visible

/-- A layer of a composition shows one of the timeline: it has the source of the first asset
that the layer refers to, and the keyframes of the layer in order of time, those of one time in
the order in which they are given. -/
structure CompositionLayer.Shows (timeline : Timeline α) (layer : Layer α)
    (shown : CompositionLayer α) : Prop where
  id : shown.id = layer.id
  name : shown.name = layer.name
  kind : shown.kind = layer.kind.word
  start : shown.start = layer.start
  duration : shown.duration = layer.duration
  effects : shown.effects = layer.effects
  blendMode : shown.blendMode = (layer.blendMode.getD .normal).word
  visible : shown.visible = layer.visible
  source : ∀ source, shown.assetSource = some source ↔
    ∃ before asset after, timeline.assets = before ++ asset :: after ∧
      layer.assetId = some asset.id ∧ asset.id ≠ "" ∧ asset.source = source ∧
      ∀ other ∈ before, other.id ≠ asset.id
  complete : shown.keyframes.Perm layer.keyframes
  ordered : shown.keyframes.Pairwise fun a b => a.time ≤ b.time
  stable : ∀ a b : Keyframe α, a.time ≤ b.time → [a, b].Sublist layer.keyframes →
    [a, b].Sublist shown.keyframes

section Keyframes

variable [OrderedScalar α] {keyframes : List (Keyframe α)}

theorem sortByTime_pairwise (comparable : ∀ k ∈ keyframes, k.time ≤ k.time) :
    (sortByTime keyframes).Pairwise fun a b => a.time ≤ b.time := by
  have members (k : Keyframe α) (hk : k ∈ sortByTime keyframes) : k.time ≤ k.time :=
    comparable k ((Ordering.byKey_perm comparable).mem_iff.mp hk)
  refine (Ordering.byKey_pairwise comparable).imp_of_mem fun {a b} ha hb hab => ?_
  rw [OrderedScalar.le_iff_rank (members a ha) (members b hb)]
  simpa [Ordering.mayPrecede] using hab

end Keyframes

/-! ## Layers -/

section Layers

variable [OrderedScalar α] {timeline : Timeline α} {layer : Layer α}

end Layers

/-! ## Tracks -/

/-- Tracks that are painted in their order stay in it when they are composed and sampled. -/
theorem mergeSort_ofTrack (timeline : Timeline α) :
    ((timeline.paintOrder.map (CompositionTrack.ofTrack timeline)).mergeSort fun a b =>
      decide (a.index ≤ b.index)) =
      timeline.paintOrder.map (CompositionTrack.ofTrack timeline) := by
  apply List.mergeSort_of_pairwise
  rw [List.pairwise_map]
  have transitive (a b c : Track α) (hab : decide (a.index ≤ b.index) = true)
      (hbc : decide (b.index ≤ c.index) = true) : decide (a.index ≤ c.index) = true := by
    simp only [decide_eq_true_eq] at hab hbc ⊢
    exact hab.trans hbc
  have total (a b : Track α) :
      (decide (a.index ≤ b.index) || decide (b.index ≤ a.index)) = true := by
    simpa using le_total a.index b.index
  exact List.pairwise_mergeSort transitive total timeline.tracks

theorem mem_paintedLayers {β : Type} {timeline : Timeline β} {track : Track β}
    {layer : Layer β} :
    (track, layer) ∈ timeline.paintedLayers ↔
      track ∈ timeline.tracks ∧ layer ∈ track.layers := by
  simp [Timeline.paintedLayers, Timeline.paintOrder]

theorem filter_isShown (t : α) (tracks : List (Track α)) :
    (tracks.flatMap fun track => track.layers.map fun layer => (track, layer)).filter
        (Timeline.isShown t) =
      (tracks.filter (·.visible)).flatMap fun track =>
        (track.layers.filter fun layer =>
          layer.visible && spans layer.start layer.duration t).map fun layer =>
            (track, layer) := by
  induction tracks with
  | nil => rfl
  | cons track tracks ih =>
      rw [List.flatMap_cons, List.filter_append, ih]
      cases hvisible : track.visible <;>
        simp [hvisible, List.filter_map, Timeline.isShown, Function.comp_def]

/-! ## Compositions -/

/-- What composing keeps of a timeline besides its length. -/
structure Composition.Reads (timeline : Timeline α) (composition : Composition α) : Prop where
  tracks : composition.tracks = timeline.paintOrder.map (.ofTrack timeline)
  camera : composition.camera = timeline.camera
  globalEffects : composition.globalEffects = timeline.globalEffects
  fps : composition.metadata.fps = timeline.metadata.fps

theorem reads_of_ofTimeline {id : String} {timeline : Timeline α} {composition : Composition α}
    (h : Composition.ofTimeline id timeline = .ok composition) : composition.Reads timeline := by
  cases hframes : timeline.metadata.frames with
  | error fault => simp [Composition.ofTimeline, hframes, bind, Except.bind] at h
  | ok frames =>
      simp only [Composition.ofTimeline, hframes, bind, Except.bind, Except.ok.injEq] at h
      subst h
      exact ⟨rfl, rfl, rfl, rfl⟩

namespace Composition.Reads

variable {timeline : Timeline α} {composition : Composition α}

theorem shownLayers_eq (h : composition.Reads timeline) (t : α) :
    composition.shownLayers t = (timeline.paintedLayers.filter (Timeline.isShown t)).map
      fun painted => (painted.1.id, .ofLayer timeline painted.2) := by
  -- A composition asks tracks and layers apart, a timeline asks both of each pair.
  rw [Composition.shownLayers, Composition.paintOrder, h.tracks, mergeSort_ofTrack,
    Timeline.paintedLayers, filter_isShown]
  simp [List.filter_map, List.flatMap_map, List.map_flatMap, CompositionTrack.ofTrack,
    CompositionLayer.ofLayer, CompositionLayer.isActive, Function.comp_def]

variable [OrderedScalar α]

end Composition.Reads

/-! ## Composing and sampling -/

theorem compose_eq_ok_iff {timeline : Timeline Float} {composition : Composition Float} :
    timeline.compose = .ok composition ↔
      (Timeline.codec.encode timeline).isWithin digitLimit = true ∧
        Composition.ofTimeline timeline.contentId timeline = .ok composition := by
  cases hwithin : (Timeline.codec.encode timeline).isWithin digitLimit <;>
    simp [Timeline.compose, Json.requireText, hwithin, bind, Except.bind]

end StillMotion
