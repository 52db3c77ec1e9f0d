import StillMotion.Proofs.Direction.Extent
import StillMotion.Proofs.Number.Rounding
import StillMotion.Proofs.Scene.Reading

/-!
# Baked clips

Computed exactly, a composition can be sampled at any time, and baking it covers the clip: the
samples are those of the frames from the first to the last, each at its time, and there are as
many as fit the length of the clip best.
-/

namespace StillMotion

open StillMotion.Number

/-! ## Samples at any time -/

section Sampling

variable (t : Rat)

theorem exists_apply (easing : Easing) : ∃ eased, easing.apply t = .ok eased := by
  cases easing <;> exact ⟨_, rfl⟩

theorem exists_keyframeStyle (keyframes : List (Keyframe Rat)) :
    ∃ style, keyframeStyle keyframes t = .ok style := by
  unfold keyframeStyle
  split
  next => exact ⟨_, rfl⟩
  next => exact ⟨_, rfl⟩
  next current upcoming _ =>
      obtain ⟨eased, applied⟩ := exists_apply
        ((t - current.time) / (upcoming.time - current.time)) (current.easing.getD .linear)
      dsimp only
      rw [applied]
      exact ⟨_, rfl⟩

theorem Effect.exists_number? (effect : Effect Rat) (name : String) :
    ∃ number, effect.number? name = .ok number := by
  unfold number?
  split <;> exact ⟨_, rfl⟩

theorem Effect.exists_number (effect : Effect Rat) (name : String) (standard : Rat) :
    ∃ number, effect.number name standard = .ok number := by
  obtain ⟨given, read⟩ := effect.exists_number? name
  exact ⟨_, by rw [number, read]; rfl⟩

theorem Effect.exists_activeStyle (effect : Effect Rat) :
    ∃ style, effect.activeStyle t = .ok style := by
  unfold activeStyle
  dsimp only
  split
  case h_1 => exact ⟨_, rfl⟩
  case h_2 =>
      obtain ⟨blur, read⟩ := effect.exists_number "intensity" 5.0
      exact ⟨_, by rw [read]; rfl⟩
  case h_3 =>
      obtain ⟨opacity, read⟩ := effect.exists_number? "opacity"
      exact ⟨_, by rw [read]; rfl⟩
  case h_4 =>
      obtain ⟨temperature, warm⟩ := effect.exists_number "temperature" 0.0
      obtain ⟨saturation, vivid⟩ := effect.exists_number "saturation" 0.0
      obtain ⟨contrast, sharp⟩ := effect.exists_number "contrast" 0.0
      exact ⟨_, by rw [warm, vivid, sharp]; rfl⟩
  case h_5 =>
      obtain ⟨intensity, strong⟩ := effect.exists_number "intensity" 0.1
      obtain ⟨opacity, read⟩ := effect.exists_number "opacity" 0.3
      exact ⟨_, by rw [strong, read]; rfl⟩
  case h_6 => exact ⟨_, rfl⟩

theorem Effect.exists_styles (effects : List (Effect Rat)) :
    ∃ styles, Effect.styles effects t = .ok styles := by
  have each (effect : Effect Rat) (_ : effect ∈ effects) :
      ∃ style, effect.style? t = .ok style := by
    unfold style?
    split
    · obtain ⟨style, open_⟩ := effect.exists_activeStyle t
      exact ⟨some style, by rw [open_]; rfl⟩
    · exact ⟨none, rfl⟩
  obtain ⟨styles, all⟩ := Except.exists_mapM_eq_ok each
  exact ⟨_, by rw [Effect.styles, all]; rfl⟩

theorem CompositionLayer.exists_sample (layer : CompositionLayer Rat) (trackId : String) :
    ∃ sample, layer.sample trackId t = .ok sample := by
  obtain ⟨style, looks⟩ := exists_keyframeStyle t layer.keyframes
  obtain ⟨effects, contribute⟩ := Effect.exists_styles t layer.effects
  exact ⟨_, by rw [CompositionLayer.sample, looks, contribute]; rfl⟩

variable [QuarterTurn Rat]

theorem CameraMovement.exists_offset (movement : CameraMovement Rat) :
    ∃ offset, movement.offset t = .ok offset := by
  have moved : ∃ p, movement.progress t = .ok p := by
    unfold progress
    split
    · exact ⟨_, rfl⟩
    · split
      · exact ⟨_, rfl⟩
      · exact exists_apply _ _
  obtain ⟨p, progressed⟩ := moved
  unfold offset
  rw [progressed]
  cases movement.kind <;> exact ⟨_, rfl⟩

theorem Camera.exists_at (camera : Camera Rat) : ∃ state, camera.at t = .ok state := by
  have moved (movements : List (CameraMovement Rat)) (position : Vec3 Rat) :
      ∃ last, movements.foldlM (fun position movement =>
        (movement.offset t).map position.add) position = .ok last := by
    induction movements generalizing position with
    | nil => exact ⟨position, rfl⟩
    | cons movement movements ih =>
        obtain ⟨offset, there⟩ := movement.exists_offset t
        rw [List.foldlM_cons, there]
        exact ih _
  obtain ⟨last, there⟩ := moved camera.movements camera.position
  exact ⟨_, by rw [Camera.at, there]; rfl⟩

theorem Composition.exists_sample (composition : Composition Rat) :
    ∃ sample, composition.sample t = .ok sample := by
  have each (shown : String × CompositionLayer Rat) (_ : shown ∈ composition.shownLayers t) :
      ∃ sample, (fun (trackId, layer) => layer.sample trackId t) shown = .ok sample :=
    shown.2.exists_sample t shown.1
  obtain ⟨layers, seen⟩ := Except.exists_mapM_eq_ok each
  obtain ⟨effects, contribute⟩ := Effect.exists_styles t composition.globalEffects
  obtain ⟨state, looks⟩ := composition.camera.exists_at t
  exact ⟨_, by rw [Composition.sample, seen, contribute, looks]; rfl⟩

end Sampling

/-! ## Frames and their times -/

/-- Samples cover a clip: one for each of its frames, at the time of the frame, and as many as
fit its length best. -/
structure TimelineMetadata.IsCoveredBy (metadata : TimelineMetadata Rat) (frames : Int)
    (samples : List (FrameSample Rat)) : Prop where
  frames_pos : 1 ≤ frames
  length : (samples.length : Int) = frames
  frame : ∀ i (h : i < samples.length), samples[i].frame = i
  time : ∀ i (h : i < samples.length), samples[i].time = i / metadata.fps
  within : ∀ sample ∈ samples, 0 ≤ sample.time ∧ sample.time ≤ metadata.duration
  near : 1 / 2 ≤ metadata.duration * metadata.fps →
    |(frames : Rat) / metadata.fps - metadata.duration| ≤ 1 / (2 * metadata.fps)
  nearest : ∃ m : Int, frames = max m 1 ∧ |(m : Rat) - metadata.duration * metadata.fps| ≤ 1 / 2 ∧
    (|(m : Rat) - metadata.duration * metadata.fps| = 1 / 2 → Even m)

section Frames

variable {metadata : TimelineMetadata Rat} {m : Int}

theorem near_of_nearest (runs : (1 : Rat) ≤ metadata.fps)
    (near : |(m : Rat) - metadata.duration * metadata.fps| ≤ 1 / 2)
    (lasts : 1 / 2 ≤ metadata.duration * metadata.fps) :
    |((max m 1 : Int) : Rat) / metadata.fps - metadata.duration| ≤ 1 / (2 * metadata.fps) := by
  have scale : (0 : Rat) < metadata.fps := by linarith
  have close : |((max m 1 : Int) : Rat) - metadata.duration * metadata.fps| ≤ 1 / 2 := by
    rcases le_total m 1 with less | more
    · rw [max_eq_right less]
      have bound : (m : Rat) ≤ 1 := by exact_mod_cast less
      rw [abs_le] at near ⊢
      constructor <;> push_cast <;> linarith
    · rwa [max_eq_left more]
  have difference : ((max m 1 : Int) : Rat) / metadata.fps - metadata.duration =
      (((max m 1 : Int) : Rat) - metadata.duration * metadata.fps) / metadata.fps := by
    field_simp
  rw [difference, abs_div, abs_of_pos scale, div_le_iff₀ scale]
  calc |((max m 1 : Int) : Rat) - metadata.duration * metadata.fps| ≤ 1 / 2 := close
    _ = 1 / (2 * (metadata.fps : Rat)) * metadata.fps := by field_simp

/-- The time of a frame is within the clip: even the last frame starts before it ends. -/
theorem time_within (runs : (1 : Rat) ≤ metadata.fps) (lasts : 0 ≤ metadata.duration)
    (near : |(m : Rat) - metadata.duration * metadata.fps| ≤ 1 / 2) {i : Nat}
    (counted : (i : Int) < max m 1) :
    0 ≤ (i : Rat) / metadata.fps ∧ (i : Rat) / metadata.fps ≤ metadata.duration := by
  have scale : (0 : Rat) < metadata.fps := by linarith
  refine ⟨by positivity, ?_⟩
  rw [div_le_iff₀ scale]
  rcases lt_max_iff.mp counted with before | first
  · have bound : (i : Rat) + 1 ≤ m := by exact_mod_cast before
    rw [abs_le] at near
    linarith
  · have zero : i = 0 := by omega
    rw [zero, Nat.cast_zero]
    positivity

end Frames

namespace Composition

variable {composition : Composition Rat} {t : Rat}

theorem timeOf_eq (runs : composition.metadata.fps ≠ 0) (frame : Nat) :
    composition.timeOf frame = .ok (frame / composition.metadata.fps) := by
  have divided : composition.timeOf frame =
      .ok (((frame : Int) : Rat) / (composition.metadata.fps : Rat)) := by
    change Exact.quotient? _ _ = _
    simp [Exact.quotient?, runs]
  rw [divided, Int.cast_natCast]

variable [QuarterTurn Rat]

theorem time_of_sample {sample : FrameSample Rat} (h : composition.sample t = .ok sample) :
    sample.time = t ∧ sample.frame = Exact.round (t * composition.metadata.fps) ∧
      sample.layers.map (·.layerId) = (composition.shownLayers t).map (·.2.id) := by
  obtain ⟨layers, seen, h⟩ := Except.bind_eq_ok.mp h
  obtain ⟨effects, -, h⟩ := Except.bind_eq_ok.mp h
  obtain ⟨frame, counted, h⟩ := Except.bind_eq_ok.mp h
  obtain ⟨state, -, h⟩ := Except.bind_eq_ok.mp h
  cases h
  cases counted
  refine ⟨rfl, rfl, ?_⟩
  have named : List.Forall₂ Eq ((composition.shownLayers t).map (·.2.id))
      (layers.map (·.layerId)) := by
    rw [List.forall₂_map_left_iff, List.forall₂_map_right_iff]
    refine (Except.mapM_eq_ok_iff.mp seen).imp fun shown sample sampled => ?_
    obtain ⟨style, -, sampled⟩ := Except.bind_eq_ok.mp sampled
    obtain ⟨effects, -, sampled⟩ := Except.bind_eq_ok.mp sampled
    cases sampled
    rfl
  rw [List.forall₂_eq_eq_eq] at named
  exact named.symm

theorem exists_bake (runs : composition.metadata.fps ≠ 0) :
    ∃ samples, composition.bake = .ok samples ∧
      samples.length = composition.metadata.durationInFrames.toNat ∧
      ∀ i (h : i < samples.length),
        composition.sample (i / composition.metadata.fps) = .ok samples[i] := by
  have each (frame : Nat)
      (_ : frame ∈ List.range composition.metadata.durationInFrames.toNat) : ∃ sample,
      (do let t ← composition.timeOf frame
          composition.sample t) = .ok sample := by
    rw [timeOf_eq runs]
    exact composition.exists_sample _
  obtain ⟨samples, baked⟩ := Except.exists_mapM_eq_ok each
  obtain ⟨same, taken⟩ := List.forall₂_iff_get.mp (Except.mapM_eq_ok_iff.mp baked)
  rw [List.length_range] at same
  refine ⟨samples, baked, same.symm, fun i h => ?_⟩
  have sampled := taken i (by rw [List.length_range]; omega) h
  rw [List.get_eq_getElem, List.getElem_range, timeOf_eq runs] at sampled
  exact sampled

end Composition

/-! ## Covering a clip -/

section Covering

variable [QuarterTurn Rat] {timeline : Timeline Rat}

theorem exists_bake_covers (id : String) (runs : 1 ≤ timeline.metadata.fps)
    (lasts : 0 ≤ timeline.metadata.duration) :
    ∃ composition samples, Composition.ofTimeline id timeline = .ok composition ∧
      composition.bake = .ok samples ∧
      timeline.metadata.IsCoveredBy composition.metadata.durationInFrames samples ∧
      ∀ sample ∈ samples, composition.sample sample.time = .ok sample := by
  obtain ⟨composition, composed⟩ : ∃ composition : Composition Rat,
      Composition.ofTimeline id timeline = .ok composition := ⟨_, rfl⟩
  have frames : composition.metadata.durationInFrames =
      max (Exact.round (timeline.metadata.duration * timeline.metadata.fps)) 1 := by
    cases composed
    rfl
  have speed : composition.metadata.fps = timeline.metadata.fps :=
    (reads_of_ofTimeline composed).fps
  obtain ⟨near, tie⟩ :=
    Exact.round_spec (timeline.metadata.duration * (timeline.metadata.fps : Rat))
  have moves : composition.metadata.fps ≠ 0 := by omega
  obtain ⟨samples, baked, counted, taken⟩ := Composition.exists_bake moves
  generalize Exact.round (timeline.metadata.duration * timeline.metadata.fps) = m at *
  have runs' : (1 : Rat) ≤ timeline.metadata.fps := by exact_mod_cast runs
  have length : (samples.length : Int) = max m 1 := by
    rw [counted, frames]
    omega
  have times (i : Nat) (h : i < samples.length) :
      samples[i].time = i / timeline.metadata.fps := by
    rw [← speed]
    exact (Composition.time_of_sample (taken i h)).1
  refine ⟨composition, samples, composed, baked, ?_, ?_⟩
  · rw [frames]
    refine ⟨le_max_right _ _, length, ?_, times, ?_, near_of_nearest runs' near,
      m, rfl, near, tie⟩
    · intro i h
      have nonzero : (composition.metadata.fps : Rat) ≠ 0 := by
        rw [speed]
        linarith
      rw [(Composition.time_of_sample (taken i h)).2.1, div_mul_cancel₀ _ nonzero,
        ← Int.cast_natCast, Exact.round_intCast]
    · intro sample member
      obtain ⟨i, h, rfl⟩ := List.getElem_of_mem member
      rw [times i h]
      exact time_within runs' lasts near (by omega)
  · intro sample member
    obtain ⟨i, h, rfl⟩ := List.getElem_of_mem member
    rw [times i h, ← speed]
    exact taken i h

def Director.layerIds (schema : VisualSchema) : List String :=
  "main-image-layer" ::
    if schema.elements.secondary = [] then [] else ["secondary-elements-layer"]

theorem Director.layerIds_of_sample {schema : VisualSchema} {direction : CreativeDirection}
    {length : Quantity Rat} {reference createdAt : Option String} {policy : DirectorPolicy Rat}
    {composition : Composition Rat} {t : Rat} {sample : FrameSample Rat}
    (reads : composition.Reads (timelineOf schema direction length reference createdAt policy))
    (begun : 0 ≤ t) (lasting : t ≤ length.value) (h : composition.sample t = .ok sample) :
    sample.layers.map (·.layerId) = layerIds schema := by
  have lasts : spans 0.0 length.value t = true := by
    norm_num [spans]
    exact ⟨begun, lasting⟩
  rw [(Composition.time_of_sample h).2.2, reads.shownLayers_eq]
  cases hidden : schema.elements.secondary <;>
    simp [Timeline.paintedLayers, Timeline.paintOrder, timelineOf, track, hidden, mainLayer,
      secondaryLayer, Timeline.isShown, lasts, layerIds, CompositionLayer.ofLayer]

end Covering

/-- Baking the composition of a timeline that shows frames at all covers the clip.  Timelines
that are synthesized by settings that a configuration may hold are such, and every one of their
frames shows the main layer first, then the layer of the secondary elements if there are any,
and nothing else. -/
theorem bake_covers [QuarterTurn Rat] (id : String) :
    (∀ timeline : Timeline Rat, 1 ≤ timeline.metadata.fps → 0 ≤ timeline.metadata.duration →
      ∃ composition samples, Composition.ofTimeline id timeline = .ok composition ∧
        composition.bake = .ok samples ∧
        timeline.metadata.IsCoveredBy composition.metadata.durationInFrames samples ∧
        ∀ sample ∈ samples, composition.sample sample.time = .ok sample) ∧
    ∀ settings : DirectorSettings Rat, settings.IsAccepted →
      ∀ (schema : VisualSchema) (prompt : String) (reference createdAt : Option String)
        (motion : MotionIR Rat),
      Director.direct schema prompt reference createdAt (.ofSettings settings) = .ok motion →
      1 ≤ motion.timeline.metadata.fps ∧ 0 < motion.timeline.metadata.duration ∧
        ∀ composition samples, Composition.ofTimeline id motion.timeline = .ok composition →
          composition.bake = .ok samples →
          ∀ sample ∈ samples, sample.layers.map (·.layerId) = Director.layerIds schema := by
  refine ⟨fun timeline => exists_bake_covers id, ?_⟩
  intro settings accepted schema prompt reference createdAt motion made
  obtain ⟨length, measured, same⟩ := Director.direct_eq_ok_iff.mp made
  have runs : 1 ≤ motion.timeline.metadata.fps := by
    rw [same]
    exact accepted.fps
  have lasts : 0 < motion.timeline.metadata.duration := by
    rw [same]
    exact Director.lengthOf_pos accepted measured
  refine ⟨runs, lasts, ?_⟩
  intro composition samples composed baked sample member
  obtain ⟨composition', samples', composed', baked', covers, sampled⟩ :=
    exists_bake_covers id runs lasts.le
  obtain rfl : composition' = composition := Except.ok.inj (composed'.symm.trans composed)
  obtain rfl : samples' = samples := Except.ok.inj (baked'.symm.trans baked)
  obtain ⟨begun, lasting⟩ := covers.within sample member
  subst same
  exact Director.layerIds_of_sample (reads_of_ofTimeline composed) begun lasting
    (sampled sample member)

@[reducible]
def chord : QuarterTurn Rat := ⟨fun p => p, fun p => 1 - p⟩

theorem lakeSchema_bake_covers :
    Director.slowSettings.IsAccepted ∧ ∃ motion : MotionIR Rat,
      Director.direct Director.lakeSchema "a 3 second zoom" none none
        (.ofSettings Director.slowSettings) = .ok motion ∧
      1 ≤ motion.timeline.metadata.fps ∧ 0 ≤ motion.timeline.metadata.duration ∧
      ∃ composition samples, Composition.ofTimeline "lake" motion.timeline = .ok composition ∧
        @Composition.bake Rat _ chord composition = .ok samples ∧
        motion.timeline.metadata.IsCoveredBy composition.metadata.durationInFrames samples ∧
        ∀ sample ∈ samples, sample.layers.map (·.layerId) =
          ["main-image-layer", "secondary-elements-layer"] := by
  have measured : Director.lengthOf "a 3 second zoom" (.ofSettings Director.slowSettings) =
      .ok ⟨3, some 3⟩ := by
    rfl
  obtain ⟨motion, made⟩ : ∃ motion : MotionIR Rat, Director.direct Director.lakeSchema
      "a 3 second zoom" none none (.ofSettings Director.slowSettings) = .ok motion :=
    ⟨_, Director.direct_eq_ok_iff.mpr ⟨_, measured, rfl⟩⟩
  obtain ⟨baking, directed⟩ := @bake_covers chord "lake"
  obtain ⟨runs, lasts, layers⟩ := directed _ Director.slowSettings_isAccepted _ _ _ _ _ made
  obtain ⟨composition, samples, composed, baked, covers, -⟩ := baking _ runs lasts.le
  exact ⟨Director.slowSettings_isAccepted, motion, made, runs, lasts.le, composition, samples,
    composed, baked, covers, layers _ _ composed baked⟩

end StillMotion
