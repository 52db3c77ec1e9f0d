import StillMotion.Proofs.Data.RoundTrip
import StillMotion.Proofs.Direction.Extent
import StillMotion.Proofs.Scene.Reading

/-!
# Timelines that are read back

The interchange format loses nothing: every part of a timeline is restored from what is written
for it, every field with its value and every parameter with its kind.  Free data about assets is
restored when it is plain.
-/

namespace StillMotion

open Codec Fields

/-! ## Kinds -/

theorem AssetKind.restores (kind : AssetKind) : codec.Restores kind :=
  restores_choice (by cases kind <;> rfl)

theorem EffectKind.restores (kind : EffectKind) : codec.Restores kind :=
  restores_choice (by cases kind <;> rfl)

theorem LayerKind.restores (kind : LayerKind) : codec.Restores kind :=
  restores_choice (by cases kind <;> rfl)

theorem TrackKind.restores (kind : TrackKind) : codec.Restores kind :=
  restores_choice (by cases kind <;> rfl)

theorem BlendMode.restores (mode : BlendMode) : codec.Restores mode :=
  restores_choice (by cases mode <;> rfl)

theorem CameraKind.restores (kind : CameraKind) : codec.Restores kind :=
  restores_choice (by cases kind <;> rfl)

theorem MovementKind.restores (kind : MovementKind) : codec.Restores kind :=
  restores_choice (by cases kind <;> rfl)

theorem Easing.restores (easing : Easing) : codec.Restores easing :=
  restores_choice (by cases easing <;> rfl)

theorem Style.restores (style : Style) : codec.Restores style :=
  restores_choice (by cases style <;> rfl)

theorem Movement.restores (movement : Movement) : codec.Restores movement :=
  restores_choice (by cases movement <;> rfl)

theorem Mood.restores (mood : Mood) : codec.Restores mood :=
  restores_choice (by cases mood <;> rfl)

/-- A parameter keeps its kind: an integer is not taken for a double, nor a truth value or a
text for either. -/
theorem Parameter.restores (parameter : Parameter Float) : codec.Restores parameter := by
  cases parameter <;> exact ⟨rfl, rfl⟩

/-! ## Parts of a timeline -/

theorem Vec2.restores (v : Vec2 Float) : codec.Restores v :=
  restores_record (Restores.of
    |>.field (restores_real _)
    |>.field (restores_real _)
    |>.nullable (fun _ _ => restores_real _))
    rfl (by decide) rfl

theorem Vec3.restores (v : Vec3 Float) : codec.Restores v :=
  restores_record (Restores.of
    |>.field (restores_real _)
    |>.field (restores_real _)
    |>.field (restores_real _))
    rfl (by decide) rfl

def Asset.HasPlainMetadata (asset : Asset) : Prop :=
  ∀ entries ∈ asset.metadata, Value.entriesPlain entries = true

theorem Asset.restores {asset : Asset} (plain : asset.HasPlainMetadata) : codec.Restores asset :=
  restores_record (Restores.of
    |>.field (restores_text _)
    |>.field (AssetKind.restores _)
    |>.field (restores_text _)
    |>.nullable (fun _ given => restores_entries (plain _ given)))
    rfl (by decide) rfl

theorem KeyframeProperties.restores (properties : KeyframeProperties Float) :
    codec.Restores properties :=
  restores_record (Restores.of
    |>.nullable (fun _ _ => Vec2.restores _)
    |>.nullable (fun _ _ => Vec2.restores _)
    |>.nullable (fun _ _ => Vec2.restores _)
    |>.nullable (fun _ _ => restores_real _)
    |>.nullable (fun _ _ => restores_text _)
    |>.nullable (fun _ _ => restores_text _))
    rfl (by decide) rfl

theorem Keyframe.restores (keyframe : Keyframe Float) : codec.Restores keyframe :=
  restores_record (Restores.of
    |>.field (restores_real _)
    |>.field (KeyframeProperties.restores _)
    |>.nullable (fun _ _ => Easing.restores _))
    rfl (by decide) rfl

theorem Effect.restores (effect : Effect Float) : codec.Restores effect :=
  restores_record (Restores.of
    |>.field (restores_text _)
    |>.field (EffectKind.restores _)
    |>.field (restores_mapping fun _ _ => Parameter.restores _)
    |>.field (restores_real _)
    |>.field (restores_real _))
    rfl (by decide) rfl

theorem Layer.restores (layer : Layer Float) : codec.Restores layer :=
  restores_record (Restores.of
    |>.field (restores_text _)
    |>.field (restores_text _)
    |>.field (LayerKind.restores _)
    |>.nullable (fun _ _ => restores_text _)
    |>.field (restores_int _)
    |>.field (restores_real _)
    |>.field (restores_real _)
    |>.field (restores_list fun _ _ => Keyframe.restores _)
    |>.field (restores_list fun _ _ => Effect.restores _)
    |>.nullable (fun _ _ => BlendMode.restores _)
    |>.field (restores_bool _))
    rfl (by decide) rfl

theorem Track.restores (track : Track Float) : codec.Restores track :=
  restores_record (Restores.of
    |>.field (restores_text _)
    |>.field (restores_text _)
    |>.field (restores_int _)
    |>.field (TrackKind.restores _)
    |>.field (restores_list fun _ _ => Layer.restores _)
    |>.field (restores_bool _)
    |>.field (restores_bool _))
    rfl (by decide) rfl

theorem CameraMovement.restores (movement : CameraMovement Float) : codec.Restores movement :=
  restores_record (Restores.of
    |>.field (MovementKind.restores _)
    |>.field (Vec3.restores _)
    |>.field (Vec3.restores _)
    |>.field (restores_real _)
    |>.field (restores_real _)
    |>.field (Easing.restores _))
    rfl (by decide) rfl

theorem Camera.restores (camera : Camera Float) : codec.Restores camera :=
  restores_record (Restores.of
    |>.field (CameraKind.restores _)
    |>.field (Vec3.restores _)
    |>.field (Vec3.restores _)
    |>.nullable (fun _ _ => restores_real _)
    |>.field (restores_list fun _ _ => CameraMovement.restores _))
    rfl (by decide) rfl

theorem TimelineMetadata.restores (metadata : TimelineMetadata Float) : codec.Restores metadata :=
  restores_record (Restores.of
    |>.field (restores_text _)
    |>.field (restores_text _)
    |>.field (restores_real _)
    |>.field (restores_int _)
    |>.field (restores_int _)
    |>.field (restores_int _)
    |>.nullable (fun _ _ => restores_text _))
    rfl (by decide) rfl

/-! ## Timelines -/

def Timeline.HasPlainMetadata (timeline : Timeline Float) : Prop :=
  ∀ asset ∈ timeline.assets, asset.HasPlainMetadata

theorem Timeline.restores {timeline : Timeline Float} (plain : timeline.HasPlainMetadata) :
    codec.Restores timeline :=
  restores_record (Restores.of
    |>.field (restores_choice rfl)
    |>.field (TimelineMetadata.restores _)
    |>.field (restores_list fun _ member => Asset.restores (plain _ member))
    |>.field (restores_list fun _ _ => Track.restores _)
    |>.field (Camera.restores _)
    |>.field (restores_list fun _ _ => Effect.restores _))
    rfl (by decide) rfl

theorem ValidationResult.restores (result : ValidationResult) : codec.Restores result :=
  restores_record (Restores.of
    |>.field (restores_bool _)
    |>.field (restores_list fun _ _ => restores_text _))
    rfl (by decide) rfl

theorem CreativeDirection.restores (direction : CreativeDirection) : codec.Restores direction :=
  restores_record (Restores.of
    |>.field (Style.restores _)
    |>.field (Movement.restores _)
    |>.field (Mood.restores _)
    |>.field (restores_list fun _ _ => restores_text _))
    rfl (by decide) rfl

theorem MotionIR.restores {motion : MotionIR Float} (plain : motion.timeline.HasPlainMetadata) :
    codec.Restores motion :=
  restores_record (Restores.of
    |>.field (Timeline.restores plain)
    |>.field (ValidationResult.restores _)
    |>.field (CreativeDirection.restores _))
    rfl (by decide) rfl

/-! ## Documents -/

theorem Value.arePlain_texts (texts : List String) : Value.arePlain (texts.map .str) = true := by
  induction texts with
  | nil => rfl
  | cons text rest ih => exact ih

theorem Director.hasPlainMetadata_of_direct {schema : VisualSchema} {prompt : String}
    {reference createdAt : Option String} {policy : DirectorPolicy Float} {motion : MotionIR Float}
    (made : direct schema prompt reference createdAt policy = .ok motion) :
    motion.timeline.HasPlainMetadata := by
  obtain ⟨length, -, rfl⟩ := direct_eq_ok_iff.mp made
  intro image member entries given
  obtain rfl := List.mem_singleton.mp member
  cases given
  have colors := Value.arePlain_texts schema.scene.colors
  simp [Value.entriesPlain, Value.isPlain, Value.strings, colors]

theorem Codec.Restores.read {α : Type} {c : Codec α} {a : α} (h : c.Restores a) :
    c.read (c.encode a) = .ok a := by
  rw [Codec.read, h.decode]

theorem MotionIR.ofDocument_whole {motion : MotionIR Float}
    (plain : motion.timeline.HasPlainMetadata) :
    ofDocument (codec.encode motion) = .ok motion := by
  have held : ((codec.encode motion).get? "timeline").isSome = true := rfl
  rw [ofDocument, if_pos held, (restores plain).read]

theorem MotionIR.ofDocument_alone {timeline : Timeline Float} (plain : timeline.HasPlainMetadata) :
    ofDocument (Timeline.codec.encode timeline) =
      .ok ⟨timeline, timeline.validate, .ofPrompt ""⟩ := by
  have absent : ¬ ((Timeline.codec.encode timeline).get? "timeline").isSome = true := nofun
  rw [ofDocument, if_neg absent, (Timeline.restores plain).read]
  rfl

theorem Timeline.id_of_compose {timeline : Timeline Float} {composition : Composition Float}
    (composed : timeline.compose = .ok composition) : composition.id = timeline.contentId := by
  obtain ⟨frames, -, made⟩ := Except.bind_eq_ok.mp (compose_eq_ok_iff.mp composed).2
  cases made
  rfl

def MotionIR.documents (motion : MotionIR Float) : List Value :=
  [codec.encode motion, Timeline.codec.encode motion.timeline]

/-- A timeline with its validation and direction is read back from its document, and its timeline
from a document of the timeline alone, when the free data about assets is plain; it is when the
director made the timeline.  So composing either document gives what composing the timeline
does. -/
theorem MotionIR.ofDocument_encode {motion : MotionIR Float}
    (source : motion.timeline.HasPlainMetadata ∨
      ∃ schema prompt reference createdAt policy,
        Director.direct schema prompt reference createdAt policy = .ok motion) :
    ofDocument (codec.encode motion) = .ok motion ∧
    ofDocument (Timeline.codec.encode motion.timeline) =
      .ok ⟨motion.timeline, motion.timeline.validate, .ofPrompt ""⟩ ∧
    ∀ document ∈ motion.documents, ∃ read, ofDocument document = .ok read ∧
      read.timeline.compose = motion.timeline.compose ∧
      (∀ composition, read.timeline.compose = .ok composition →
        composition.id = motion.timeline.contentId) ∧
      ∀ imageSource baked,
        (read.timeline.compose >>= fun composition => composition.renderProps imageSource baked) =
          motion.timeline.compose >>= fun composition =>
            composition.renderProps imageSource baked := by
  have plain : motion.timeline.HasPlainMetadata := by
    rcases source with plain | ⟨_, _, _, _, _, made⟩
    · exact plain
    · exact Director.hasPlainMetadata_of_direct made
  have whole := ofDocument_whole plain
  have alone := ofDocument_alone plain
  refine ⟨whole, alone, ?_⟩
  intro document member
  simp only [documents, List.mem_cons, List.not_mem_nil, or_false] at member
  rcases member with rfl | rfl
  · exact ⟨motion, whole, rfl, fun _ => Timeline.id_of_compose, fun _ _ => rfl⟩
  · exact ⟨_, alone, rfl, fun _ => Timeline.id_of_compose, fun _ _ => rfl⟩

def annotatedMotion : MotionIR Float where
  timeline := {
    metadata := ⟨"Annotated", "2024-01-01T00:00:00Z", 2.0, 24, 640, 360, none⟩
    assets := [⟨"image", .image, "lake.jpg", some [("camera", .null), ("exposure", .float 0.01),
      ("iso", .int 100), ("place", .mapping [("name", .str "shore"), ("flash", .bool false)]),
      ("marks", .list [.int 1, .float 1.0, .null])]⟩]
    tracks := []
    camera := { Camera.still with movements :=
      [⟨.pan, ⟨0.0, 0.0, 1.0⟩, ⟨5.0, 0.0, 1.0⟩, 0.0, 2.0, .easeIn⟩] }
    globalEffects := [⟨"grain", .filmGrain, [("soft", .bool true), ("passes", .int 1),
      ("opacity", .real 1.0), ("seed", .text "1")], 0.0, 2.0⟩] }
  validation := ⟨false, ["Timeline must have at least one track"]⟩
  direction := .ofPrompt "slow pan"

theorem annotatedMotion_ofDocument :
    annotatedMotion.timeline.HasPlainMetadata ∧
      MotionIR.ofDocument (MotionIR.codec.encode annotatedMotion) = .ok annotatedMotion := by
  have plain : annotatedMotion.timeline.HasPlainMetadata := by
    intro image member entries given
    obtain rfl := List.mem_singleton.mp member
    cases given
    decide +kernel
  exact ⟨plain, (MotionIR.ofDocument_encode (.inl plain)).1⟩

end StillMotion
