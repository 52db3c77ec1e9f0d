import StillMotion.Proofs.Data.Likeness
import StillMotion.Proofs.Scene.Bakeable

/-!
# What the identifier of a timeline identifies

A composition is identified by a digest of the canonical text of its timeline.  Two timelines have
one canonical text exactly when they are the same field by field and kind by kind, but for the
order of the parameters of effects and of the keys in free data about assets.
-/

namespace StillMotion

open Codec

/-! ## Timelines that are alike -/

def Asset.IsAlike (a b : Asset) : Prop :=
  { a with metadata := b.metadata } = b ∧
    Option.Rel (fun xs ys => (Value.mapping xs).Alike (.mapping ys)) a.metadata b.metadata

def Effect.IsAlike (e f : Effect Float) : Prop :=
  { e with parameters := f.parameters } = f ∧ e.parameters.Perm f.parameters

def Layer.IsAlike (l m : Layer Float) : Prop :=
  { l with effects := m.effects } = m ∧ List.Forall₂ Effect.IsAlike l.effects m.effects

def Track.IsAlike (t u : Track Float) : Prop :=
  { t with layers := u.layers } = u ∧ List.Forall₂ Layer.IsAlike t.layers u.layers

def Timeline.IsAlike (t u : Timeline Float) : Prop :=
  t.metadata = u.metadata ∧ t.camera = u.camera ∧
    List.Forall₂ Asset.IsAlike t.assets u.assets ∧
    List.Forall₂ Track.IsAlike t.tracks u.tracks ∧
    List.Forall₂ Effect.IsAlike t.globalEffects u.globalEffects

/-! ## Parts of a timeline -/

theorem Parameter.tells (p q : Parameter Float) : codec.Tells Eq p q :=
  tells_of_restores restores (fun p => by cases p <;> rfl) p q

theorem Vec2.tells (v w : Vec2 Float) : codec.Tells Eq v w :=
  tells_record (Fields.Tells.of
    |>.field (tells_real _ _)
    |>.field (tells_real _ _)
    |>.nullable (fun _ => rfl) tells_real)
    (by decide) (by cases v; cases w; simp [optionRel_eq, and_assoc])

theorem Vec3.tells (v w : Vec3 Float) : codec.Tells Eq v w :=
  tells_record (Fields.Tells.of
    |>.field (tells_real _ _)
    |>.field (tells_real _ _)
    |>.field (tells_real _ _))
    (by decide) (by cases v; cases w; simp [and_assoc])

theorem Asset.tells {a b : Asset} (ha : a.HasPlainMetadata) (hb : b.HasPlainMetadata) :
    codec.Tells IsAlike a b :=
  tells_record (Fields.Tells.of
    |>.field (tells_text _ _)
    |>.field (tells_of_restores AssetKind.restores (fun _ => rfl) _ _)
    |>.field (tells_text _ _)
    |>.field (tells_nullable (fun _ => rfl) fun xs hx ys hy => tells_entries (ha xs hx) (hb ys hy)))
    (by decide) (by cases a; cases b; simp [IsAlike, and_assoc])

theorem KeyframeProperties.tells (p q : KeyframeProperties Float) : codec.Tells Eq p q :=
  tells_record (Fields.Tells.of
    |>.nullable (fun _ => rfl) Vec2.tells
    |>.nullable (fun _ => rfl) Vec2.tells
    |>.nullable (fun _ => rfl) Vec2.tells
    |>.nullable (fun _ => rfl) tells_real
    |>.nullable (fun _ => rfl) tells_text
    |>.nullable (fun _ => rfl) tells_text)
    (by decide) (by cases p; cases q; simp [optionRel_eq, and_assoc])

theorem Keyframe.tells (k l : Keyframe Float) : codec.Tells Eq k l :=
  tells_record (Fields.Tells.of
    |>.field (tells_real _ _)
    |>.field (KeyframeProperties.tells _ _)
    |>.nullable (fun _ => rfl) (tells_of_restores Easing.restores (fun _ => rfl)))
    (by decide) (by cases k; cases l; simp [optionRel_eq, and_assoc])

theorem Effect.tells (e f : Effect Float) : codec.Tells IsAlike e f :=
  tells_record (Fields.Tells.of
    |>.field (tells_text _ _)
    |>.field (tells_of_restores EffectKind.restores (fun _ => rfl) _ _)
    |>.field (tells_mapping fun _ _ _ _ => Parameter.tells _ _)
    |>.field (tells_real _ _)
    |>.field (tells_real _ _))
    (by decide) (by
      cases e
      cases f
      simp only [IsAlike, mk.injEq]
      tauto)

theorem Layer.tells (l m : Layer Float) : codec.Tells IsAlike l m :=
  tells_record (Fields.Tells.of
    |>.field (tells_text _ _)
    |>.field (tells_text _ _)
    |>.field (tells_of_restores LayerKind.restores (fun _ => rfl) _ _)
    |>.nullable (fun _ => rfl) tells_text
    |>.field (tells_int _ _)
    |>.field (tells_real _ _)
    |>.field (tells_real _ _)
    |>.field (tells_list fun _ _ _ _ => Keyframe.tells _ _)
    |>.field (tells_list fun _ _ _ _ => Effect.tells _ _)
    |>.nullable (fun _ => rfl) (tells_of_restores BlendMode.restores (fun _ => rfl))
    |>.field (tells_bool _ _))
    (by decide) (by
      cases l
      cases m
      simp only [IsAlike, optionRel_eq, List.forall₂_eq_eq_eq, mk.injEq]
      tauto)

theorem Track.tells (t u : Track Float) : codec.Tells IsAlike t u :=
  tells_record (Fields.Tells.of
    |>.field (tells_text _ _)
    |>.field (tells_text _ _)
    |>.field (tells_int _ _)
    |>.field (tells_of_restores TrackKind.restores (fun _ => rfl) _ _)
    |>.field (tells_list fun _ _ _ _ => Layer.tells _ _)
    |>.field (tells_bool _ _)
    |>.field (tells_bool _ _))
    (by decide) (by
      cases t
      cases u
      simp only [IsAlike, mk.injEq]
      tauto)

theorem CameraMovement.tells (m n : CameraMovement Float) : codec.Tells Eq m n :=
  tells_record (Fields.Tells.of
    |>.field (tells_of_restores MovementKind.restores (fun _ => rfl) _ _)
    |>.field (Vec3.tells _ _)
    |>.field (Vec3.tells _ _)
    |>.field (tells_real _ _)
    |>.field (tells_real _ _)
    |>.field (tells_of_restores Easing.restores (fun _ => rfl) _ _))
    (by decide) (by cases m; cases n; simp [and_assoc])

theorem Camera.tells (c d : Camera Float) : codec.Tells Eq c d :=
  tells_record (Fields.Tells.of
    |>.field (tells_of_restores CameraKind.restores (fun _ => rfl) _ _)
    |>.field (Vec3.tells _ _)
    |>.field (Vec3.tells _ _)
    |>.nullable (fun _ => rfl) tells_real
    |>.field (tells_list fun _ _ _ _ => CameraMovement.tells _ _))
    (by decide) (by cases c; cases d; simp [optionRel_eq, and_assoc])

theorem TimelineMetadata.tells (m n : TimelineMetadata Float) : codec.Tells Eq m n :=
  tells_record (Fields.Tells.of
    |>.field (tells_text _ _)
    |>.field (tells_text _ _)
    |>.field (tells_real _ _)
    |>.field (tells_int _ _)
    |>.field (tells_int _ _)
    |>.field (tells_int _ _)
    |>.nullable (fun _ => rfl) tells_text)
    (by decide) (by cases m; cases n; simp [optionRel_eq, and_assoc])

/-! ## Timelines -/

namespace Timeline

variable {t u : Timeline Float}

theorem tells (ht : t.HasPlainMetadata) (hu : u.HasPlainMetadata) : codec.Tells IsAlike t u :=
  tells_record (Fields.Tells.of
    |>.field (tells_of_restores (fun _ => restores_choice rfl) (fun _ => rfl) _ _)
    |>.field (TimelineMetadata.tells _ _)
    |>.field (tells_list fun a ha b hb => Asset.tells (ht a ha) (hu b hb))
    |>.field (tells_list fun _ _ _ _ => Track.tells _ _)
    |>.field (Camera.tells _ _)
    |>.field (tells_list fun _ _ _ _ => Effect.tells _ _))
    (by decide) (by
      simp only [IsAlike]
      tauto)

/-- The free data about assets is JSON data, every double is finite, and no mapping has a key
twice. -/
structure IsJson (timeline : Timeline Float) : Prop where
  metadata : timeline.HasPlainMetadata
  document : timeline.IsDocument
  apart : (Timeline.codec.encode timeline).isApart = true

instance : DecidablePred HasText := fun _ => inferInstanceAs (Decidable (_ = true))

instance : DecidablePred IsJson := fun timeline =>
  decidable_of_iff ((∀ asset ∈ timeline.assets, ∀ entries ∈ asset.metadata,
      Value.entriesPlain entries = true) ∧ (codec.encode timeline).isPlain = true ∧
      (codec.encode timeline).isApart = true)
    ⟨fun h => ⟨h.1, h.2.1, h.2.2⟩, fun h => ⟨h.metadata, h.document, h.apart⟩⟩

theorem IsJson.canonical_eq_iff (ht : t.IsJson) (hu : u.IsJson) (writtenT : t.HasText)
    (writtenU : u.HasText) : t.canonical = u.canonical ↔ t.IsAlike u :=
  (Value.canonical_eq_iff ⟨ht.document, ht.apart, writtenT⟩ ⟨hu.document, hu.apart, writtenU⟩).trans
    (tells ht.metadata hu.metadata)

theorem compose_eq_error (wide : ¬ t.HasText) : t.compose = .error .integerTooWide := by
  have wide' : (Timeline.codec.encode t).isWithin Number.digitLimit = false := by
    simpa [HasText] using wide
  simp [compose, Json.requireText, wide', bind, Except.bind]

end Timeline

def leadingDigits (text : String) : List Char := (Sha256.hex text.toUTF8).toList.take 12

/-- Two texts differ that the first digits of the digest do not tell apart. -/
def Collide (text other : String) : Prop := text ≠ other ∧ leadingDigits text = leadingDigits other

theorem identifierOf_eq_iff {text other : String} :
    identifierOf text = identifierOf other ↔ leadingDigits text = leadingDigits other := by
  unfold identifierOf leadingDigits
  constructor
  · intro same
    have letters := congrArg String.toList same
    simp only [String.toList_append, String.toList_ofList] at letters
    exact List.append_cancel_left letters
  · intro digits
    rw [digits]

/-- The identifier of a composition identifies the content of its timeline.  Where the integers of
two timelines can be written, their canonical texts are the same exactly when the timelines are
alike, and so are their identifiers unless the digest collides.  Where an integer cannot be
written there is no composition. -/
theorem Timeline.contentId_eq_iff {t u : Timeline Float} (ht : t.IsJson) (hu : u.IsJson) :
    (t.HasText → u.HasText →
      (t.canonical = u.canonical ↔ t.IsAlike u) ∧
      (t.contentId = u.contentId ↔ t.IsAlike u ∨ Collide t.canonical u.canonical)) ∧
    (¬ t.HasText → t.compose = .error .integerTooWide) := by
  refine ⟨fun writtenT writtenU => ?_, compose_eq_error⟩
  have canonical_iff := ht.canonical_eq_iff hu writtenT writtenU
  refine ⟨canonical_iff, ?_⟩
  constructor
  · intro same
    by_cases alike : t.IsAlike u
    · exact .inl alike
    · exact .inr ⟨fun texts => alike (canonical_iff.mp texts), identifierOf_eq_iff.mp same⟩
  · rintro (alike | ⟨-, digits⟩)
    · exact congrArg identifierOf (canonical_iff.mpr alike)
    · exact identifierOf_eq_iff.mpr digits

def reorderedTimeline : Timeline Float :=
  { annotatedMotion.timeline with
    assets := [⟨"image", .image, "lake.jpg", some [("exposure", .float 0.01), ("camera", .null),
      ("iso", .int 100), ("place", .mapping [("flash", .bool false), ("name", .str "shore")]),
      ("marks", .list [.int 1, .float 1.0, .null])]⟩]
    globalEffects := [⟨"grain", .filmGrain, [("passes", .int 1), ("soft", .bool true),
      ("opacity", .real 1.0), ("seed", .text "1")], 0.0, 2.0⟩] }

def recastTimeline : Timeline Float :=
  { annotatedMotion.timeline with
    globalEffects := [⟨"grain", .filmGrain, [("soft", .bool true), ("passes", .real 1.0),
      ("opacity", .real 1.0), ("seed", .text "1")], 0.0, 2.0⟩] }

theorem annotatedMotion_isAlike : annotatedMotion.timeline.IsAlike reorderedTimeline := by
  have same (entry : String × Value) : Value.EntryAlike entry entry := ⟨rfl, Value.alike_refl _⟩
  have place : (Value.mapping [("name", .str "shore"), ("flash", .bool false)]).Alike
      (.mapping [("flash", .bool false), ("name", .str "shore")]) :=
    Value.alike_mapping.mpr ⟨_, .swap _ _ _, List.forall₂_same.mpr fun entry _ => same entry⟩
  refine ⟨rfl, rfl, .cons ⟨rfl, .some (Value.alike_mapping.mpr ⟨_, .swap _ _ _, ?_⟩)⟩ .nil, .nil,
    .cons ⟨rfl, .swap _ _ _⟩ .nil⟩
  exact .cons (same _) (.cons (same _) (.cons (same _) (.cons ⟨rfl, place⟩ (.cons (same _) .nil))))

theorem reorderedTimeline_contentId :
    annotatedMotion.timeline.contentId = reorderedTimeline.contentId ∧
      annotatedMotion.timeline.canonical ≠ recastTimeline.canonical := by
  have other : ¬ annotatedMotion.timeline.IsAlike recastTimeline := by
    rintro ⟨-, -, -, -, effects⟩
    obtain ⟨effect, listed, -, perm⟩ := exists_right_of_forall₂ effects List.mem_cons_self
    rw [List.mem_singleton.mp listed] at perm
    have passes := perm.mem_iff.mp (List.mem_cons_of_mem _ List.mem_cons_self)
    simp at passes
  have first := (Timeline.contentId_eq_iff (t := annotatedMotion.timeline) (u := reorderedTimeline)
    (by decide +kernel) (by decide +kernel)).1 (by decide +kernel) (by decide +kernel)
  have second := (Timeline.contentId_eq_iff (t := annotatedMotion.timeline) (u := recastTimeline)
    (by decide +kernel) (by decide +kernel)).1 (by decide +kernel) (by decide +kernel)
  exact ⟨first.2.mpr (.inl annotatedMotion_isAlike), fun same => other (second.1.mp same)⟩

end StillMotion
