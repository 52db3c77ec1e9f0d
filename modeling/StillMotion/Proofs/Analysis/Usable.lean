import StillMotion.Analysis.Fallback
import StillMotion.Analysis.Normalize
import StillMotion.Proofs.Data.Outcome

/-!
# Usable schemas

A schema is usable when its mood, its colours, its focus and its dominant colours are there.
Whatever a payload holds, each of these fields takes either a coerced value, which is never
empty, or its standard value, so normalization gives usable schemas only.
-/

namespace StillMotion

open StillMotion.Number

/-! ## Coerced values -/

namespace Coercion

theorem nonEmpty_eq_some {α : Type} {items found : List α} :
    nonEmpty items = some found ↔ items = found ∧ found ≠ [] := by
  cases items with
  | nil => simp +contextual [nonEmpty]
  | cons item rest =>
      simp only [nonEmpty, Option.some.injEq, iff_self_and]
      rintro rfl
      exact List.cons_ne_nil item rest

theorem nonBlank?_eq_some {s t : String} : nonBlank? s = some t ↔ s = t ∧ t ≠ "" := by
  unfold nonBlank?
  split
  next h =>
      have blank : s = "" := String.isEmpty_iff.mp h
      simp +contextual [blank, eq_comm]
  next h =>
      have present : s ≠ "" := fun blank => h (String.isEmpty_iff.mpr blank)
      simp only [Option.some.injEq, iff_self_and]
      rintro rfl
      exact present

theorem texts?_ne_nil {value : Value} {texts : List String} (h : texts? value = some texts) :
    texts ≠ [] := by
  cases value with
  | str s => exact (nonEmpty_eq_some.mp h).2
  | list items => exact (nonEmpty_eq_some.mp h).2
  | _ => simp [texts?] at h

theorem text?_ne_empty {value : Value} {text : String} (h : text? value = some text) :
    text ≠ "" := by
  cases value with
  | str s => exact (nonBlank?_eq_some.mp h).2
  | list items =>
      obtain ⟨words, _, joined⟩ := Option.bind_eq_some_iff.mp h
      exact (nonBlank?_eq_some.mp joined).2
  | _ => simp [text?] at h

end Coercion

/-! ## Resolved fields -/

section Resolve

variable {α : Type} {raw : Value} {coerce : Value → Option α} {spellings : List Spelling}

theorem resolve_eq_some {a : α} (h : resolve raw coerce spellings = some a) :
    ∃ spelling ∈ spellings, ∃ value, raw.at? spelling = some value ∧ coerce value = some a := by
  obtain ⟨spelling, member, found⟩ := List.exists_of_findSome?_eq_some h
  obtain ⟨value, at_, coerced⟩ := Option.bind_eq_some_iff.mp found
  exact ⟨spelling, member, value, at_, coerced⟩

theorem resolve_getD {P : α → Prop} {standard : α}
    (coerced : ∀ {value a}, coerce value = some a → P a) (default : P standard) :
    P ((resolve raw coerce spellings).getD standard) := by
  cases h : resolve raw coerce spellings with
  | none => exact default
  | some a =>
      obtain ⟨_, _, value, _, found⟩ := resolve_eq_some h
      exact coerced found

end Resolve

namespace VisualSchema

private theorem canonical_ne_nil {raw : Value} {spellings : List Spelling}
    {standard : List String} (default : standard ≠ []) :
    (match resolve raw Coercion.texts? spellings with
      | some colors => colors.map Coercion.color
      | none => standard) ≠ [] := by
  split
  next colors h =>
      obtain ⟨_, _, _, _, found⟩ := resolve_eq_some h
      simpa using Coercion.texts?_ne_nil found
  next => exact default

theorem colorsOf_ne_nil (raw : Value) : colorsOf raw ≠ [] :=
  canonical_ne_nil (by simp [SceneFacts.standard])

theorem dominantColorsOf_ne_nil (raw : Value) : dominantColorsOf raw ≠ [] :=
  canonical_ne_nil (colorsOf_ne_nil raw)

theorem emotionOf_ne_empty (raw : Value) : (sceneOf raw).emotion ≠ "" :=
  resolve_getD Coercion.text?_ne_empty (by simp [SceneFacts.standard])

theorem focusOf_ne_empty (raw : Value) : (compositionOf raw).focus ≠ "" :=
  resolve_getD Coercion.text?_ne_empty (by simp [SceneComposition.standard])

/-! ## Usable schemas -/

/-- The facts that everything else rests on are there. -/
structure IsUsable (schema : VisualSchema) : Prop where
  emotion : schema.scene.emotion ≠ ""
  colors : schema.scene.colors ≠ []
  focus : schema.composition.focus ≠ ""
  dominantColors : schema.visualAnalysis.dominantColors ≠ []

theorem schemaErrors_encode (schema : VisualSchema) :
    schemaErrors (codec.encode schema) =
      (if schema.scene.emotion = "" then ["scene.emotion is required"] else []) ++
      (if schema.scene.colors = [] then ["scene.colors must be a non-empty list"] else []) ++
      (if schema.composition.focus = "" then ["composition.focus is required"] else []) ++
      (if schema.visualAnalysis.dominantColors = [] then
        ["visual_analysis.dominant_colors must be a non-empty list"] else []) := by
  let data := codec.encode schema
  have isDict : data.isDict = true := rfl
  have primary : hasList (sectionOf data "elements") "primary" = true := rfl
  have emotion : hasPresent (sectionOf data "scene") "emotion" =
      !schema.scene.emotion.isEmpty := rfl
  have colors : hasPresentList (sectionOf data "scene") "colors" =
      !(schema.scene.colors.map Value.str).isEmpty := rfl
  have focus : hasPresent (sectionOf data "composition") "focus" =
      !schema.composition.focus.isEmpty := rfl
  have dominantColors : hasPresentList (sectionOf data "visual_analysis") "dominant_colors" =
      !(schema.visualAnalysis.dominantColors.map Value.str).isEmpty := rfl
  simp [data, schemaErrors, isDict, primary, emotion, colors, focus, dominantColors]

theorem validate_eq_valid {schema : VisualSchema} :
    schema.validate = ⟨true, []⟩ ↔ schema.IsUsable := by
  have noErrors : schema.validate = ⟨true, []⟩ ↔ schemaErrors (codec.encode schema) = [] := by
    simp +contextual [validate, validateSchema, ValidationResult.ofErrors]
  rw [noErrors, schemaErrors_encode]
  constructor
  · intro h
    simp only [List.append_eq_nil_iff, ite_eq_right_iff, List.cons_ne_nil, imp_false] at h
    obtain ⟨⟨⟨emotion, colors⟩, focus⟩, dominantColors⟩ := h
    exact ⟨emotion, colors, focus, dominantColors⟩
  · rintro ⟨emotion, colors, focus, dominantColors⟩
    simp [emotion, colors, focus, dominantColors]

theorem dominantColors_of_visualAnalysisOf {raw : Value} {visualAnalysis : VisualAnalysis}
    (h : visualAnalysisOf raw = .ok visualAnalysis) :
    visualAnalysis.dominantColors = dominantColorsOf raw := by
  simp only [visualAnalysisOf, Except.bind_eq_ok, Except.ok.injEq] at h
  obtain ⟨_, _, _, _, _, _, rfl⟩ := h
  rfl

theorem isUsable_of_normalize {raw : Value} {schema : VisualSchema}
    (h : normalize raw = .ok schema) : schema.IsUsable := by
  simp only [normalize, Except.bind_eq_ok, Except.ok.injEq] at h
  obtain ⟨visualAnalysis, measured, rfl⟩ := h
  exact {
    emotion := emotionOf_ne_empty raw
    colors := colorsOf_ne_nil raw
    focus := focusOf_ne_empty raw
    dominantColors := by
      rw [dominantColors_of_visualAnalysisOf measured]
      exact dominantColorsOf_ne_nil raw }

/-! ## Schemas read back -/

theorem focalPoint?_encode (point : FocalPoint) :
    focalPoint? (FocalPoint.codec.encode point) = .ok (some point) := by
  cases point with
  | mk x y weight label =>
      cases label with
      | none => rfl
      | some label => rfl

theorem focalPoints?_encode (points : List FocalPoint) :
    focalPoints? (.list (points.map FocalPoint.codec.encode)) =
      .ok (Coercion.nonEmpty points) := by
  have read : (points.map FocalPoint.codec.encode).mapM focalPoint? =
      .ok (points.map some) := by
    induction points with
    | nil => rfl
    | cons point rest ih =>
        simp only [List.map_cons, List.mapM_cons, focalPoint?_encode, ih, bind, Except.bind]
        rfl
  have kept : ((points.map some).filterMap fun point => point) = points := by
    rw [List.filterMap_map]
    exact List.filterMap_some
  simp only [focalPoints?, read, bind, Except.bind, kept]

theorem resolveM_of_first {α : Type} {raw value : Value} {spelling : Spelling}
    {coerce : Value → Except ArithmeticFault (Option α)} {rest : List Spelling} {a : α}
    (there : raw.at? spelling = some value) (coerced : coerce value = .ok (some a)) :
    resolveM raw coerce (spelling :: rest) = .ok (some a) := by
  simp only [resolveM, there, coerced, bind, Except.bind]

theorem visualAnalysisOf_encode (schema : VisualSchema) :
    visualAnalysisOf (codec.encode schema) = .ok {
      dominantColors := dominantColorsOf (codec.encode schema)
      contrastRatio := schema.visualAnalysis.contrastRatio
      complexityScore := schema.visualAnalysis.complexityScore
      focalPoints := schema.visualAnalysis.focalPoints
      segmentation :=
        (resolve (codec.encode schema) segments? Spellings.segmentation).getD [] } := by
  have contrast : resolveM (codec.encode schema) Coercion.number? Spellings.contrastRatio =
      .ok (some schema.visualAnalysis.contrastRatio) := resolveM_of_first rfl rfl
  have complexity : resolveM (codec.encode schema) Coercion.number? Spellings.complexityScore =
      .ok (some schema.visualAnalysis.complexityScore) := resolveM_of_first rfl rfl
  have points : resolveM (codec.encode schema) focalPoints? Spellings.focalPoints =
      .ok (Coercion.nonEmpty schema.visualAnalysis.focalPoints) := by
    have there : (codec.encode schema).at? ["visual_analysis", "focal_points"] =
        some (.list (schema.visualAnalysis.focalPoints.map FocalPoint.codec.encode)) := rfl
    have nowhereElse : (codec.encode schema).at? ["focal_points"] = none := rfl
    simp only [Spellings.focalPoints, resolveM, there, nowhereElse, focalPoints?_encode, bind,
      Except.bind]
    cases schema.visualAnalysis.focalPoints <;> rfl
  have pointsGetD :
      (Coercion.nonEmpty schema.visualAnalysis.focalPoints).getD [] =
        schema.visualAnalysis.focalPoints := by
    cases schema.visualAnalysis.focalPoints <;> rfl
  simp only [visualAnalysisOf, contrast, complexity, points, bind, Except.bind, pointsGetD,
    Option.getD_some]

theorem exists_normalize_encode (schema : VisualSchema) :
    ∃ again, normalize (codec.encode schema) = .ok again := by
  simp only [normalize, visualAnalysisOf_encode, bind, Except.bind]
  exact ⟨_, rfl⟩

end VisualSchema

end StillMotion
