import StillMotion.Proofs.Analysis.Resolution
import StillMotion.Proofs.Text.Search

/-!
# Normalization twice

A schema that is written and normalized again keeps every field: each field is read back under
its first spelling, and its coercion leaves it as it is.  The exception is a text that was joined
of listed texts, which may have blanks at its ends; the second normalization takes them off, and no
later one changes anything.
-/

namespace StillMotion

open StillMotion.Number StillMotion.Text

/-! ## Canonical colours -/

namespace Coercion

theorem toNat_of_hexValue? {c : Char} (hex : (hexValue? c).isSome = true) : c.toNat < 128 := by
  unfold hexValue? at hex
  split at hex
  next digit =>
      rw [Bool.and_eq_true, decide_eq_true_eq, decide_eq_true_eq] at digit
      exact Nat.lt_of_le_of_lt (show c.toNat ≤ 57 from digit.2) (by decide)
  next =>
      split at hex
      next small =>
          rw [Bool.and_eq_true, decide_eq_true_eq, decide_eq_true_eq] at small
          exact Nat.lt_of_le_of_lt (show c.toNat ≤ 102 from small.2) (by decide)
      next =>
          split at hex
          next capital =>
              rw [Bool.and_eq_true, decide_eq_true_eq, decide_eq_true_eq] at capital
              exact Nat.lt_of_le_of_lt (show c.toNat ≤ 70 from capital.2) (by decide)
          next => cases hex

theorem asciiLower_of_hexValue? {c : Char} (hex : (hexValue? c).isSome = true) :
    (hexValue? (asciiLower c)).isSome = true ∧ asciiLower (asciiLower c) = asciiLower c ∧
      isBlank (asciiLower c) = false := by
  have all := of_ascii (p := fun c => !(hexValue? c).isSome ||
      ((hexValue? (asciiLower c)).isSome && (asciiLower (asciiLower c) == asciiLower c &&
        !isBlank (asciiLower c)))) (by decide +kernel) (toNat_of_hexValue? hex)
  simpa [hex] using all

theorem color_ofList_trimChars (s : String) : color (String.ofList (trimChars s.toList)) = color s := by
  unfold color
  rw [String.toList_ofList, trimChars_trimChars]

theorem color_cases (s : String) :
    (∃ digits : List Char, digits.length = 6 ∧ (∀ c ∈ digits, (hexValue? c).isSome = true) ∧
      color s = String.ofList ('#' :: digits.map asciiLower)) ∨
    color s = String.ofList (trimChars s.toList) := by
  have chosen (digits : List Char) (other : String) :
      (∃ six : List Char, six.length = 6 ∧ (∀ c ∈ six, (hexValue? c).isSome = true) ∧
        (if digits.length == 6 && digits.all fun c => (hexValue? c).isSome then
          String.ofList ('#' :: digits.map asciiLower) else other) =
            String.ofList ('#' :: six.map asciiLower)) ∨
      (if digits.length == 6 && digits.all fun c => (hexValue? c).isSome then
        String.ofList ('#' :: digits.map asciiLower) else other) = other := by
    split
    next six =>
        rw [Bool.and_eq_true, beq_iff_eq, List.all_eq_true] at six
        exact .inl ⟨digits, six.1, six.2, rfl⟩
    next => exact .inr rfl
  exact chosen _ _

theorem color_color (s : String) : color (color s) = color s := by
  rcases color_cases s with ⟨digits, six, hex, same⟩ | same
  · rw [same]
    have lower := fun c member => asciiLower_of_hexValue? (hex c member)
    have shown : trimChars ('#' :: digits.map asciiLower) = '#' :: digits.map asciiLower := by
      apply trimChars_of_forall
      intro c member
      rcases List.mem_cons.mp member with rfl | member
      · decide
      · obtain ⟨d, inside, rfl⟩ := List.mem_map.mp member
        exact (lower d inside).2.2
    have twice : (digits.map asciiLower).map asciiLower = digits.map asciiLower := by
      rw [List.map_map]
      exact List.map_congr_left fun c member => (lower c member).2.1
    have still : (digits.map asciiLower).all (fun c => (hexValue? c).isSome) = true := by
      rw [List.all_map, List.all_eq_true]
      exact fun c member => (lower c member).1
    unfold color
    rw [String.toList_ofList, shown]
    simp [six, twice, still]
  · rw [same, color_ofList_trimChars, same]

theorem map_color_map_color (colors : List String) :
    (colors.map color).map color = colors.map color := by
  simp only [List.map_map, Function.comp_def, color_color]

/-! ## Lists of texts -/

theorem texts?_strings (texts : List String) : texts? (.strings texts) = nonEmpty texts := by
  have members : (texts.map Value.str).filterMap memberText? = texts := by
    rw [List.filterMap_map]
    exact List.filterMap_some
  rw [Value.strings, texts?, members]

end Coercion

/-! ## Written schemas -/

namespace SchemaField

def encoded : (field : SchemaField) → field.Content → Value
  | .primary, texts => .strings texts
  | .secondary, texts => .strings texts
  | .emotion, text => .str text
  | .lighting, text => .str text
  | .colors, texts => .strings texts
  | .depthLayers, texts => .strings texts
  | .focus, text => .str text
  | .perspective, text => .str text
  | .style, text => .str text
  | .dominantColors, texts => .strings texts
  | .contrastRatio, x => .float x
  | .complexityScore, x => .float x
  | .focalPoints, points => .list (points.map FocalPoint.codec.encode)
  | .segmentation, segments => .list (segments.map .mapping)

/-- What is read of the content of a field that was written. -/
def kept : (field : SchemaField) → field.Content → Option field.Content
  | .primary, texts => Coercion.nonEmpty texts
  | .secondary, texts => Coercion.nonEmpty texts
  | .emotion, text => Coercion.nonBlank? (trim text)
  | .lighting, text => Coercion.nonBlank? (trim text)
  | .colors, texts => (Coercion.nonEmpty texts).map (·.map Coercion.color)
  | .depthLayers, texts => Coercion.nonEmpty texts
  | .focus, text => Coercion.nonBlank? (trim text)
  | .perspective, text => Coercion.nonBlank? (trim text)
  | .style, text => Coercion.nonBlank? (trim text)
  | .dominantColors, texts => (Coercion.nonEmpty texts).map (·.map Coercion.color)
  | .contrastRatio, x => some x
  | .complexityScore, x => some x
  | .focalPoints, points => Coercion.nonEmpty points
  | .segmentation, segments => Coercion.nonEmpty segments

theorem segments?_mappings (segments : List Entries) :
    segments? (.list (segments.map .mapping)) = Coercion.nonEmpty segments := by
  have members : (segments.map Value.mapping).filterMap segment? = segments := by
    rw [List.filterMap_map]
    exact List.filterMap_some
  rw [segments?, members]

theorem coerce_encoded (field : SchemaField) (content : field.Content) :
    field.coerce (field.encoded content) = .ok (field.kept content) := by
  cases field with
  | focalPoints => exact VisualSchema.focalPoints?_encode content
  | segmentation => exact congrArg Except.ok (segments?_mappings content)
  | primary => exact congrArg Except.ok (Coercion.texts?_strings content)
  | secondary => exact congrArg Except.ok (Coercion.texts?_strings content)
  | depthLayers => exact congrArg Except.ok (Coercion.texts?_strings content)
  | colors =>
      exact congrArg (fun texts => Except.ok (texts.map (·.map Coercion.color)))
        (Coercion.texts?_strings content)
  | dominantColors =>
      exact congrArg (fun texts => Except.ok (texts.map (·.map Coercion.color)))
        (Coercion.texts?_strings content)
  | _ => rfl

end SchemaField

namespace VisualSchema

open SchemaField

def dump (schema : VisualSchema) : Value :=
  let part (field : SchemaField) : Value := field.encoded (field.value schema)
  .mapping [
    ("elements", .mapping [("primary", part .primary), ("secondary", part .secondary)]),
    ("scene", .mapping [("emotion", part .emotion), ("lighting", part .lighting),
      ("colors", part .colors), ("depth_layers", part .depthLayers)]),
    ("composition", .mapping [("focus", part .focus), ("perspective", part .perspective),
      ("style", part .style)]),
    ("visual_analysis", .mapping [("dominant_colors", part .dominantColors),
      ("contrast_ratio", part .contrastRatio), ("complexity_score", part .complexityScore),
      ("focal_points", part .focalPoints), ("segmentation", part .segmentation)])]

theorem at?_dump (schema : VisualSchema) (field : SchemaField) :
    ∃ first rest, field.spellings = first :: rest ∧
      schema.dump.at? first = some (field.encoded (field.value schema)) ∧
      (rest.all fun other => (schema.dump.at? other).isNone) = true := by
  cases field <;> exact ⟨_, _, rfl, rfl, rfl⟩

theorem dump_resolves {schema result : VisualSchema} {field : SchemaField}
    (same : (field.kept (field.value schema)).getD (field.standard result) = field.value result) :
    field.Resolves schema.dump result := by
  obtain ⟨first, rest, order, present, absent⟩ := at?_dump schema field
  have coerced := field.coerce_encoded (field.value schema)
  rw [resolves_iff, order]
  refine ⟨_, ?_, same⟩
  rw [← coerced]
  -- An empty list is passed over even where it was written, and no other spelling stands in for it.
  by_cases usable : field.coerce (field.encoded (field.value schema)) = .ok none
  · rw [resolveM_cons_of_misses (misses_of_at? present usable), usable]
    refine resolveM_of_misses fun other member => misses_of_absent ?_
    exact Option.isNone_iff_eq_none.mp (List.all_eq_true.mp absent other member)
  · exact resolveM_cons_of_meets present usable

/-! ## Normal schemas -/

def texts (schema : VisualSchema) : List String :=
  [schema.scene.emotion, schema.scene.lighting, schema.composition.focus,
    schema.composition.perspective, schema.composition.style]

/-- What normalization gives: texts and lists that are there, and colours in canonical form. -/
structure IsNormal (schema : VisualSchema) : Prop where
  texts : ∀ text ∈ schema.texts, text ≠ ""
  primary : schema.elements.primary ≠ []
  colors : schema.scene.colors ≠ []
  canonical : schema.scene.colors.map Coercion.color = schema.scene.colors
  dominantColors : schema.visualAnalysis.dominantColors ≠ []
  dominantCanonical :
    schema.visualAnalysis.dominantColors.map Coercion.color = schema.visualAnalysis.dominantColors

/-- A text without the blanks at its ends, or the standard text for a blank one. -/
def tidy (standard text : String) : String := (Coercion.nonBlank? (trim text)).getD standard

def tidied (schema : VisualSchema) : VisualSchema where
  elements := schema.elements
  scene := { schema.scene with
    emotion := tidy SceneFacts.standard.emotion schema.scene.emotion
    lighting := tidy SceneFacts.standard.lighting schema.scene.lighting }
  composition := {
    focus := tidy SceneComposition.standard.focus schema.composition.focus
    perspective := tidy SceneComposition.standard.perspective schema.composition.perspective
    style := tidy SceneComposition.standard.style schema.composition.style }
  visualAnalysis := schema.visualAnalysis

theorem nonEmpty_getD {α : Type} {items : List α} (present : items ≠ []) (standard : List α) :
    (Coercion.nonEmpty items).getD standard = items := by
  rw [Coercion.nonEmpty_eq_some.mpr ⟨rfl, present⟩, Option.getD_some]

theorem nonEmpty_getD_nil {α : Type} (items : List α) : (Coercion.nonEmpty items).getD [] = items := by
  cases items <;> rfl

theorem canonical_getD {colors : List String} (present : colors ≠ [])
    (canonical : colors.map Coercion.color = colors) (standard : List String) :
    ((Coercion.nonEmpty colors).map (·.map Coercion.color)).getD standard = colors := by
  rw [Coercion.nonEmpty_eq_some.mpr ⟨rfl, present⟩, Option.map_some, canonical, Option.getD_some]

/-- A normal schema that is written and normalized has its texts tidied. -/
theorem normalize_dump {schema : VisualSchema} (normal : schema.IsNormal) :
    normalize schema.dump = .ok schema.tidied := by
  rw [normalize_eq_ok_iff_resolves]
  intro field
  apply dump_resolves
  have primary := nonEmpty_getD normal.primary
  have colors := canonical_getD normal.colors normal.canonical
  have dominantColors := canonical_getD normal.dominantColors normal.dominantCanonical
  cases field <;>
    simp only [kept, value, standard, tidied, tidy, primary, colors, dominantColors,
      nonEmpty_getD_nil, Option.getD_some]

/-! ## Texts -/

def IsTrimmed (schema : VisualSchema) : Prop := ∀ text ∈ schema.texts, trim text = text

theorem tidy_cases (standard text : String) :
    tidy standard text = standard ∧ trim text = "" ∨
      tidy standard text = trim text ∧ trim text ≠ "" := by
  unfold tidy
  rcases blank : Coercion.nonBlank? (trim text) with _ | found
  · refine .inl ⟨rfl, ?_⟩
    by_contra present
    rw [Coercion.nonBlank?_eq_some.mpr ⟨rfl, present⟩] at blank
    cases blank
  · obtain ⟨same, present⟩ := Coercion.nonBlank?_eq_some.mp blank
    exact .inr ⟨same.symm, by rwa [same]⟩

theorem tidy_of_trim {standard text : String} (trimmed : trim text = text) (present : text ≠ "") :
    tidy standard text = text := by
  rw [tidy, trimmed, Coercion.nonBlank?_eq_some.mpr ⟨rfl, present⟩, Option.getD_some]

theorem tidy_spec {standard text : String} (trimmed : trim standard = standard)
    (present : standard ≠ "") :
    trim (tidy standard text) = tidy standard text ∧ tidy standard text ≠ "" := by
  rcases tidy_cases standard text with ⟨same, _⟩ | ⟨same, shown⟩
  · rw [same]
    exact ⟨trimmed, present⟩
  · rw [same]
    exact ⟨trim_trim text, shown⟩

theorem texts_tidied (schema : VisualSchema) :
    ∀ text ∈ schema.tidied.texts, trim text = text ∧ text ≠ "" := by
  simp only [texts, tidied, List.forall_mem_cons]
  refine ⟨tidy_spec ?_ ?_, tidy_spec ?_ ?_, tidy_spec ?_ ?_, tidy_spec ?_ ?_, tidy_spec ?_ ?_,
    by simp⟩ <;> decide

theorem tidied_eq_iff {schema : VisualSchema} (normal : schema.IsNormal) :
    schema.tidied = schema ↔ schema.IsTrimmed := by
  constructor
  · intro same text member
    rw [← same] at member
    exact (texts_tidied schema text member).1
  · intro trimmed
    have kept (standard text : String) (member : text ∈ schema.texts) :
        tidy standard text = text := tidy_of_trim (trimmed text member) (normal.texts text member)
    unfold tidied
    rw [kept _ schema.scene.emotion (by simp [texts]),
      kept _ schema.scene.lighting (by simp [texts]),
      kept _ schema.composition.focus (by simp [texts]),
      kept _ schema.composition.perspective (by simp [texts]),
      kept _ schema.composition.style (by simp [texts])]

theorem isNormal_tidied {schema : VisualSchema} (normal : schema.IsNormal) :
    schema.tidied.IsNormal where
  texts text member := (texts_tidied schema text member).2
  primary := normal.primary
  colors := by simpa only [tidied] using normal.colors
  canonical := by simpa only [tidied] using normal.canonical
  dominantColors := normal.dominantColors
  dominantCanonical := normal.dominantCanonical

theorem normalize_dump_tidied {schema : VisualSchema} (normal : schema.IsNormal) :
    normalize schema.tidied.dump = .ok schema.tidied := by
  rw [normalize_dump (isNormal_tidied normal)]
  refine congrArg _ ((tidied_eq_iff (isNormal_tidied normal)).mpr ?_)
  exact fun text member => (texts_tidied schema text member).1

/-! ## Normalized payloads -/

theorem canonical_colorsOf (raw : Value) : (colorsOf raw).map Coercion.color = colorsOf raw := by
  unfold colorsOf
  split
  next colors _ =>
      exact Coercion.map_color_map_color colors
  next => decide

theorem canonical_dominantColorsOf (raw : Value) :
    (dominantColorsOf raw).map Coercion.color = dominantColorsOf raw := by
  unfold dominantColorsOf
  split
  next colors _ =>
      exact Coercion.map_color_map_color colors
  next => exact canonical_colorsOf raw

theorem texts_of_normalize {raw : Value} {schema : VisualSchema}
    (normalized : normalize raw = .ok schema) :
    schema.texts =
      [(resolve raw Coercion.text? Spellings.emotion).getD SceneFacts.standard.emotion,
        (resolve raw Coercion.text? Spellings.lighting).getD SceneFacts.standard.lighting,
        (resolve raw Coercion.text? Spellings.focus).getD SceneComposition.standard.focus,
        (resolve raw Coercion.text? Spellings.perspective).getD SceneComposition.standard.perspective,
        (resolve raw Coercion.text? Spellings.style).getD SceneComposition.standard.style] := by
  simp only [normalize, Except.bind_eq_ok, Except.ok.injEq] at normalized
  obtain ⟨_, _, rfl⟩ := normalized
  rfl

theorem isNormal_of_normalize {raw : Value} {schema : VisualSchema}
    (normalized : normalize raw = .ok schema) : schema.IsNormal := by
  have present {spellings : List Spelling} {standard : String} (shown : standard ≠ "") :
      (resolve raw Coercion.text? spellings).getD standard ≠ "" :=
    resolve_getD Coercion.text?_ne_empty shown
  have texts : ∀ text ∈ schema.texts, text ≠ "" := by
    rw [texts_of_normalize normalized]
    simp only [List.forall_mem_cons]
    refine ⟨present ?_, present ?_, present ?_, present ?_, present ?_, by simp⟩ <;> decide
  simp only [normalize, Except.bind_eq_ok, Except.ok.injEq] at normalized
  obtain ⟨visualAnalysis, measured, rfl⟩ := normalized
  have dominant := dominantColors_of_visualAnalysisOf measured
  exact {
    texts
    primary := resolve_getD Coercion.texts?_ne_nil (List.cons_ne_nil _ _)
    colors := colorsOf_ne_nil raw
    canonical := canonical_colorsOf raw
    dominantColors := by
      rw [dominant]
      exact dominantColorsOf_ne_nil raw
    dominantCanonical := by
      rw [dominant]
      exact canonical_dominantColorsOf raw }

def textFields : List SchemaField := [.emotion, .lighting, .focus, .perspective, .style]

theorem text?_trim {value : Value} {text : String} (coerced : Coercion.text? value = some text) :
    trim text = text ∨ ∃ items, value = .list items := by
  cases value with
  | str s =>
      obtain ⟨rfl, _⟩ := Coercion.nonBlank?_eq_some.mp coerced
      exact .inl (trim_trim s)
  | list items => exact .inr ⟨items, rfl⟩
  | _ => cases coerced

theorem resolve_text_trim {raw : Value} {spellings : List Spelling} {standard : String}
    (trimmed : trim standard = standard) :
    trim ((resolve raw Coercion.text? spellings).getD standard) =
        (resolve raw Coercion.text? spellings).getD standard ∨
      ∃ items, Meets (fun value => .ok (Coercion.text? value)) raw spellings (.list items) := by
  rcases resolveM_eq_iff.mp (resolveM_ok raw Coercion.text? spellings) with
    ⟨value, met, coerced⟩ | ⟨_, nothing⟩
  · rw [Except.ok.injEq] at coerced
    rcases found : resolve raw Coercion.text? spellings with _ | text
    · exact .inl trimmed
    · rw [found] at coerced
      rcases text?_trim coerced with same | ⟨items, rfl⟩
      · exact .inl same
      · exact .inr ⟨items, met⟩
  · rw [Except.ok.injEq] at nothing
    rw [nothing]
    exact .inl trimmed

theorem isTrimmed_or_listed {raw : Value} {schema : VisualSchema}
    (normalized : normalize raw = .ok schema) :
    schema.IsTrimmed ∨
      ∃ field ∈ textFields, ∃ items, Meets field.coerce raw field.spellings (.list items) := by
  by_cases listed :
      ∃ field ∈ textFields, ∃ items, Meets field.coerce raw field.spellings (.list items)
  · exact .inr listed
  · simp only [textFields, List.exists_mem_cons_iff, not_or] at listed
    obtain ⟨emotion, lighting, focus, perspective, style, _⟩ := listed
    refine .inl ?_
    rw [IsTrimmed, texts_of_normalize normalized]
    simp only [List.forall_mem_cons]
    exact ⟨(resolve_text_trim (by decide)).resolve_right emotion,
      (resolve_text_trim (by decide)).resolve_right lighting,
      (resolve_text_trim (by decide)).resolve_right focus,
      (resolve_text_trim (by decide)).resolve_right perspective,
      (resolve_text_trim (by decide)).resolve_right style, by simp⟩

/-! ## Plain payloads -/

theorem dump_eq_encode {schema : VisualSchema}
    (plain : ∀ entries ∈ schema.visualAnalysis.segmentation, Value.entriesPlain entries = true) :
    schema.dump = codec.encode schema := by
  have segments : schema.visualAnalysis.segmentation.map Value.mapping =
      schema.visualAnalysis.segmentation.map Codec.entries.encode :=
    List.map_congr_left fun entries member =>
      congrArg Value.mapping (Codec.plainEntries_of_entriesPlain (plain entries member)).symm
  simp only [dump, encoded, value, segments]
  rfl

theorem segment?_plain {item : Value} {entries : Entries} (plain : item.isPlain = true)
    (read : segment? item = some entries) : Value.entriesPlain entries = true := by
  cases item with
  | mapping own =>
      cases read
      exact plain
  | str s =>
      cases read
      rfl
  | _ => cases read

theorem segments?_plain {value : Value} {segments : List Entries} (plain : value.isPlain = true)
    (read : segments? value = some segments) :
    ∀ entries ∈ segments, Value.entriesPlain entries = true := by
  cases value with
  | list items =>
      obtain ⟨rfl, _⟩ := Coercion.nonEmpty_eq_some.mp read
      intro entries member
      obtain ⟨item, inside, one⟩ := List.mem_filterMap.mp member
      exact segment?_plain (Value.arePlain_iff.mp plain item inside) one
  | _ => cases read

theorem segmentation_plain {raw : Value} {schema : VisualSchema} (plain : raw.isPlain = true)
    (normalized : normalize raw = .ok schema) :
    ∀ entries ∈ schema.visualAnalysis.segmentation, Value.entriesPlain entries = true := by
  rcases resolves_of_normalize normalized .segmentation with ⟨value, met, coerced⟩ | ⟨_, none⟩
  · obtain ⟨_, _, _, _, _, present, _⟩ := met
    exact segments?_plain (Value.isPlain_of_at? plain present) (Except.ok.inj coerced)
  · intro entries member
    rw [show schema.visualAnalysis.segmentation = [] from none] at member
    cases member

/-! ## Normalizing again -/

/-- A normalized payload that is written and normalized again has the same fields, but for texts with
blanks at their ends, which are joined of lists only; from then on nothing changes. -/
theorem normalize_again {raw : Value} {schema : VisualSchema}
    (normalized : normalize raw = .ok schema) :
    (raw.isPlain = true → schema.dump = codec.encode schema) ∧
    normalize schema.dump = .ok schema.tidied ∧
    normalize schema.tidied.dump = .ok schema.tidied ∧
    (normalize schema.dump = .ok schema ↔ schema.IsTrimmed) ∧
    (schema.IsTrimmed ∨
      ∃ field ∈ textFields, ∃ items, Meets field.coerce raw field.spellings (.list items)) := by
  have normal := isNormal_of_normalize normalized
  refine ⟨fun plain => dump_eq_encode (segmentation_plain plain normalized), normalize_dump normal,
    normalize_dump_tidied normal, ?_, isTrimmed_or_listed normalized⟩
  rw [normalize_dump normal, Except.ok.injEq]
  exact tidied_eq_iff normal

def listedPayload : Value :=
  .mapping [("mood", .list [.str " calm "]), ("colors", .list [.str "#00FF00"]),
    ("segments", .list [.str "sky"])]

def listedSchema : VisualSchema where
  elements := ⟨["subject"], []⟩
  scene := ⟨" calm ", "natural", ["#00ff00"], []⟩
  composition := ⟨"center", "eye-level", "photographic"⟩
  visualAnalysis := ⟨["#00ff00"], 0.5, 0.5, [], [[("label", .str "sky")]]⟩

theorem normalize_listedPayload : normalize listedPayload = .ok listedSchema := rfl

theorem listedPayload_normalize_again :
    normalize listedPayload = .ok listedSchema ∧
    listedSchema.dump = codec.encode listedSchema ∧
    normalize listedSchema.dump = .ok listedSchema.tidied ∧
    listedSchema.tidied.scene.emotion = "calm" := by
  obtain ⟨written, again, _⟩ := normalize_again normalize_listedPayload
  exact ⟨normalize_listedPayload, written rfl, again, by decide⟩

/-- Not every normalized payload is normalized to itself again. -/
theorem not_all_normalize_again :
    ¬ ∀ (raw : Value) (schema : VisualSchema), raw.isPlain = true → normalize raw = .ok schema →
      normalize (codec.encode schema) = .ok schema := by
  intro all
  have same := all listedPayload listedSchema rfl normalize_listedPayload
  have normal := isNormal_of_normalize normalize_listedPayload
  rw [← dump_eq_encode (segmentation_plain rfl normalize_listedPayload), normalize_dump normal,
    Except.ok.injEq, tidied_eq_iff normal] at same
  exact absurd (same " calm " (by simp [texts, listedSchema])) (by decide)

end VisualSchema

end StillMotion
