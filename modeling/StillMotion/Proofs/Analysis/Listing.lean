import StillMotion.Proofs.Analysis.Stability

/-!
# Lists in other shapes

Analysis backends give a list of texts in three shapes: as a list, as one text with commas between
its parts, or as mappings that name one part each.  A payload may hold a list in any of them, under
any spelling of the field, and the schema is the same.  A field that holds one text takes a list
for the text in which its parts are joined.

No spelling of a field lies on the way of another one, so that whatever is exchanged under one of
them stays unseen by all other fields.
-/

namespace StillMotion

open StillMotion.Number StillMotion.Text

namespace Coercion

/-- A text that stays one part in every shape of a list. -/
structure IsPart (word : String) : Prop where
  present : word ≠ ""
  unbroken : ',' ∉ word.toList
  trimmed : trim word = word

/-- The words in one text, with a comma and any blanks between two of them. -/
inductive CommaJoined : List String → List Char → Prop where
  | last (word : String) : CommaJoined [word] word.toList
  | next (word : String) {words : List String} {before after rest : List Char}
      (blankBefore : ∀ c ∈ before, isBlank c = true) (blankAfter : ∀ c ∈ after, isBlank c = true)
      (joined : CommaJoined words rest) :
      CommaJoined (word :: words) (word.toList ++ before ++ ',' :: (after ++ rest))

/-- The mapping has the word under the first of the three keys that is not empty. -/
def Carries (word : String) (entries : Entries) : Prop :=
  ∃ earlier key later, ["name", "label", "hex"] = earlier ++ key :: later ∧
    (∀ other ∈ earlier, ∀ value, entries.get? other = some value → value.isPresent = false) ∧
    entries.get? key = some (.str word)

inductive IsListOf (words : List String) : Value → Prop where
  | listed : IsListOf words (Value.strings words)
  | joined {cs : List Char} (whole : CommaJoined words cs) : IsListOf words (.str (String.ofList cs))
  | named {mappings : List Entries} (each : List.Forall₂ Carries words mappings) :
      IsListOf words (.list (mappings.map .mapping))

variable {word : String} {words : List String}

/-! ## Texts with commas -/

theorem IsPart.trimChars_eq (part : IsPart word) : trimChars word.toList = word.toList := by
  have trimmed := congrArg String.toList part.trimmed
  rwa [trim, String.toList_ofList] at trimmed

theorem IsPart.toList_ne_nil (part : IsPart word) : word.toList ≠ [] := by
  simpa using part.present

theorem not_mem_of_blank {cs : List Char} (blank : ∀ c ∈ cs, isBlank c = true) : ',' ∉ cs := by
  intro member
  exact absurd (blank ',' member) (by decide)

theorem nothing_blank : ∀ c ∈ ([] : List Char), isBlank c = true := by simp

theorem trim_padded (part : IsPart word) {before after : List Char}
    (blankBefore : ∀ c ∈ before, isBlank c = true) (blankAfter : ∀ c ∈ after, isBlank c = true) :
    trim (String.ofList (before ++ word.toList ++ after)) = word := by
  rw [trim, String.toList_ofList, trimChars_padded blankBefore blankAfter, part.trimChars_eq,
    String.ofList_toList]

theorem map_trim_splitChar (parts : ∀ word ∈ words, IsPart word) {cs before : List Char}
    (joined : CommaJoined words cs) (blank : ∀ c ∈ before, isBlank c = true) :
    (splitChar ',' (before ++ cs)).map (fun piece => trim (String.ofList piece)) = words := by
  induction joined generalizing before with
  | last word =>
      have part := parts word (by simp)
      have whole : ',' ∉ before ++ word.toList := by
        simp [not_mem_of_blank blank, part.unbroken]
      rw [splitChar_eq_singleton whole, List.map_singleton]
      simpa using trim_padded part blank nothing_blank
  | @next word words trailing leading rest blankBefore blankAfter joined ih =>
      have part := parts word (by simp)
      have whole : ',' ∉ before ++ word.toList ++ trailing := by
        simp [not_mem_of_blank blank, part.unbroken, not_mem_of_blank blankBefore]
      have ahead : before ++ (word.toList ++ trailing ++ ',' :: (leading ++ rest)) =
          (before ++ word.toList ++ trailing) ++ ',' :: (leading ++ rest) := by
        simp only [List.append_assoc]
      rw [ahead, splitChar_append whole, List.map_cons, trim_padded part blank blankBefore,
        ih (fun word member => parts word (by simp [member])) blankAfter]

theorem commaParts_of_joined (parts : ∀ word ∈ words, IsPart word) {cs : List Char}
    (joined : CommaJoined words cs) : commaParts (String.ofList cs) = words := by
  have cut := map_trim_splitChar parts joined nothing_blank
  rw [List.nil_append] at cut
  rw [commaParts, split, List.map_map, String.toList_ofList, Function.comp_def, cut,
    List.filter_eq_self]
  intro word member
  simpa using (parts word member).present

/-! ## Mappings -/

theorem firstPresent_of_earlier {earlier later : List (Option Value)} {value : Value}
    (absent : ∀ other ∈ earlier, ∀ found, other = some found → found.isPresent = false)
    (present : value.isPresent = true) :
    firstPresent (earlier ++ some value :: later) = some value := by
  induction earlier with
  | nil =>
      cases later with
      | nil => rfl
      | cons next later => simp [firstPresent, present]
  | cons other earlier ih =>
      obtain ⟨next, rest, more⟩ : ∃ next rest, earlier ++ some value :: later = next :: rest := by
        cases earlier <;> exact ⟨_, _, rfl⟩
      have ih := ih fun other member => absent other (by simp [member])
      rw [List.cons_append]
      rw [more] at ih ⊢
      cases other with
      | none => exact ih
      | some found =>
          have hidden := absent (some found) (by simp) found rfl
          simpa [firstPresent, hidden] using ih

theorem memberText?_of_carries {entries : Entries} (part : IsPart word)
    (carries : Carries word entries) : memberText? (.mapping entries) = some word := by
  obtain ⟨earlier, key, later, keys, absent, held⟩ := carries
  have present : (Value.str word).isPresent = true := by
    simp [Value.isPresent, part.present]
  rw [memberText?, keys, List.map_append, List.map_cons, held,
    firstPresent_of_earlier (List.forall_mem_map.mpr absent) present]
  rfl

theorem filterMap_memberText? (parts : ∀ word ∈ words, IsPart word) {mappings : List Entries}
    (each : List.Forall₂ Carries words mappings) :
    (mappings.map Value.mapping).filterMap memberText? = words := by
  induction each with
  | nil => rfl
  | cons carries _ ih =>
      rw [List.map_cons, List.filterMap_cons, memberText?_of_carries (parts _ (by simp)) carries,
        ih fun word member => parts word (by simp [member])]

/-! ## Lists -/

theorem texts?_strings_of_ne_nil (shown : words ≠ []) :
    texts? (Value.strings words) = some words :=
  (texts?_strings words).trans (nonEmpty_eq_some.mpr ⟨rfl, shown⟩)

theorem texts?_of_isListOf (parts : ∀ word ∈ words, IsPart word) (shown : words ≠ [])
    {value : Value} (shape : IsListOf words value) : texts? value = some words := by
  cases shape with
  | listed => exact texts?_strings_of_ne_nil shown
  | joined whole =>
      rw [texts?, commaParts_of_joined parts whole, nonEmpty_eq_some]
      exact ⟨rfl, shown⟩
  | named each =>
      rw [texts?, filterMap_memberText? parts each, nonEmpty_eq_some]
      exact ⟨rfl, shown⟩

/-! ## Texts -/

theorem IsPart.trimLeft_eq (part : IsPart word) : trimLeft word.toList = word.toList := by
  rw [← part.trimChars_eq, trimLeft_trimChars]

theorem IsPart.trimRight_eq (part : IsPart word) : trimRight word.toList = word.toList := by
  have trimmed := part.trimChars_eq
  rwa [trimChars, part.trimLeft_eq] at trimmed

theorem CommaJoined.ne_nil (parts : ∀ word ∈ words, IsPart word) {cs : List Char}
    (joined : CommaJoined words cs) : cs ≠ [] := by
  cases joined with
  | last word => exact (parts word (by simp)).toList_ne_nil
  | next => simp

theorem CommaJoined.trimLeft_eq (parts : ∀ word ∈ words, IsPart word) {cs : List Char}
    (joined : CommaJoined words cs) : trimLeft cs = cs := by
  cases joined with
  | last word => exact (parts word (by simp)).trimLeft_eq
  | next word _ _ _ =>
      have part := parts word (by simp)
      rw [List.append_assoc]
      exact trimLeft_append part.trimLeft_eq part.toList_ne_nil

theorem CommaJoined.trimRight_eq (parts : ∀ word ∈ words, IsPart word) {cs : List Char}
    (joined : CommaJoined words cs) : trimRight cs = cs := by
  induction joined with
  | last word => exact (parts word (by simp)).trimRight_eq
  | @next word words before after rest _ _ joined ih =>
      have later (other : String) (member : other ∈ words) : IsPart other :=
        parts other (by simp [member])
      have ahead : word.toList ++ before ++ ',' :: (after ++ rest) =
          (word.toList ++ before ++ ',' :: after) ++ rest := by
        simp only [List.append_assoc, List.cons_append]
      rw [ahead]
      exact trimRight_append_self (ih later) (joined.ne_nil later)

theorem commaJoined_intercalate (shown : words ≠ []) :
    CommaJoined words (", ".intercalate words).toList := by
  induction words with
  | nil => exact absurd rfl shown
  | cons word words ih =>
      cases words with
      | nil => simpa using CommaJoined.last word
      | cons next words =>
          have rest := ih (List.cons_ne_nil next words)
          have whole := CommaJoined.next word nothing_blank
            (List.forall_mem_singleton.mpr (show isBlank ' ' = true by decide)) rest
          simpa [String.intercalate_cons_cons] using whole

theorem intercalate_ne_empty (parts : ∀ word ∈ words, IsPart word) (shown : words ≠ []) :
    ", ".intercalate words ≠ "" := by
  intro empty
  exact (commaJoined_intercalate shown).ne_nil parts (by rw [empty]; rfl)

theorem text?_intercalate (parts : ∀ word ∈ words, IsPart word) (shown : words ≠ []) :
    text? (.str (", ".intercalate words)) = some (", ".intercalate words) := by
  have joined := commaJoined_intercalate shown
  rw [text?, trim, trimChars, joined.trimLeft_eq parts, joined.trimRight_eq parts,
    String.ofList_toList, nonBlank?_eq_some]
  exact ⟨rfl, intercalate_ne_empty parts shown⟩

theorem text?_strings (parts : ∀ word ∈ words, IsPart word) (shown : words ≠ []) :
    text? (Value.strings words) = some (", ".intercalate words) := by
  rw [Value.strings, text?, ← Value.strings, texts?_strings_of_ne_nil shown, Option.bind_some,
    nonBlank?_eq_some]
  exact ⟨rfl, intercalate_ne_empty parts shown⟩

end Coercion

/-! ## Payloads that differ in one place -/

namespace Value

/-- The values hold the same on every path that neither leads to the spelling nor goes on from it. -/
def AgreesBeside (spelling : Spelling) (raw other : Value) : Prop :=
  ∀ path : Spelling, ¬ path <+: spelling → ¬ spelling <+: path → raw.at? path = other.at? path

theorem agreesBeside_nil (raw other : Value) : AgreesBeside [] raw other :=
  fun path _ apart => absurd (List.nil_prefix (l := path)) apart

theorem AgreesBeside.entry {key : String} {rest : Spelling} {a b : Value} {before after : Entries}
    (fresh : ∀ entry ∈ before, entry.1 ≠ key) (inner : AgreesBeside rest a b) :
    AgreesBeside (key :: rest) (.mapping (before ++ (key, a) :: after))
      (.mapping (before ++ (key, b) :: after)) := by
  have skipped (name : String) (found : Value) :
      Entries.get? (before ++ (key, found) :: after) name =
        if name = key then some found else Entries.get? (before ++ after) name := by
    have nowhere : (before.find? fun entry => entry.1 == key) = none := by
      simpa [List.find?_eq_none] using fresh
    by_cases same : name = key
    · subst same
      simp [Entries.get?, List.find?_append, nowhere]
    · simp [Entries.get?, List.find?_append, Ne.symm same, same]
  intro path short long
  cases path with
  | nil => exact absurd List.nil_prefix short
  | cons name path =>
      rw [List.cons_prefix_cons, not_and] at short long
      change (Entries.get? _ name).bind (at? path) = (Entries.get? _ name).bind (at? path)
      rw [skipped, skipped]
      split
      next same => exact inner path (short same) (long same.symm)
      next => rfl

end Value

/-! ## Fields -/

namespace SchemaField

open VisualSchema

variable {field other : SchemaField} {spelling path : Spelling} {words : List String}
  {value : Value}

def all : List SchemaField :=
  [.primary, .secondary, .emotion, .lighting, .colors, .depthLayers, .focus, .perspective, .style,
    .dominantColors, .contrastRatio, .complexityScore, .focalPoints, .segmentation]

theorem mem_all (field : SchemaField) : field ∈ all := by
  cases field <;> decide

def spelled : List (SchemaField × Spelling) :=
  all.flatMap fun field => field.spellings.map fun spelling => (field, spelling)

theorem mem_spelled (member : spelling ∈ field.spellings) : (field, spelling) ∈ spelled :=
  List.mem_flatMap.mpr ⟨field, mem_all field, List.mem_map_of_mem member⟩

theorem spelled_apart : spelled.Pairwise fun a b => ¬ a.2 <+: b.2 ∧ ¬ b.2 <+: a.2 := by decide

/-- No spelling lies on the way of another one. -/
theorem eq_or_apart (member : spelling ∈ field.spellings) (member' : path ∈ other.spellings) :
    (other = field ∧ path = spelling) ∨ ¬ path <+: spelling ∧ ¬ spelling <+: path := by
  have : Std.Symm fun a b : SchemaField × Spelling => ¬ a.2 <+: b.2 ∧ ¬ b.2 <+: a.2 :=
    ⟨fun _ _ apart => apart.symm⟩
  by_cases same : (other, path) = (field, spelling)
  · exact .inl (Prod.mk.inj same)
  · exact .inr (spelled_apart.forall (mem_spelled member') (mem_spelled member) same)

def listFields : List SchemaField := [.primary, .secondary, .colors, .depthLayers, .dominantColors]

/-- A value that stands for the words in a field: any shape of their list, or in a field with one
text the list or the words joined. -/
inductive Tells (words : List String) : SchemaField → Value → Prop where
  | list {field : SchemaField} {value : Value} (listed : field ∈ listFields)
      (shape : Coercion.IsListOf words value) : Tells words field value
  | texts {field : SchemaField} (worded : field ∈ textFields) :
      Tells words field (Value.strings words)
  | text {field : SchemaField} (worded : field ∈ textFields) :
      Tells words field (.str (", ".intercalate words))

def told (words : List String) : (field : SchemaField) → Option field.Content
  | .primary | .secondary | .depthLayers => some words
  | .colors | .dominantColors => some (words.map Coercion.color)
  | .emotion | .lighting | .focus | .perspective | .style => some (", ".intercalate words)
  | .contrastRatio | .complexityScore => none
  | .focalPoints => none
  | .segmentation => none

theorem coerce_of_tells (parts : ∀ word ∈ words, Coercion.IsPart word) (shown : words ≠ [])
    (tells : Tells words field value) : field.coerce value = .ok (field.told words) := by
  cases tells with
  | list listed shape =>
      have read := Coercion.texts?_of_isListOf parts shown shape
      simp only [listFields, List.mem_cons, List.not_mem_nil, or_false] at listed
      rcases listed with rfl | rfl | rfl | rfl | rfl <;> simp [coerce, told, read]
  | texts worded =>
      have read := Coercion.text?_strings parts shown
      simp only [textFields, List.mem_cons, List.not_mem_nil, or_false] at worded
      rcases worded with rfl | rfl | rfl | rfl | rfl <;> simp [coerce, told, read]
  | text worded =>
      have read := Coercion.text?_intercalate parts shown
      simp only [textFields, List.mem_cons, List.not_mem_nil, or_false] at worded
      rcases worded with rfl | rfl | rfl | rfl | rfl <;> simp [coerce, told, read]

end SchemaField

namespace VisualSchema

open SchemaField

theorem normalize_congr {raw other : Value}
    (each : ∀ field : SchemaField, resolveM raw field.coerce field.spellings =
      resolveM other field.coerce field.spellings) :
    normalize raw = normalize other := by
  symm
  rcases outcome : normalize raw with fault | schema
  · obtain ⟨rfl, field, overflows⟩ := normalize_eq_error_iff.mp outcome
    have failed := (resolveM_eq_error_iff field).mpr ⟨rfl, overflows⟩
    rw [each] at failed
    exact normalize_eq_error_iff.mpr ⟨rfl, field, ((resolveM_eq_error_iff field).mp failed).2⟩
  · rw [normalize_eq_ok_iff_resolves]
    intro field
    rw [resolves_iff, ← each]
    exact resolves_iff.mp (resolves_of_normalize outcome field)

/-- Under any spelling of a field, payloads may hold the same words in any of their shapes: the field
takes them for the same, and the schema is the same. -/
theorem normalize_exchange {field : SchemaField} {spelling : Spelling} {words : List String}
    {raw other value value' : Value} (member : spelling ∈ field.spellings)
    (parts : ∀ word ∈ words, Coercion.IsPart word) (shown : words ≠ [])
    (tells : Tells words field value) (tells' : Tells words field value')
    (held : raw.at? spelling = some value) (held' : other.at? spelling = some value')
    (beside : raw.AgreesBeside spelling other) :
    field.coerce value = .ok (field.told words) ∧ field.coerce value' = .ok (field.told words) ∧
      normalize raw = normalize other := by
  have read := coerce_of_tells parts shown tells
  have read' := coerce_of_tells parts shown tells'
  refine ⟨read, read', normalize_congr fun own => resolveM_congr_map fun path member' => ?_⟩
  rcases eq_or_apart member member' with ⟨rfl, rfl⟩ | ⟨short, long⟩
  · rw [held, held', Option.map_some, Option.map_some, read, read']
  · rw [beside path short long]

def joinedPayload : Value :=
  .mapping [("style", .str "flat"), ("scene", .mapping [("mood", .str "calm"),
    ("colors", .str "FF0000 ,\tdeep sea")])]

def namedPayload : Value :=
  .mapping [("style", .str "flat"), ("scene", .mapping [("mood", .str "calm"),
    ("colors", .list [.mapping [("hex", .str "FF0000")],
      .mapping [("name", .str ""), ("label", .str "deep sea")]])])]

theorem joinedPayload_agreesBeside :
    joinedPayload.AgreesBeside ["scene", "colors"] namedPayload := by
  have style : ∀ entry ∈ [("style", Value.str "flat")], entry.1 ≠ "scene" := by simp
  have mood : ∀ entry ∈ [("mood", Value.str "calm")], entry.1 ≠ "colors" := by simp
  exact .entry style (.entry mood (Value.agreesBeside_nil _ _))

theorem joinedColors_told : Tells ["FF0000", "deep sea"] .colors (.str "FF0000 ,\tdeep sea") := by
  have space : ∀ c ∈ [' '], isBlank c = true := List.forall_mem_singleton.mpr (by decide)
  have tab : ∀ c ∈ ['\t'], isBlank c = true := List.forall_mem_singleton.mpr (by decide)
  have whole := Coercion.CommaJoined.next "FF0000" space tab (.last "deep sea")
  exact .list (by decide) (.joined whole)

theorem namedColors_told :
    Tells ["FF0000", "deep sea"] .colors (.list [.mapping [("hex", .str "FF0000")],
      .mapping [("name", .str ""), ("label", .str "deep sea")]]) := by
  have first : Coercion.Carries "FF0000" [("hex", .str "FF0000")] :=
    ⟨["name", "label"], "hex", [], rfl, by simp [Entries.get?], rfl⟩
  have second : Coercion.Carries "deep sea" [("name", .str ""), ("label", .str "deep sea")] :=
    ⟨["name"], "label", ["hex"], rfl, by simp [Entries.get?, Value.isPresent], rfl⟩
  exact .list (by decide) (.named (.cons first (.cons second .nil)))

/-- The two payloads have the same colours for their schema. -/
theorem joinedPayload_exchange :
    (∀ word ∈ ["FF0000", "deep sea"], Coercion.IsPart word) ∧
    joinedPayload.at? ["scene", "colors"] = some (.str "FF0000 ,\tdeep sea") ∧
    joinedPayload.AgreesBeside ["scene", "colors"] namedPayload ∧
    normalize joinedPayload = normalize namedPayload := by
  have parts : ∀ word ∈ ["FF0000", "deep sea"], Coercion.IsPart word := by
    simp only [List.forall_mem_cons]
    exact ⟨⟨by decide, by decide, by decide⟩, ⟨by decide, by decide, by decide⟩, by simp⟩
  have spelled : ["scene", "colors"] ∈ SchemaField.colors.spellings := by decide
  exact ⟨parts, rfl, joinedPayload_agreesBeside,
    (normalize_exchange spelled parts (by simp) joinedColors_told namedColors_told rfl rfl
      joinedPayload_agreesBeside).2.2⟩

end VisualSchema

end StillMotion
