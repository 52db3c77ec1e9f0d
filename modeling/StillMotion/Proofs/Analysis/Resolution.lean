import StillMotion.Proofs.Analysis.Usable
import StillMotion.Proofs.Data.RoundTrip
import StillMotion.Proofs.Number.Bits
import StillMotion.Proofs.Number.FreeText
import StillMotion.Proofs.Text.Search

/-!
# The resolution of fields

A field of a schema is decided by the first of its spellings under which a payload holds something
usable.  Spellings without a value and values that cannot be used are passed over alike, and the
standard value stands in when there is nothing else.  The one value that is neither used nor passed
over is an integer that is too large for a double.
-/

namespace StillMotion

open StillMotion.Number StillMotion.Text

/-! ## Spellings in order -/

section Order

variable {α : Type}

/-- There is nothing under the spelling, or nothing that can be used. -/
def Misses (coerce : Value → Except ArithmeticFault (Option α)) (raw : Value)
    (spelling : Spelling) : Prop :=
  ∀ value, raw.at? spelling = some value → coerce value = .ok none

/-- The value is the one under the first spelling that does not miss. -/
def Meets (coerce : Value → Except ArithmeticFault (Option α)) (raw : Value)
    (spellings : List Spelling) (value : Value) : Prop :=
  ∃ before spelling after, spellings = before ++ spelling :: after ∧
    (∀ earlier ∈ before, Misses coerce raw earlier) ∧ raw.at? spelling = some value ∧
    coerce value ≠ .ok none

variable {coerce : Value → Except ArithmeticFault (Option α)} {raw value : Value}
  {spelling : Spelling} {spellings : List Spelling}

theorem Meets.usable (met : Meets coerce raw spellings value) : coerce value ≠ .ok none := by
  obtain ⟨_, _, _, _, _, _, usable⟩ := met
  exact usable

theorem misses_of_absent (absent : raw.at? spelling = none) : Misses coerce raw spelling := by
  intro value present
  rw [absent] at present
  cases present

theorem misses_of_at? (present : raw.at? spelling = some value) (unusable : coerce value = .ok none) :
    Misses coerce raw spelling := by
  intro other found
  rw [present] at found
  cases found
  exact unusable

theorem resolveM_cons_of_misses (missed : Misses coerce raw spelling) :
    resolveM raw coerce (spelling :: spellings) = resolveM raw coerce spellings := by
  rw [resolveM]
  split
  next => rfl
  next value present =>
      rw [missed value present]
      rfl

theorem resolveM_cons_of_meets (present : raw.at? spelling = some value)
    (usable : coerce value ≠ .ok none) :
    resolveM raw coerce (spelling :: spellings) = coerce value := by
  simp only [resolveM, present]
  rcases outcome : coerce value with fault | _ | a
  · rfl
  · exact absurd outcome usable
  · rfl

theorem resolveM_of_misses (missed : ∀ spelling ∈ spellings, Misses coerce raw spelling) :
    resolveM raw coerce spellings = .ok none := by
  induction spellings with
  | nil => rfl
  | cons spelling rest ih =>
      rw [resolveM_cons_of_misses (missed spelling (by simp))]
      exact ih fun later member => missed later (by simp [member])

theorem resolveM_of_meets (met : Meets coerce raw spellings value) :
    resolveM raw coerce spellings = coerce value := by
  obtain ⟨before, spelling, after, rfl, missed, present, usable⟩ := met
  induction before with
  | nil => exact resolveM_cons_of_meets present usable
  | cons earlier before ih =>
      rw [List.cons_append, resolveM_cons_of_misses (missed earlier (by simp))]
      exact ih fun other member => missed other (by simp [member])

theorem misses_or_meets (coerce : Value → Except ArithmeticFault (Option α)) (raw : Value)
    (spellings : List Spelling) :
    (∀ spelling ∈ spellings, Misses coerce raw spelling) ∨
      ∃ value, Meets coerce raw spellings value := by
  induction spellings with
  | nil => exact .inl (by simp)
  | cons spelling rest ih =>
      by_cases missed : Misses coerce raw spelling
      · rcases ih with all | ⟨value, before, later, after, rfl, earlier, met⟩
        · exact .inl (List.forall_mem_cons.mpr ⟨missed, all⟩)
        · exact .inr ⟨value, spelling :: before, later, after, rfl,
            List.forall_mem_cons.mpr ⟨missed, earlier⟩, met⟩
      · unfold Misses at missed
        push Not at missed
        obtain ⟨value, present, usable⟩ := missed
        exact .inr ⟨value, [], spelling, rest, rfl, by simp, present, usable⟩

/-- What the spellings give is what the first of them that does not miss gives. -/
theorem resolveM_eq_iff {outcome : Except ArithmeticFault (Option α)} :
    resolveM raw coerce spellings = outcome ↔
      (∃ value, Meets coerce raw spellings value ∧ coerce value = outcome) ∨
        (∀ spelling ∈ spellings, Misses coerce raw spelling) ∧ outcome = .ok none := by
  constructor
  · rintro rfl
    rcases misses_or_meets coerce raw spellings with missed | ⟨value, met⟩
    · exact .inr ⟨missed, resolveM_of_misses missed⟩
    · exact .inl ⟨value, met, (resolveM_of_meets met).symm⟩
  · rintro (⟨value, met, rfl⟩ | ⟨missed, rfl⟩)
    · exact resolveM_of_meets met
    · exact resolveM_of_misses missed

theorem resolveM_congr_map {other : Value}
    (agree : ∀ spelling ∈ spellings, (raw.at? spelling).map coerce = (other.at? spelling).map coerce) :
    resolveM raw coerce spellings = resolveM other coerce spellings := by
  induction spellings with
  | nil => rfl
  | cons spelling rest ih =>
      have first := agree spelling (by simp)
      have later := ih fun later member => agree later (by simp [member])
      rw [resolveM, resolveM, later]
      cases left : raw.at? spelling <;> cases right : other.at? spelling <;>
        simp_all only [Option.map_some, Option.map_none, Option.some.injEq, reduceCtorEq]

theorem resolveM_congr {other : Value}
    (agree : ∀ spelling ∈ spellings, raw.at? spelling = other.at? spelling) :
    resolveM raw coerce spellings = resolveM other coerce spellings :=
  resolveM_congr_map fun spelling member => congrArg _ (agree spelling member)

theorem resolveM_ok (raw : Value) (coerce : Value → Option α) (spellings : List Spelling) :
    resolveM raw (fun value => .ok (coerce value)) spellings = .ok (resolve raw coerce spellings) := by
  induction spellings with
  | nil => rfl
  | cons spelling rest ih =>
      unfold resolve at ih ⊢
      rw [resolveM, List.findSome?_cons]
      cases raw.at? spelling with
      | none => exact ih
      | some value =>
          rw [Option.bind_some]
          cases found : coerce value with
          | none => simpa [bind, Except.bind, found] using ih
          | some a => simp [bind, Except.bind, found]

theorem resolve_map {β : Type} (raw : Value) (coerce : Value → Option α) (f : α → β)
    (spellings : List Spelling) :
    resolve raw (fun value => (coerce value).map f) spellings =
      (resolve raw coerce spellings).map f := by
  unfold resolve
  rw [List.map_findSome?]
  congr 1
  funext spelling
  exact (Option.map_bind).symm

end Order

/-! ## Values that no field can use -/

/-- Anything but numbers, texts that are not blank, and lists with a text or a mapping in them. -/
def Value.IsUnusable : Value → Prop
  | .int _ | .float _ => False
  | .str s => trim s = ""
  | .list items => ∀ item ∈ items, item.str? = none ∧ item.mapping? = none
  | _ => True

namespace Coercion

theorem commaParts_of_blank {s : String} (blank : trim s = "") : commaParts s = [] := by
  rw [trim_eq_empty] at blank
  rw [commaParts, List.filter_eq_nil_iff]
  intro part member
  obtain ⟨piece, inside, rfl⟩ := List.mem_map.mp member
  obtain ⟨cs, between, rfl⟩ := List.mem_map.mp inside
  have empty : trim (String.ofList cs) = "" := by
    rw [trim_eq_empty, String.toList_ofList]
    exact fun c here => blank c (mem_of_mem_splitChar between here)
  simp [empty]

theorem memberText?_eq_none {item : Value} (other : item.str? = none ∧ item.mapping? = none) :
    memberText? item = none := by
  cases item with
  | str s => cases other.1
  | mapping entries => cases other.2
  | _ => rfl

theorem texts?_of_isUnusable {value : Value} (unusable : value.IsUnusable) :
    texts? value = none := by
  cases value with
  | str s =>
      rw [texts?, commaParts_of_blank unusable]
      rfl
  | list items =>
      have nothing : items.filterMap memberText? = [] :=
        List.filterMap_eq_nil_iff.mpr fun item member => memberText?_eq_none (unusable item member)
      rw [texts?, nothing]
      rfl
  | _ => rfl

theorem text?_of_isUnusable {value : Value} (unusable : value.IsUnusable) : text? value = none := by
  cases value with
  | str s =>
      have blank : trim s = "" := unusable
      rw [text?, blank]
      rfl
  | list items =>
      rw [text?, texts?_of_isUnusable unusable]
      rfl
  | _ => rfl

theorem number?_of_isUnusable {value : Value} (unusable : value.IsUnusable) :
    number? value = .ok none := by
  cases value with
  | int n => cases unusable
  | float x => cases unusable
  | str s => rw [number?, freeReal?_of_blank (trim_eq_empty.mp unusable)]
  | _ => rfl

end Coercion

theorem focalPoints?_of_isUnusable {value : Value} (unusable : value.IsUnusable) :
    focalPoints? value = .ok none := by
  cases value with
  | list items =>
      have each : items.mapM focalPoint? = .ok (items.map fun _ => none) := by
        rw [Except.mapM_eq_ok_iff, List.forall₂_map_right_iff, List.forall₂_same]
        intro item member
        have other := unusable item member
        cases item with
        | mapping entries => cases other.2
        | _ => rfl
      have nothing : ((items.map fun _ => (none : Option FocalPoint)).filterMap fun point => point) =
          [] := by
        simp
      rw [focalPoints?, each, Except.ok_bind, nothing]
      rfl
  | _ => rfl

theorem segments?_of_isUnusable {value : Value} (unusable : value.IsUnusable) :
    segments? value = none := by
  cases value with
  | list items =>
      have nothing : items.filterMap segment? = [] := by
        rw [List.filterMap_eq_nil_iff]
        intro item member
        have other := unusable item member
        cases item with
        | str s => cases other.1
        | mapping entries => cases other.2
        | _ => rfl
      rw [segments?, nothing]
      rfl
  | _ => rfl

/-! ## Integers that are too large -/

/-- An integer that no double is near to. -/
def Value.IsTooLarge : Value → Prop
  | .int n => integerBound ≤ n.natAbs
  | _ => False

def Entries.TooLargeAt (entries : Entries) (key : String) : Prop :=
  ∃ value, entries.get? key = some value ∧ value.IsTooLarge

def Entries.NumberAt (entries : Entries) (key : String) : Prop :=
  ∃ x, numberAt entries key = .ok (some x)

/-- A mapping with a coordinate that is too large, or with two coordinates and a weight that is. -/
def Value.HasTooLargePart : Value → Prop
  | .mapping entries =>
      Entries.TooLargeAt entries "x" ∨ Entries.TooLargeAt entries "y" ∨
        Entries.NumberAt entries "x" ∧ Entries.NumberAt entries "y" ∧
          Entries.TooLargeAt entries "weight"
  | _ => False

theorem Coercion.number?_eq_error_iff {value : Value} {fault : ArithmeticFault} :
    number? value = .error fault ↔ fault = .integerTooLarge ∧ value.IsTooLarge := by
  cases value with
  | int n =>
      have large := ofInt?_eq_none_iff (n := n)
      change (Double.ofInt? n).map some = _ ↔ _ ∧ integerBound ≤ n.natAbs
      rw [Except.map_eq_error, Double.ofInt?, ← large]
      cases Number.ofInt? n with
      | none => simp [eq_comm]
      | some x => simp
  | _ => exact iff_of_false nofun fun h => h.2

theorem Coercion.number?_int {n : Int} (within : n.natAbs < integerBound) :
    number? (.int n) = .ok (some (ofInt n)) := by
  have some : Number.ofInt? n = some (ofInt n) := by
    have near : Number.ofInt? n ≠ none := fun none =>
      absurd (ofInt?_eq_none_iff.mp none) (not_le.mpr within)
    unfold Number.ofInt? at near ⊢
    dsimp only at near ⊢
    split
    next => rfl
    next infinite => exact absurd (if_neg infinite) near
  change (Double.ofInt? n).map Option.some = _
  rw [Double.ofInt?, some]
  rfl

theorem numberAt_eq_error_iff {entries : Entries} {key : String} {fault : ArithmeticFault} :
    numberAt entries key = .error fault ↔
      fault = .integerTooLarge ∧ Entries.TooLargeAt entries key := by
  unfold numberAt Entries.TooLargeAt
  cases Entries.get? entries key with
  | none => simp
  | some value => simpa using Coercion.number?_eq_error_iff

theorem focalPoint?_eq_error {value : Value} {fault : ArithmeticFault}
    (failed : focalPoint? value = .error fault) :
    fault = .integerTooLarge ∧ value.HasTooLargePart := by
  cases value with
  | mapping entries =>
      simp only [focalPoint?, Except.bind_eq_error] at failed
      rcases failed with first | ⟨x?, left, second | ⟨y?, above, third⟩⟩
      · exact (numberAt_eq_error_iff.mp first).imp_right .inl
      · exact (numberAt_eq_error_iff.mp second).imp_right fun large => .inr (.inl large)
      · rcases x? with _ | x
        · cases third
        · rcases y? with _ | y
          · cases third
          · rcases Except.bind_eq_error.mp third with heavy | ⟨weight, _, done⟩
            · exact (numberAt_eq_error_iff.mp heavy).imp_right fun large =>
                .inr (.inr ⟨⟨x, left⟩, ⟨y, above⟩, large⟩)
            · cases done
  | _ => cases failed

theorem focalPoint?_eq_error_iff {value : Value} {fault : ArithmeticFault} :
    focalPoint? value = .error fault ↔ fault = .integerTooLarge ∧ value.HasTooLargePart := by
  refine ⟨focalPoint?_eq_error, ?_⟩
  rintro ⟨rfl, large⟩
  rcases outcome : focalPoint? value with other | point
  · rw [(focalPoint?_eq_error outcome).1]
  · -- A point is read only when none of the numbers that it needs is too large.
    exfalso
    cases value with
    | mapping entries =>
        have fits {key : String} {found : Option Float} (read : numberAt entries key = .ok found) :
            ¬ Entries.TooLargeAt entries key := fun large => by
          rw [numberAt_eq_error_iff.mpr ⟨rfl, large⟩] at read
          cases read
        simp only [focalPoint?, Except.bind_eq_ok] at outcome
        obtain ⟨x?, left, y?, above, rest⟩ := outcome
        rcases large with large | large | ⟨⟨x, wide⟩, ⟨y, high⟩, large⟩
        · exact fits left large
        · exact fits above large
        · rw [left] at wide
          rw [above] at high
          cases wide
          cases high
          obtain ⟨weight, heavy, _⟩ := Except.bind_eq_ok.mp rest
          exact fits heavy large
    | _ => exact large

theorem focalPoints?_eq_error_iff {value : Value} {fault : ArithmeticFault} :
    focalPoints? value = .error fault ↔ fault = .integerTooLarge ∧
      ∃ items, value = .list items ∧ ∃ item ∈ items, item.HasTooLargePart := by
  cases value with
  | list items =>
      have collected : focalPoints? (.list items) = .error fault ↔
          items.mapM focalPoint? = .error fault := by
        rw [focalPoints?, Except.bind_eq_error]
        simp
      rw [collected, Except.mapM_eq_error_iff fun _ _ failed => (focalPoint?_eq_error failed).1]
      simp [focalPoint?_eq_error_iff]
  | _ =>
      constructor
      · intro failed
        cases failed
      · rintro ⟨_, _, same, _⟩
        cases same

/-! ## The fields of a schema -/

inductive SchemaField where
  | primary
  | secondary
  | emotion
  | lighting
  | colors
  | depthLayers
  | focus
  | perspective
  | style
  | dominantColors
  | contrastRatio
  | complexityScore
  | focalPoints
  | segmentation
deriving DecidableEq, Repr

namespace SchemaField

abbrev Content : SchemaField → Type
  | .primary | .secondary | .colors | .depthLayers | .dominantColors => List String
  | .emotion | .lighting | .focus | .perspective | .style => String
  | .contrastRatio | .complexityScore => Float
  | .focalPoints => List FocalPoint
  | .segmentation => List Entries

def spellings : SchemaField → List Spelling
  | .primary => Spellings.primary
  | .secondary => Spellings.secondary
  | .emotion => Spellings.emotion
  | .lighting => Spellings.lighting
  | .colors => Spellings.colors
  | .depthLayers => Spellings.depthLayers
  | .focus => Spellings.focus
  | .perspective => Spellings.perspective
  | .style => Spellings.style
  | .dominantColors => Spellings.dominantColors
  | .contrastRatio => Spellings.contrastRatio
  | .complexityScore => Spellings.complexityScore
  | .focalPoints => Spellings.focalPoints
  | .segmentation => Spellings.segmentation

/-- What a field makes of a value; the colours of the two colour fields in canonical form. -/
def coerce : (field : SchemaField) → Value → Except ArithmeticFault (Option field.Content)
  | .primary, value => .ok (Coercion.texts? value)
  | .secondary, value => .ok (Coercion.texts? value)
  | .emotion, value => .ok (Coercion.text? value)
  | .lighting, value => .ok (Coercion.text? value)
  | .colors, value => .ok ((Coercion.texts? value).map (·.map Coercion.color))
  | .depthLayers, value => .ok (Coercion.texts? value)
  | .focus, value => .ok (Coercion.text? value)
  | .perspective, value => .ok (Coercion.text? value)
  | .style, value => .ok (Coercion.text? value)
  | .dominantColors, value => .ok ((Coercion.texts? value).map (·.map Coercion.color))
  | .contrastRatio, value => Coercion.number? value
  | .complexityScore, value => Coercion.number? value
  | .focalPoints, value => focalPoints? value
  | .segmentation, value => .ok (segments? value)

def value : (field : SchemaField) → VisualSchema → field.Content
  | .primary, schema => schema.elements.primary
  | .secondary, schema => schema.elements.secondary
  | .emotion, schema => schema.scene.emotion
  | .lighting, schema => schema.scene.lighting
  | .colors, schema => schema.scene.colors
  | .depthLayers, schema => schema.scene.depthLayers
  | .focus, schema => schema.composition.focus
  | .perspective, schema => schema.composition.perspective
  | .style, schema => schema.composition.style
  | .dominantColors, schema => schema.visualAnalysis.dominantColors
  | .contrastRatio, schema => schema.visualAnalysis.contrastRatio
  | .complexityScore, schema => schema.visualAnalysis.complexityScore
  | .focalPoints, schema => schema.visualAnalysis.focalPoints
  | .segmentation, schema => schema.visualAnalysis.segmentation

/-- The value of a field for which nothing usable is found: that of the dominant colours is taken
from the colours of the scene. -/
def standard : (field : SchemaField) → VisualSchema → field.Content
  | .primary, _ => ["subject"]
  | .secondary, _ => []
  | .emotion, _ => SceneFacts.standard.emotion
  | .lighting, _ => SceneFacts.standard.lighting
  | .colors, _ => SceneFacts.standard.colors
  | .depthLayers, _ => []
  | .focus, _ => SceneComposition.standard.focus
  | .perspective, _ => SceneComposition.standard.perspective
  | .style, _ => SceneComposition.standard.style
  | .dominantColors, schema => schema.scene.colors
  | .contrastRatio, _ => VisualAnalysis.standard.contrastRatio
  | .complexityScore, _ => VisualAnalysis.standard.complexityScore
  | .focalPoints, _ => []
  | .segmentation, _ => []

def Unresolved (field : SchemaField) (raw : Value) : Prop :=
  ∀ spelling ∈ field.spellings, Misses field.coerce raw spelling

/-- A field has what the first spelling with something usable gives, or else its standard value. -/
def Resolves (field : SchemaField) (raw : Value) (schema : VisualSchema) : Prop :=
  (∃ value, Meets field.coerce raw field.spellings value ∧
    field.coerce value = .ok (some (field.value schema))) ∨
  field.Unresolved raw ∧ field.value schema = field.standard schema

def Agrees (field : SchemaField) (raw other : Value) : Prop :=
  ∀ spelling ∈ field.spellings, raw.at? spelling = other.at? spelling

def IsTooLarge : SchemaField → Value → Prop
  | .contrastRatio, value | .complexityScore, value => value.IsTooLarge
  | .focalPoints, value => ∃ items, value = .list items ∧ ∃ item ∈ items, item.HasTooLargePart
  | _, _ => False

/-- The first value that is not passed over is too large. -/
def Overflows (field : SchemaField) (raw : Value) : Prop :=
  ∃ value, Meets field.coerce raw field.spellings value ∧ field.IsTooLarge value

variable {field : SchemaField} {raw : Value} {schema : VisualSchema}

theorem coerce_of_isUnusable {value : Value} (field : SchemaField) (unusable : value.IsUnusable) :
    field.coerce value = .ok none := by
  have text := Coercion.text?_of_isUnusable unusable
  have texts := Coercion.texts?_of_isUnusable unusable
  have segments := segments?_of_isUnusable unusable
  cases field with
  | contrastRatio => exact Coercion.number?_of_isUnusable unusable
  | complexityScore => exact Coercion.number?_of_isUnusable unusable
  | focalPoints => exact focalPoints?_of_isUnusable unusable
  | _ => simp [coerce, text, texts, segments]

theorem coerce_eq_error_iff {value : Value} {fault : ArithmeticFault} :
    field.coerce value = .error fault ↔ fault = .integerTooLarge ∧ field.IsTooLarge value := by
  cases field with
  | contrastRatio => exact Coercion.number?_eq_error_iff
  | complexityScore => exact Coercion.number?_eq_error_iff
  | focalPoints => exact focalPoints?_eq_error_iff
  | _ => exact iff_of_false nofun fun h => h.2

theorem resolveM_eq_error_iff (field : SchemaField) {fault : ArithmeticFault} :
    resolveM raw field.coerce field.spellings = .error fault ↔
      fault = .integerTooLarge ∧ field.Overflows raw := by
  rw [resolveM_eq_iff]
  simp only [coerce_eq_error_iff, reduceCtorEq, and_false, or_false, Overflows]
  constructor
  · rintro ⟨value, met, same, large⟩
    exact ⟨same, value, met, large⟩
  · rintro ⟨same, value, met, large⟩
    exact ⟨value, met, same, large⟩

theorem resolves_iff :
    field.Resolves raw schema ↔
      ∃ found, resolveM raw field.coerce field.spellings = .ok found ∧
        found.getD (field.standard schema) = field.value schema := by
  constructor
  · rintro (⟨value, met, coerced⟩ | ⟨missed, same⟩)
    · exact ⟨some (field.value schema), (resolveM_of_meets met).trans coerced, rfl⟩
    · exact ⟨none, resolveM_of_misses missed, same.symm⟩
  · rintro ⟨found, resolved, same⟩
    rcases resolveM_eq_iff.mp resolved with ⟨value, met, coerced⟩ | ⟨missed, nothing⟩
    · cases found with
      | none => exact absurd coerced met.usable
      | some content =>
          rw [Option.getD_some] at same
          rw [same] at coerced
          exact .inl ⟨value, met, coerced⟩
    · cases nothing
      exact .inr ⟨missed, same.symm⟩

/-- Only the dominant colours take their standard value from the rest of the schema. -/
theorem standard_eq {other : VisualSchema} (fixed : field ≠ .dominantColors) :
    field.standard schema = field.standard other := by
  cases field with
  | dominantColors => exact absurd rfl fixed
  | _ => rfl

theorem value_eq_or_standard {other : Value} {schema' : VisualSchema}
    (agrees : field.Agrees raw other)
    (resolved : field.Resolves raw schema) (resolved' : field.Resolves other schema') :
    field.value schema = field.value schema' ∨ (field.Unresolved raw ∧ field.Unresolved other) ∧
      field.value schema = field.standard schema ∧ field.value schema' = field.standard schema' := by
  rcases resolved with ⟨value, met, coerced⟩ | ⟨missed, same⟩
  · obtain ⟨found, there, same'⟩ := resolves_iff.mp resolved'
    rw [← resolveM_congr agrees, resolveM_of_meets met, coerced] at there
    cases there
    exact .inl same'
  · have missed' : field.Unresolved other := fun spelling member value present =>
      missed spelling member value ((agrees spelling member).trans present)
    rcases resolved' with ⟨value, ⟨before, spelling, after, whole, _, present, usable⟩, _⟩ | ⟨_, same'⟩
    · exact absurd (missed' spelling (by simp [whole]) value present) usable
    · exact .inr ⟨⟨missed, missed'⟩, same, same'⟩

end SchemaField

namespace VisualSchema

open SchemaField

theorem eq_of_fields {schema schema' : VisualSchema}
    (each : ∀ field : SchemaField, field.value schema = field.value schema') : schema = schema' := by
  obtain ⟨⟨_, _⟩, ⟨_, _, _, _⟩, ⟨_, _, _⟩, ⟨_, _, _, _, _⟩⟩ := schema
  obtain ⟨⟨_, _⟩, ⟨_, _, _, _⟩, ⟨_, _, _⟩, ⟨_, _, _, _, _⟩⟩ := schema'
  cases each .primary
  cases each .secondary
  cases each .emotion
  cases each .lighting
  cases each .colors
  cases each .depthLayers
  cases each .focus
  cases each .perspective
  cases each .style
  cases each .dominantColors
  cases each .contrastRatio
  cases each .complexityScore
  cases each .focalPoints
  cases each .segmentation
  rfl

theorem eq_of_resolves {raw : Value} {schema schema' : VisualSchema}
    (resolved : ∀ field : SchemaField, field.Resolves raw schema)
    (resolved' : ∀ field : SchemaField, field.Resolves raw schema') : schema = schema' := by
  have fixed (field : SchemaField) (same : field.standard schema = field.standard schema') :
      field.value schema = field.value schema' := by
    rcases value_eq_or_standard (fun _ _ => rfl) (resolved field) (resolved' field) with
      one | ⟨-, left, right⟩
    · exact one
    · rw [left, right, same]
  refine eq_of_fields fun field => fixed field ?_
  -- The standard dominant colours are those of the scene, which have a standard value of their own.
  by_cases dominant : field = .dominantColors
  · subst dominant
    exact fixed .colors rfl
  · exact standard_eq dominant

theorem colorsOf_eq (raw : Value) :
    colorsOf raw =
      (resolve raw (fun value => (Coercion.texts? value).map (·.map Coercion.color))
        Spellings.colors).getD SceneFacts.standard.colors := by
  rw [resolve_map, colorsOf]
  cases resolve raw Coercion.texts? Spellings.colors <;> rfl

theorem dominantColorsOf_eq (raw : Value) :
    dominantColorsOf raw =
      (resolve raw (fun value => (Coercion.texts? value).map (·.map Coercion.color))
        Spellings.dominantColors).getD (colorsOf raw) := by
  rw [resolve_map, dominantColorsOf]
  cases resolve raw Coercion.texts? Spellings.dominantColors <;> rfl

theorem resolves_of_normalize {raw : Value} {schema : VisualSchema}
    (normalized : normalize raw = .ok schema) (field : SchemaField) :
    field.Resolves raw schema := by
  simp only [normalize, visualAnalysisOf, Except.bind_eq_ok, Except.ok.injEq] at normalized
  obtain ⟨_, ⟨contrast, found, complexity, found', points, found'', rfl⟩, rfl⟩ := normalized
  rw [resolves_iff]
  cases field with
  | contrastRatio => exact ⟨contrast, found, rfl⟩
  | complexityScore => exact ⟨complexity, found', rfl⟩
  | focalPoints => exact ⟨points, found'', rfl⟩
  | colors => exact ⟨_, resolveM_ok raw _ _, (colorsOf_eq raw).symm⟩
  | dominantColors => exact ⟨_, resolveM_ok raw _ _, (dominantColorsOf_eq raw).symm⟩
  | _ => exact ⟨_, resolveM_ok raw _ _, rfl⟩

theorem exists_normalize {raw : Value}
    (each : ∀ field : SchemaField, ∃ found, resolveM raw field.coerce field.spellings = .ok found) :
    ∃ schema, normalize raw = .ok schema := by
  obtain ⟨contrast, found⟩ := each .contrastRatio
  obtain ⟨complexity, found'⟩ := each .complexityScore
  obtain ⟨points, found''⟩ := each .focalPoints
  simp only [normalize, visualAnalysisOf, Except.bind_eq_ok, Except.ok.injEq]
  exact ⟨_, _, ⟨_, found, _, found', _, found'', rfl⟩, rfl⟩

theorem normalize_eq_ok_iff_resolves {raw : Value} {schema : VisualSchema} :
    normalize raw = .ok schema ↔ ∀ field : SchemaField, field.Resolves raw schema := by
  constructor
  · exact resolves_of_normalize
  · intro resolved
    obtain ⟨other, normalized⟩ := exists_normalize fun field =>
      (resolves_iff.mp (resolved field)).imp fun _ found => found.1
    rwa [eq_of_resolves resolved (resolves_of_normalize normalized)]

theorem normalize_eq_error {raw : Value} {fault : ArithmeticFault}
    (failed : normalize raw = .error fault) :
    fault = .integerTooLarge ∧ ∃ field : SchemaField, field.Overflows raw := by
  simp only [normalize, visualAnalysisOf, Except.bind_eq_error, reduceCtorEq, and_false,
    exists_false, or_false] at failed
  rcases failed with contrast | ⟨_, _, complexity | ⟨_, _, points⟩⟩
  · exact ((resolveM_eq_error_iff .contrastRatio).mp contrast).imp_right fun h => ⟨_, h⟩
  · exact ((resolveM_eq_error_iff .complexityScore).mp complexity).imp_right fun h => ⟨_, h⟩
  · exact ((resolveM_eq_error_iff .focalPoints).mp points).imp_right fun h => ⟨_, h⟩

theorem normalize_eq_error_iff {raw : Value} {fault : ArithmeticFault} :
    normalize raw = .error fault ↔
      fault = .integerTooLarge ∧ ∃ field : SchemaField, field.Overflows raw := by
  refine ⟨normalize_eq_error, ?_⟩
  rintro ⟨rfl, field, overflows⟩
  rcases outcome : normalize raw with other | schema
  · rw [(normalize_eq_error outcome).1]
  · obtain ⟨found, resolved, _⟩ := resolves_iff.mp (resolves_of_normalize outcome field)
    rw [(resolveM_eq_error_iff field).mpr ⟨rfl, overflows⟩] at resolved
    cases resolved

/-- The fields of a normalized payload are resolved each by its own spellings: what cannot be used
is passed over, numbers are used, zero with them, and payloads that agree at the spellings of a
field agree in the field, but for dominant colours that are taken from the scene. -/
theorem normalize_resolves {raw : Value} {schema : VisualSchema}
    (normalized : normalize raw = .ok schema) :
    (∀ field : SchemaField, field.Resolves raw schema) ∧
    (∀ (field : SchemaField) (value : Value), value.IsUnusable → field.coerce value = .ok none) ∧
    (∀ x : Float, Coercion.number? (.float x) = .ok (some x)) ∧
    (∀ n : Int, n.natAbs < integerBound → Coercion.number? (.int n) = .ok (some (ofInt n))) ∧
    ∀ (other : Value) (schema' : VisualSchema), normalize other = .ok schema' →
      ∀ field : SchemaField, field.Agrees raw other →
        field.value schema = field.value schema' ∨
        field = .dominantColors ∧ field.Unresolved raw ∧ field.Unresolved other ∧
          schema.visualAnalysis.dominantColors = schema.scene.colors ∧
          schema'.visualAnalysis.dominantColors = schema'.scene.colors := by
  refine ⟨resolves_of_normalize normalized, fun field value => field.coerce_of_isUnusable,
    fun x => rfl, fun n within => Coercion.number?_int within, ?_⟩
  intro other schema' normalized' field agrees
  rcases value_eq_or_standard agrees (resolves_of_normalize normalized field)
    (resolves_of_normalize normalized' field) with same | ⟨⟨missed, missed'⟩, left, right⟩
  · exact .inl same
  · by_cases dominant : field = .dominantColors
    · subst dominant
      exact .inr ⟨rfl, missed, missed', left, right⟩
    · exact .inl (left.trans ((standard_eq dominant).trans right.symm))

def blankPayload : Value :=
  .mapping [("scene", .mapping [("mood", .str " "), ("colors", .list [.int 3])]),
    ("mood", .str "tense"), ("style", .null), ("complexity", .float 0.0)]

def vividPayload : Value :=
  .mapping [("scene", .mapping [("mood", .str " "), ("colors", .list [.str "FF0000", .str "red"])]),
    ("mood", .str "tense"), ("lighting", .list [.str "neon"])]

def blankSchema : VisualSchema where
  elements := ⟨["subject"], []⟩
  scene := ⟨"tense", "natural", ["#000000", "#ffffff"], []⟩
  composition := ⟨"center", "eye-level", "photographic"⟩
  visualAnalysis := ⟨["#000000", "#ffffff"], 0.5, 0.0, [], []⟩

def vividSchema : VisualSchema where
  elements := ⟨["subject"], []⟩
  scene := ⟨"tense", "neon", ["#ff0000", "red"], []⟩
  composition := ⟨"center", "eye-level", "photographic"⟩
  visualAnalysis := ⟨["#ff0000", "red"], 0.5, 0.5, [], []⟩

theorem emotion_agrees : SchemaField.emotion.Agrees blankPayload vividPayload := by
  simp only [Agrees, spellings, Spellings.emotion, List.forall_mem_cons]
  exact ⟨rfl, rfl, rfl, rfl, rfl, by simp⟩

theorem dominantColors_agrees : SchemaField.dominantColors.Agrees blankPayload vividPayload := by
  simp only [Agrees, spellings, Spellings.dominantColors, List.forall_mem_cons]
  exact ⟨rfl, rfl, rfl, by simp⟩

/-- The two payloads are normalized to one mood, and to the colours of one scene each. -/
theorem blankPayload_resolves :
    normalize blankPayload = .ok blankSchema ∧ normalize vividPayload = .ok vividSchema ∧
    (∀ field : SchemaField, field.Resolves blankPayload blankSchema) ∧
    blankSchema.scene.emotion = vividSchema.scene.emotion ∧
    blankSchema.visualAnalysis.dominantColors = blankSchema.scene.colors ∧
    vividSchema.visualAnalysis.dominantColors = vividSchema.scene.colors := by
  have normalized : normalize blankPayload = .ok blankSchema := rfl
  obtain ⟨resolved, _, _, _, compared⟩ := normalize_resolves normalized
  have emotion := compared vividPayload vividSchema rfl .emotion emotion_agrees
  have dominantColors := compared vividPayload vividSchema rfl .dominantColors dominantColors_agrees
  refine ⟨normalized, rfl, resolved, ?_, ?_⟩
  · exact emotion.resolve_right fun other => nomatch other.1
  · rcases dominantColors with same | ⟨-, -, -, own⟩
    · exact absurd same (by decide)
    · exact own

/-- A payload is normalized unless a number that a field reads in it is too large for a double. -/
theorem normalize_outcome (raw : Value) :
    ((∃ schema, normalize raw = .ok schema) ↔ ∀ field : SchemaField, ¬ field.Overflows raw) ∧
    (normalize raw = .error .integerTooLarge ↔ ∃ field : SchemaField, field.Overflows raw) := by
  have failed : normalize raw = .error .integerTooLarge ↔
      ∃ field : SchemaField, field.Overflows raw := by
    rw [normalize_eq_error_iff, eq_self, true_and]
  refine ⟨?_, failed⟩
  rw [← not_exists, ← failed]
  rcases outcome : normalize raw with fault | schema
  · have only := (normalize_eq_error_iff.mp outcome).1
    simp [only]
  · simp

def tensePayload : Value :=
  .mapping [("mood", .str "tense"), ("contrast_ratio", .int integerBound)]

theorem tensePayload_overflows : SchemaField.contrastRatio.Overflows tensePayload := by
  have large : Value.IsTooLarge (.int integerBound) := Nat.le_refl integerBound
  have failed := Coercion.number?_eq_error_iff.mpr ⟨rfl, large⟩
  refine ⟨_, ⟨[["visual_analysis", "contrast_ratio"]], ["contrast_ratio"], [["contrast"]], rfl,
    List.forall_mem_singleton.mpr (misses_of_absent rfl), rfl, fun usable => ?_⟩, large⟩
  rw [coerce, failed] at usable
  cases usable

/-- Not every payload is normalized. -/
theorem not_all_exists_normalize :
    ¬ ∀ raw : Value, raw.isPlain = true → ∃ schema, normalize raw = .ok schema := by
  intro all
  obtain ⟨schema, normalized⟩ := all tensePayload rfl
  rw [normalize_eq_error_iff.mpr ⟨rfl, _, tensePayload_overflows⟩] at normalized
  cases normalized

end VisualSchema

end StillMotion
