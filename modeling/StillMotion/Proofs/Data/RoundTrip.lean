import Mathlib.Data.List.Nodup
import StillMotion.Data.Record

/-!
# Data that is read back

A codec restores a value when it reads back what it writes for it.  A record leaves out fields
without value and accepts a field under two names, so its fields are restored when their names
are apart from each other and a field without value is one that need not be given.
-/

namespace StillMotion

variable {α β ρ : Type}

/-! ## Plain data -/

namespace Value

mutual

/-- Data of the kinds that a document can hold: nothing, truth values, integers, finite numbers,
texts, and lists and mappings of such. -/
def isPlain : Value → Bool
  | .null | .bool _ | .int _ | .str _ => true
  | .float x => Number.isFinite x
  | .list items => arePlain items
  | .mapping entries => entriesPlain entries
  | _ => false

def arePlain : List Value → Bool
  | [] => true
  | item :: rest => item.isPlain && arePlain rest

def entriesPlain : List (String × Value) → Bool
  | [] => true
  | (_, value) :: rest => value.isPlain && entriesPlain rest

end

theorem arePlain_iff {items : List Value} :
    arePlain items = true ↔ ∀ item ∈ items, item.isPlain = true := by
  induction items with
  | nil => simp [arePlain]
  | cons item rest ih => simp [arePlain, ih]

theorem entriesPlain_iff {entries : Entries} :
    entriesPlain entries = true ↔ ∀ entry ∈ entries, entry.2.isPlain = true := by
  induction entries with
  | nil => simp [entriesPlain]
  | cons entry rest ih => simp [entriesPlain, ih]

theorem isPlain_of_get? {data part : Value} {key : String} (plain : data.isPlain = true)
    (found : data.get? key = some part) : part.isPlain = true := by
  cases data with
  | mapping entries =>
      obtain ⟨entry, first, rfl⟩ := Option.map_eq_some_iff.mp found
      exact entriesPlain_iff.mp plain entry (List.mem_of_find?_eq_some first)
  | table => cases plain
  | _ => cases found

theorem isPlain_of_at? {data part : Value} {keys : List String} (plain : data.isPlain = true)
    (found : data.at? keys = some part) : part.isPlain = true := by
  induction keys generalizing data with
  | nil =>
      cases found
      exact plain
  | cons key rest ih =>
      obtain ⟨node, first, later⟩ := Option.bind_eq_some_iff.mp found
      exact ih (isPlain_of_get? plain first) later

end Value

/-! ## Distinct keys -/

namespace Entries

variable {entries : Entries} {key : String} {value : Value}

theorem not_mem_of_has (absent : entries.has key = false) : key ∉ entries.map (·.1) := by
  rw [has, List.any_eq_false] at absent
  rintro member
  obtain ⟨entry, inside, same⟩ := List.mem_map.mp member
  exact absent entry inside (beq_iff_eq.mpr same)

theorem put_of_not_mem (absent : key ∉ entries.map (·.1)) :
    put key value entries = entries ++ [(key, value)] := by
  induction entries with
  | nil => rfl
  | cons entry rest ih =>
      rw [List.map_cons, List.mem_cons, not_or] at absent
      rw [put, if_neg (by simpa using Ne.symm absent.1), ih absent.2, List.cons_append]

theorem ofList_of_nodup (distinct : (entries.map (·.1)).Nodup) : ofList entries = entries := by
  have put_all (before rest : Entries) (distinct : ((before ++ rest).map (·.1)).Nodup) :
      rest.foldl (fun acc entry => put entry.1 entry.2 acc) before = before ++ rest := by
    induction rest generalizing before with
    | nil => rw [List.foldl_nil, List.append_nil]
    | cons entry rest ih =>
        have absent : entry.1 ∉ before.map (·.1) := by
          rw [List.map_append, List.nodup_append] at distinct
          exact fun member => distinct.2.2 _ member _ List.mem_cons_self rfl
        rw [List.append_cons] at distinct
        rw [List.foldl_cons, put_of_not_mem absent, ih _ distinct, ← List.append_cons]
  exact put_all [] entries distinct

end Entries

namespace Value

mutual

def isApart : Value → Bool
  | .list items => areApart items
  | .mapping entries => entriesApart entries
  | _ => true

def areApart : List Value → Bool
  | [] => true
  | item :: rest => item.isApart && areApart rest

def entriesApart : List (String × Value) → Bool
  | [] => true
  | (key, value) :: rest => !Entries.has rest key && value.isApart && entriesApart rest

end

theorem nodup_of_entriesApart {entries : Entries} (apart : entriesApart entries = true) :
    (entries.map (·.1)).Nodup := by
  induction entries with
  | nil => exact List.nodup_nil
  | cons entry rest ih =>
      rw [entriesApart, Bool.and_eq_true, Bool.and_eq_true, Bool.not_eq_true'] at apart
      rw [List.map_cons, List.nodup_cons]
      exact ⟨Entries.not_mem_of_has apart.1.1, ih apart.2⟩

end Value

namespace Codec

mutual

theorem plainData_of_isPlain {data : Value} (plain : data.isPlain = true) :
    plainData data = data := by
  cases data with
  | float x =>
      have finite : Number.isFinite x = true := plain
      rw [plainData, if_pos finite]
  | list items => rw [plainData, plainItems_of_arePlain plain]
  | mapping entries => rw [plainData, plainEntries_of_entriesPlain plain]
  | stamp | bytes | table | cycle => cases plain
  | _ => rfl

theorem plainItems_of_arePlain {items : List Value} (plain : Value.arePlain items = true) :
    plainItems items = items := by
  match items with
  | [] => rfl
  | item :: rest =>
      rw [Value.arePlain, Bool.and_eq_true] at plain
      rw [plainItems, plainData_of_isPlain plain.1, plainItems_of_arePlain plain.2]

theorem plainEntries_of_entriesPlain {entries : Entries}
    (plain : Value.entriesPlain entries = true) : plainEntries entries = entries := by
  match entries with
  | [] => rfl
  | (key, value) :: rest =>
      rw [Value.entriesPlain, Bool.and_eq_true] at plain
      rw [plainEntries, plainData_of_isPlain plain.1, plainEntries_of_entriesPlain plain.2]

end

/-! ## Codecs -/

/-- What is written for a value is something, and it is read back as the value. -/
structure Restores (c : Codec α) (a : α) : Prop where
  decode : c.decode (c.encode a) = .ok a
  given : (c.encode a).isNull = false

theorem restores_real (x : Float) : real.Restores x := ⟨rfl, rfl⟩

theorem restores_int (n : Int) : int.Restores n := ⟨rfl, rfl⟩

theorem restores_bool (b : Bool) : bool.Restores b := ⟨rfl, rfl⟩

theorem restores_text (s : String) : text.Restores s := ⟨rfl, rfl⟩

theorem restores_choice [Inhabited α] {all : List α} {word : α → String} {a : α}
    (found : (all.find? fun b => word b == word a) = some a) : (choice all word).Restores a where
  decode := by simp [choice, found]
  given := rfl

theorem restores_entries {entries : Entries} (plain : Value.entriesPlain entries = true) :
    Codec.entries.Restores entries where
  decode := by simp [Codec.entries, decodeEntries, plainEntries_of_entriesPlain plain]
  given := rfl

theorem restores_list {c : Codec α} {items : List α} (each : ∀ a ∈ items, c.Restores a) :
    (list c).Restores items where
  decode := by
    have read (position : Nat) : decodeItems c position (items.map c.encode) = .ok items := by
      induction items generalizing position with
      | nil => rfl
      | cons a rest ih =>
          rw [List.map_cons, decodeItems, (each a (by simp)).decode,
            ih (fun b member => each b (by simp [member]))]
          rfl
    exact read 0
  given := rfl

theorem restores_mapping {c : Codec α} {bindings : List (String × α)}
    (each : ∀ binding ∈ bindings, c.Restores binding.2) : (mapping c).Restores bindings where
  decode := by
    change decodeBindings c (bindings.map _) = .ok bindings
    induction bindings with
    | nil => rfl
    | cons binding rest ih =>
        rw [List.map_cons, decodeBindings, (each binding (by simp)).decode,
          ih fun other member => each other (by simp [member])]
        rfl
  given := rfl

theorem nullable_decode {c : Codec α} {o : Option α} (each : ∀ a ∈ o, c.Restores a) :
    (nullable c).decode ((nullable c).encode o) = .ok o := by
  cases o with
  | none => rfl
  | some a =>
      obtain ⟨read, given⟩ := each a rfl
      change (nullable c).decode (c.encode a) = _
      generalize c.encode a = written at read given
      cases written with
      | null => cases given
      | _ =>
          change (c.decode _).map some = _
          rw [read]
          rfl

end Codec

/-! ## Entries -/

namespace Entries

theorem get?_of_mem {entries : Entries} (distinct : (entries.map (·.1)).Nodup) {key : String}
    {value : Value} (member : (key, value) ∈ entries) : entries.get? key = some value := by
  induction entries with
  | nil => cases member
  | cons entry rest ih =>
      rw [List.map_cons, List.nodup_cons] at distinct
      rcases List.mem_cons.mp member with rfl | later
      · simp [get?]
      · have other : ¬ entry.1 = key := by
          rintro rfl
          exact distinct.1 (List.mem_map.mpr ⟨_, later, rfl⟩)
        simpa [get?, other] using ih distinct.2 later

theorem get?_eq_none {entries : Entries} {key : String}
    (absent : key ∉ entries.map (·.1)) : entries.get? key = none := by
  rw [get?, Option.map_eq_none_iff, List.find?_eq_none]
  rintro entry member
  rw [beq_iff_eq]
  rintro rfl
  exact absent (List.mem_map_of_mem member)

end Entries

/-! ## Records -/

def Manner.shows (manner : Manner) (value : Value) : Bool := !(manner.omitsNull && value.isNull)

/-- Entries hold a value under the first of two names, or under neither when it is not shown. -/
def Entries.Hold (manner : Manner) (entries : Entries) (names : String × String)
    (value : Value) : Prop :=
  if manner.shows value then entries.get? names.1 = some value
  else entries.get? names.1 = none ∧ entries.get? names.2 = none

structure Field.Restores (field : Field α) (a : α) : Prop where
  decode : field.codec.decode (field.codec.encode a) = .ok a
  standard : (field.codec.encode a).isNull = true → field.standard = some a

theorem Field.restores {field : Field α} {a : α} (h : field.codec.Restores a) :
    field.Restores a where
  decode := h.decode
  standard := by simp [h.given]

theorem Field.restores_nullable {key : String} {c : Codec α} {o : Option α}
    (each : ∀ a ∈ o, c.Restores a) : (Field.nullable key c).Restores o where
  decode := Codec.nullable_decode each
  standard := by
    cases o with
    | none => exact fun _ => rfl
    | some a =>
        intro missing
        exact absurd missing (Bool.eq_false_iff.mp (each a rfl).given)

theorem Field.Restores.read {field : Field α} {a : α} (h : field.Restores a) {manner : Manner}
    {entries : Entries}
    (held : entries.Hold manner (field.key, field.otherName) (field.codec.encode a)) :
    field.read entries = .ok a := by
  unfold Entries.Hold at held
  split at held
  next shown => simp [Field.read, Field.given?, held, h.decode]
  next hidden =>
      have missing : (field.codec.encode a).isNull = true := by
        simp only [Manner.shows, Bool.not_eq_true, Bool.not_eq_false', Bool.and_eq_true] at hidden
        exact hidden.2
      simp [Field.read, Field.given?, held, h.standard missing]

/-- Entries that hold what the fields write for a record give `a`.  The names are those of the
fields, in their order. -/
structure Fields.Restores (fields : Fields ρ α) (record : ρ) (a : α)
    (names : List (String × String)) : Prop where
  keys : (fields.write record).map (·.1) = names.map (·.1)
  read : ∀ (manner : Manner) (entries : Entries),
    (∀ field ∈ names.zip (fields.write record), entries.Hold manner field.1 field.2.2) →
    fields.read entries = .ok a

namespace Fields.Restores

theorem of {a : α} {record : ρ} : (Fields.of a : Fields ρ α).Restores record a [] :=
  ⟨rfl, fun _ _ _ => rfl⟩

theorem add {fields : Fields ρ (α → β)} {f : Field α} {get : ρ → α} {record : ρ}
    {make : α → β} {names : List (String × String)} (h : fields.Restores record make names)
    (restored : f.Restores (get record)) :
    (fields.field f get).Restores record (make (get record))
      (names ++ [(f.key, f.otherName)]) where
  keys := by simp [Fields.field, h.keys]
  read manner entries held := by
    have same : names.length = (fields.write record).length := by
      simpa using (congrArg List.length h.keys).symm
    rw [Fields.field, List.zip_append same] at held
    have first := h.read manner entries fun written member =>
      held written (List.mem_append_left _ member)
    have last := restored.read (held ((f.key, f.otherName), (f.key, f.codec.encode (get record)))
      (List.mem_append_right _ (List.mem_singleton.mpr rfl)))
    simp [Fields.field, first, last]

theorem field {fields : Fields ρ (α → β)} {f : Field α} {get : ρ → α} {record : ρ}
    {make : α → β} {names : List (String × String)} (h : fields.Restores record make names)
    (restored : f.codec.Restores (get record)) :
    (fields.field f get).Restores record (make (get record))
      (names ++ [(f.key, f.otherName)]) :=
  h.add (Field.restores restored)

theorem nullable {fields : Fields ρ (Option α → β)} {key : String} {c : Codec α}
    {get : ρ → Option α} {record : ρ} {make : Option α → β} {names : List (String × String)}
    (h : fields.Restores record make names) (restored : ∀ a ∈ get record, c.Restores a) :
    (fields.field (.nullable key c) get).Restores record (make (get record))
      (names ++ [(key, separatedKey key)]) :=
  h.add (Field.restores_nullable restored)

end Fields.Restores

/-- The keys of fields are different, and the second name of a field is not the key of another. -/
def AreApart (names : List (String × String)) : Prop :=
  (names.map (·.1)).Nodup ∧ ∀ name ∈ names, name.2 = name.1 ∨ name.2 ∉ names.map (·.1)

instance (names : List (String × String)) : Decidable (AreApart names) :=
  inferInstanceAs (Decidable (_ ∧ _))

theorem fst_eq_of_mem_zip {names : List (String × String)} {written : Entries}
    (keys : written.map (·.1) = names.map (·.1)) {name : String × String} {entry : String × Value}
    (member : (name, entry) ∈ names.zip written) : name.1 = entry.1 := by
  induction names generalizing written with
  | nil => cases member
  | cons first rest ih =>
      cases written with
      | nil => cases keys
      | cons entry' written =>
          obtain ⟨same, later⟩ := List.cons.inj keys
          rcases List.mem_cons.mp member with here | there
          · cases here
            exact same.symm
          · exact ih later there

theorem hold_of_areApart {manner : Manner} {names : List (String × String)} {written : Entries}
    (keys : written.map (·.1) = names.map (·.1)) (apart : AreApart names)
    {name : String × String} {entry : String × Value}
    (member : (name, entry) ∈ names.zip written) :
    Entries.Hold manner (written.filter fun entry => manner.shows entry.2) name entry.2 := by
  obtain ⟨named, listed⟩ := List.of_mem_zip member
  have same := fst_eq_of_mem_zip keys member
  have distinct : (written.map (·.1)).Nodup := keys ▸ apart.1
  have shownKeys := (List.filter_sublist (l := written)
    (p := fun entry => manner.shows entry.2)).map (·.1)
  unfold Entries.Hold
  split
  next shown =>
      rw [same]
      exact Entries.get?_of_mem (distinct.sublist shownKeys) (List.mem_filter.mpr ⟨listed, shown⟩)
  next hidden =>
      have absent : name.1 ∉ (written.filter fun entry => manner.shows entry.2).map (·.1) := by
        intro found
        obtain ⟨other, kept, key⟩ := List.mem_map.mp found
        obtain ⟨listed', shown⟩ := List.mem_filter.mp kept
        have twice : written.get? entry.1 = some other.2 :=
          Entries.get?_of_mem distinct (same ▸ key ▸ listed')
        rw [Entries.get?_of_mem distinct listed] at twice
        exact hidden (Option.some.inj twice ▸ shown)
      refine ⟨Entries.get?_eq_none absent, ?_⟩
      rcases apart.2 name named with one | other
      · rw [one]
        exact Entries.get?_eq_none absent
      · rw [← keys] at other
        exact Entries.get?_eq_none fun found => other (shownKeys.subset found)

theorem Codec.encode_record (title : String) (manner : Manner) (fields : Fields ρ ρ) (r : ρ) :
    (Codec.record title manner fields).encode r =
      .mapping ((fields.write r).filter fun entry => manner.shows entry.2) := by
  change Value.mapping (if manner.omitsNull then _ else _) = _
  cases omits : manner.omitsNull <;> simp [Manner.shows, omits]

/-- A record is restored when its fields are and their names are apart. -/
theorem Codec.restores_record {title : String} {manner : Manner} {fields : Fields ρ ρ}
    {record made : ρ} {names : List (String × String)}
    (restores : fields.Restores record made names) (same : made = record)
    (apart : AreApart names) (isOpen : manner.isClosed = false) :
    (Codec.record title manner fields).Restores record where
  decode := by
    have read := restores.read manner _ fun field member =>
      hold_of_areApart restores.keys apart member
    rw [encode_record]
    change withExtra (if manner.isClosed then _ else []) _ = _
    rw [isOpen, read, same]
    rfl
  given := rfl

end StillMotion
