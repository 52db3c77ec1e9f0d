import StillMotion.Data.Record
import StillMotion.Proofs.Data.Outcome

/-!
# Records that are read

A record that is read without an issue comes from values that its fields accept: what every
accepted value of a field satisfies, and its standard value too, holds of the field.
-/

namespace StillMotion

variable {α β ρ : Type}

namespace Checked

theorem both_eq_ok {first : Checked (α → β)} {second : Checked α} {b : β} :
    both first second = .ok b ↔ ∃ f a, first = .ok f ∧ second = .ok a ∧ f a = b := by
  cases first with
  | error issues => cases second <;> simp [both]
  | ok f => cases second <;> simp [both]

@[simp] theorem under_eq_ok {step : Step} {outcome : Checked α} {a : α} :
    under step outcome = .ok a ↔ outcome = .ok a := by
  cases outcome <;> simp [under]

end Checked

/-! ## What reading ensures -/

def Codec.Ensures (c : Codec α) (P : α → Prop) : Prop :=
  ∀ data a, c.decode data = .ok a → P a

def Field.Ensures (field : Field α) (P : α → Prop) : Prop :=
  ∀ entries a, field.read entries = .ok a → P a

def Fields.Ensures (fields : Fields ρ α) (P : α → Prop) : Prop :=
  ∀ entries a, fields.read entries = .ok a → P a

theorem Codec.decode_refine {c : Codec α} {issue? : α → Option IssueKind} {data : Value}
    {a : α} (read : (c.refine issue?).decode data = .ok a) :
    c.decode data = .ok a ∧ issue? a = none := by
  obtain ⟨found, decoded, kept⟩ := Except.bind_eq_ok.mp read
  cases issue : issue? found with
  | some kind =>
      rw [issue] at kept
      cases kept
  | none =>
      rw [issue] at kept
      cases kept
      exact ⟨decoded, issue⟩

theorem Codec.decode_refine_of_fits {c : Codec α} {issue? : α → Option IssueKind} {data : Value}
    {a : α} (decoded : c.decode data = .ok a) (fits : issue? a = none) :
    (c.refine issue?).decode data = .ok a :=
  Except.bind_eq_ok.mpr ⟨a, decoded, by rw [fits]⟩

theorem Codec.ensures_refine {c : Codec α} {issue? : α → Option IssueKind} {P : α → Prop}
    (h : ∀ a, issue? a = none → P a) : (c.refine issue?).Ensures P :=
  fun _ a read => h a (decode_refine read).2

theorem Codec.Ensures.refine {c : Codec α} {P : α → Prop} (h : c.Ensures P)
    (issue? : α → Option IssueKind) : (c.refine issue?).Ensures P :=
  fun data a read => h data a (decode_refine read).1

theorem Field.ensures {field : Field α} {P : α → Prop} (read : field.codec.Ensures P)
    (standard : ∀ a, field.standard = some a → P a) : field.Ensures P := by
  intro entries a h
  unfold Field.read at h
  split at h
  next key value given => exact read _ _ (Checked.under_eq_ok.mp h)
  next absent =>
      split at h
      next a known =>
          cases h
          exact standard _ known
      next => simp [Checked.fail] at h

namespace Fields

variable {fields : Fields ρ (α → β)} {f : Field α} {get : ρ → α} {P : β → Prop}

theorem ensures_of {a : α} {P : α → Prop} (h : P a) : (of a : Fields ρ α).Ensures P := by
  intro entries b read
  cases read
  exact h

theorem ensures_field {Q : α → Prop} (hf : f.Ensures Q)
    (h : fields.Ensures fun g => ∀ a, Q a → P (g a)) : (fields.field f get).Ensures P := by
  intro entries b read
  obtain ⟨g, a, first, second, rfl⟩ := Checked.both_eq_ok.mp read
  exact h _ _ first a (hf _ _ second)

theorem ensures_anyField (h : fields.Ensures fun g => ∀ a, P (g a)) :
    (fields.field f get).Ensures P := by
  intro entries b read
  obtain ⟨g, a, first, _, rfl⟩ := Checked.both_eq_ok.mp read
  exact h _ _ first a

end Fields

theorem withExtra_eq_ok {extra : List Issue} {outcome : Checked ρ} {record : ρ} :
    withExtra extra outcome = .ok record ↔ extra = [] ∧ outcome = .ok record := by
  cases outcome with
  | error issues => simp [withExtra]
  | ok found => cases extra <;> simp [withExtra]

theorem Codec.ensures_record {title : String} {manner : Manner} {fields : Fields ρ ρ}
    {P : ρ → Prop} (h : fields.Ensures P) : (Codec.record title manner fields).Ensures P := by
  intro data record read
  cases data with
  | mapping entries => exact h _ _ (withExtra_eq_ok.mp read).2
  | table pairs => exact h _ _ (withExtra_eq_ok.mp read).2
  | _ => cases read

/-! ## What another value of a key changes -/

theorem Entries.mem_put {key : String} {value : Value} {entries : Entries}
    {entry : String × Value} (member : entry ∈ entries.put key value) :
    entry = (key, value) ∨ entry ∈ entries := by
  induction entries with
  | nil => exact .inl (List.mem_singleton.mp member)
  | cons first rest ih =>
      rw [put] at member
      split at member
      · rcases List.mem_cons.mp member with here | later
        · exact .inl here
        · exact .inr (List.mem_cons_of_mem _ later)
      · rcases List.mem_cons.mp member with here | later
        · exact .inr (here ▸ List.mem_cons_self)
        · exact (ih later).imp_right (List.mem_cons_of_mem _)

theorem Field.read_put {field : Field α} {key : String} (value : Value) (entries : Entries)
    (apart : field.key ≠ key ∧ field.otherName ≠ key) :
    field.read (entries.put key value) = field.read entries := by
  unfold Field.read Field.given?
  rw [Entries.get?_put_of_ne value entries apart.1, Entries.get?_put_of_ne value entries apart.2]

/-- With another value of a key, fields that are read can still be read, as something related. -/
def Fields.Turns (fields : Fields ρ α) (key : String) (value : Value) (R : α → α → Prop) : Prop :=
  ∀ entries a, fields.read entries = .ok a →
    ∃ a', fields.read (entries.put key value) = .ok a' ∧ R a a'

theorem Fields.turns_first {make : α → β} {f : Field α} {get : ρ → α} {value : Value}
    {R : β → β → Prop} {a' : α} (decoded : f.codec.decode value = .ok a')
    (related : ∀ a, R (make a) (make a')) : ((of make).field f get).Turns f.key value R := by
  intro entries b read
  obtain ⟨_, a, made, _, rfl⟩ := Checked.both_eq_ok.mp read
  cases made
  refine ⟨make a', Checked.both_eq_ok.mpr ⟨make, a', rfl, ?_, rfl⟩, related a⟩
  rw [Field.read, Field.given?, Entries.get?_put_self]
  exact Checked.under_eq_ok.mpr decoded

theorem Fields.turns_anyField {fields : Fields ρ (α → β)} {f : Field α} {get : ρ → α}
    {key : String} {value : Value} {R : β → β → Prop} (apart : f.key ≠ key ∧ f.otherName ≠ key)
    (h : fields.Turns key value fun g g' => ∀ a, R (g a) (g' a)) :
    (fields.field f get).Turns key value R := by
  intro entries b read
  obtain ⟨g, a, first, second, rfl⟩ := Checked.both_eq_ok.mp read
  obtain ⟨g', first', related⟩ := h entries g first
  refine ⟨g' a, Checked.both_eq_ok.mpr ⟨g', a, first', ?_, rfl⟩, related a⟩
  rw [Field.read_put value entries apart, second]

theorem unknownKeys_eq_nil {members : List (String × Presence × Shape)} {entries : Entries} :
    unknownKeys members entries = [] ↔
      ∀ entry ∈ entries, (members.any fun member => member.1 == entry.1) = true := by
  simp [unknownKeys]

theorem unknownKeys_textEntries {members : List (String × Presence × Shape)}
    {pairs : List (Value × Value)} (known : unknownPairs members pairs = []) :
    unknownKeys members (Value.textEntries pairs) = [] := by
  rw [unknownKeys_eq_nil]
  intro entry member
  obtain ⟨⟨key, value⟩, given, text⟩ := List.mem_filterMap.mp member
  have here := List.flatMap_eq_nil_iff.mp known (key, value) given
  cases key with
  | str s =>
      obtain rfl : (s, value) = entry := by simpa [Value.str?] using text
      exact unknownKeys_eq_nil.mp here (s, .null) (List.mem_singleton_self _)
  | _ => simp [Value.str?] at text

theorem Codec.exists_decode_record {title : String} {manner : Manner} {fields : Fields ρ ρ}
    {key : String} {value : Value} (R : ρ → ρ → Prop) (turns : fields.Turns key value R)
    (known : (fields.members.any fun member => member.1 == key) = true) {data : Value} {record : ρ}
    (read : (Codec.record title manner fields).decode data = .ok record) :
    ∃ data' record', (Codec.record title manner fields).decode data' = .ok record' ∧
      R record record' := by
  -- The keys of a table that is read are texts, so it can be given as a mapping.
  obtain ⟨entries, tidy, found⟩ : ∃ entries,
      (if manner.isClosed then unknownKeys fields.members entries else []) = [] ∧
        fields.read entries = .ok record := by
    cases data with
    | mapping entries => exact ⟨entries, withExtra_eq_ok.mp read⟩
    | table pairs =>
        obtain ⟨tidy, found⟩ := withExtra_eq_ok.mp read
        refine ⟨_, ?_, found⟩
        split at tidy
        next closed => rw [if_pos closed, unknownKeys_textEntries tidy]
        next loose => rw [if_neg loose]
    | _ => cases read
  obtain ⟨record', found', related⟩ := turns entries record found
  refine ⟨.mapping (entries.put key value), record', withExtra_eq_ok.mpr ⟨?_, found'⟩, related⟩
  split at tidy
  next closed =>
      rw [if_pos closed, unknownKeys_eq_nil]
      intro entry member
      rcases Entries.mem_put member with rfl | before
      · exact known
      · exact unknownKeys_eq_nil.mp tidy entry before
  next loose => rw [if_neg loose]

end StillMotion
