import Mathlib.Data.List.Forall2
import Mathlib.Data.List.Perm.Basic
import StillMotion.Proofs.Data.JsonText

/-!
# Data up to the order of keys

Two values are alike when they are the same item by item and kind by kind, with the entries of
their mappings in any order.  The canonical text of a value lists the entries of a mapping by their
keys, so it is the same for values that are alike.  It is read back as the value with its entries
in that order, so it is the same for no others.
-/

namespace StillMotion

open StillMotion.Number

/-! ## Lists that are related item by item -/

section Related

variable {α β : Type} {R S : α → β → Prop} {xs : List α} {ys : List β}

theorem forall₂_congr_of_mem (each : ∀ x ∈ xs, ∀ y ∈ ys, (R x y ↔ S x y)) :
    List.Forall₂ R xs ys ↔ List.Forall₂ S xs ys := by
  simp only [List.forall₂_iff_zip]
  refine and_congr_right fun _ => ⟨?_, ?_⟩
  · intro related a b member
    exact (each a (List.of_mem_zip member).1 b (List.of_mem_zip member).2).mp (related member)
  · intro related a b member
    exact (each a (List.of_mem_zip member).1 b (List.of_mem_zip member).2).mpr (related member)

theorem forall₂_concat_iff {x : α} {y : β} :
    List.Forall₂ R (xs ++ [x]) (ys ++ [y]) ↔ List.Forall₂ R xs ys ∧ R x y := by
  rw [← List.forall₂_reverse_iff, List.reverse_concat, List.reverse_concat, List.forall₂_cons,
    List.forall₂_reverse_iff, and_comm]

theorem exists_right_of_forall₂ (related : List.Forall₂ R xs ys) {x : α} (member : x ∈ xs) :
    ∃ y ∈ ys, R x y := by
  induction related with
  | nil => cases member
  | cons first _ ih =>
      rcases List.mem_cons.mp member with rfl | later
      · exact ⟨_, List.mem_cons_self, first⟩
      · obtain ⟨y, listed, here⟩ := ih later
        exact ⟨y, List.mem_cons_of_mem _ listed, here⟩

theorem exists_left_of_forall₂ (related : List.Forall₂ R xs ys) {y : β} (member : y ∈ ys) :
    ∃ x ∈ xs, R x y :=
  exists_right_of_forall₂ (R := flip R) related.flip member

theorem map_eq_map_iff_forall₂ {f : α → β} {xs ys : List α} :
    xs.map f = ys.map f ↔ List.Forall₂ (fun x y => f x = f y) xs ys := by
  rw [← List.forall₂_eq_eq_eq, List.forall₂_map_left_iff, List.forall₂_map_right_iff]

theorem perm_map_iff {f : α → β} {xs : List β} {ys : List α} :
    xs.Perm (ys.map f) ↔ ∃ zs, ys.Perm zs ∧ xs = zs.map f := by
  have lifted := congrFun (congrFun (List.eq_map_comp_perm f) xs) ys
  constructor
  · intro perm
    obtain ⟨zs, same, perm'⟩ := lifted.mpr perm
    exact ⟨zs, perm'.symm, same⟩
  · rintro ⟨zs, perm, rfl⟩
    exact (perm.map f).symm

theorem optionRel_eq {o p : Option α} : Option.Rel Eq o p ↔ o = p := by
  constructor
  · rintro (rfl | _) <;> rfl
  · rintro rfl
    cases o with
    | none => exact .none
    | some a => exact .some rfl

end Related

/-! ## Values and their parts -/

namespace Value

def isLeaf : Value → Bool
  | .list _ | .mapping _ => false
  | _ => true

mutual

theorem induction_on_parts {P : Value → Prop} (leaf : ∀ v, v.isLeaf = true → P v)
    (list : ∀ items, (∀ item ∈ items, P item) → P (.list items))
    (mapping : ∀ entries : Entries, (∀ entry ∈ entries, P entry.2) → P (.mapping entries))
    (v : Value) : P v := by
  cases v with
  | list items => exact list items (forall_of_parts leaf list mapping items)
  | mapping entries => exact mapping entries (forall_of_entries leaf list mapping entries)
  | _ => exact leaf _ rfl

theorem forall_of_parts {P : Value → Prop} (leaf : ∀ v, v.isLeaf = true → P v)
    (list : ∀ items, (∀ item ∈ items, P item) → P (.list items))
    (mapping : ∀ entries : Entries, (∀ entry ∈ entries, P entry.2) → P (.mapping entries))
    (items : List Value) : ∀ item ∈ items, P item := by
  match items with
  | [] => simp
  | item :: rest =>
      exact List.forall_mem_cons.mpr ⟨induction_on_parts leaf list mapping item,
        forall_of_parts leaf list mapping rest⟩

theorem forall_of_entries {P : Value → Prop} (leaf : ∀ v, v.isLeaf = true → P v)
    (list : ∀ items, (∀ item ∈ items, P item) → P (.list items))
    (mapping : ∀ entries : Entries, (∀ entry ∈ entries, P entry.2) → P (.mapping entries))
    (entries : List (String × Value)) : ∀ entry ∈ entries, P entry.2 := by
  match entries with
  | [] => simp
  | (key, value) :: rest =>
      exact List.forall_mem_cons.mpr ⟨induction_on_parts leaf list mapping value,
        forall_of_entries leaf list mapping rest⟩

end

theorem areApart_iff {items : List Value} :
    areApart items = true ↔ ∀ item ∈ items, item.isApart = true := by
  induction items with
  | nil => simp [areApart]
  | cons item rest ih => simp [areApart, ih]

theorem entriesApart_iff {entries : Entries} :
    entriesApart entries = true ↔
      (entries.map (·.1)).Nodup ∧ ∀ entry ∈ entries, entry.2.isApart = true := by
  induction entries with
  | nil => simp [entriesApart]
  | cons entry rest ih =>
      have absent : Entries.has rest entry.1 = false ↔ entry.1 ∉ rest.map (·.1) := by
        simp only [Entries.has, List.any_eq_false, beq_iff_eq, List.mem_map, not_exists, not_and]
      simp only [entriesApart, Bool.and_eq_true, Bool.not_eq_true', absent, ih, List.map_cons,
        List.nodup_cons, List.forall_mem_cons]
      tauto

theorem areWithin_iff {limit : Nat} {items : List Value} :
    areWithin limit items = true ↔ ∀ item ∈ items, item.isWithin limit = true := by
  induction items with
  | nil => simp [areWithin]
  | cons item rest ih => simp [areWithin, ih]

theorem entriesWithin_iff {limit : Nat} {entries : Entries} :
    entriesWithin limit entries = true ↔
      ∀ entry ∈ entries, entry.2.isWithin limit = true := by
  induction entries with
  | nil => simp [entriesWithin]
  | cons entry rest ih => simp [entriesWithin, ih]

structure IsReadable (value : Value) : Prop where
  plain : value.isPlain = true
  apart : value.isApart = true
  within : value.isWithin digitLimit = true

theorem isReadable_list {items : List Value} :
    (Value.list items).IsReadable ↔ ∀ item ∈ items, item.IsReadable := by
  constructor
  · rintro ⟨plain, apart, within⟩ item member
    exact ⟨arePlain_iff.mp plain item member, areApart_iff.mp apart item member,
      areWithin_iff.mp within item member⟩
  · intro each
    exact ⟨arePlain_iff.mpr fun item member => (each item member).plain,
      areApart_iff.mpr fun item member => (each item member).apart,
      areWithin_iff.mpr fun item member => (each item member).within⟩

theorem isReadable_mapping {entries : Entries} :
    (Value.mapping entries).IsReadable ↔
      (entries.map (·.1)).Nodup ∧ ∀ entry ∈ entries, entry.2.IsReadable := by
  constructor
  · rintro ⟨plain, apart, within⟩
    refine ⟨(entriesApart_iff.mp apart).1, fun entry member => ?_⟩
    exact ⟨entriesPlain_iff.mp plain entry member, (entriesApart_iff.mp apart).2 entry member,
      entriesWithin_iff.mp within entry member⟩
  · rintro ⟨distinct, each⟩
    exact ⟨entriesPlain_iff.mpr fun entry member => (each entry member).plain,
      entriesApart_iff.mpr ⟨distinct, fun entry member => (each entry member).apart⟩,
      entriesWithin_iff.mpr fun entry member => (each entry member).within⟩

end Value

/-! ## The order of keys -/

namespace Entries

variable {β γ : Type}

def inOrder (entries : List (String × β)) : List (String × β) :=
  entries.mergeSort fun a b => !decide (b.1 < a.1)

theorem inOrder_perm (entries : List (String × β)) : (inOrder entries).Perm entries :=
  List.mergeSort_perm _ _

theorem inOrder_pairwise (entries : List (String × β)) :
    (inOrder entries).Pairwise fun a b => a.1 ≤ b.1 := by
  have least (a b : String × β) : (!decide (b.1 < a.1)) = true ↔ a.1 ≤ b.1 := by
    rw [Bool.not_eq_true', decide_eq_false_iff_not, not_lt]
  have sorted := List.pairwise_mergeSort
    (fun a b c ab bc => (least a c).mpr (((least a b).mp ab).trans ((least b c).mp bc)))
    (fun a b => Bool.or_eq_true_iff.mpr
      ((le_total a.1 b.1).imp (least a b).mpr (least b a).mpr)) entries
  exact sorted.imp (least _ _).mp

theorem inOrder_map (f : String × β → γ) (entries : List (String × β)) :
    inOrder (entries.map fun entry => (entry.1, f entry)) =
      (inOrder entries).map fun entry => (entry.1, f entry) := by
  have same : ∀ a ∈ entries, ∀ b ∈ entries, (!decide (b.1 < a.1)) =
      (fun a b : String × γ => !decide (b.1 < a.1)) (a.1, f a) (b.1, f b) := by
    intros
    rfl
  exact (List.map_mergeSort same).symm

theorem inOrder_eq_iff {xs ys : List (String × β)} (distinct : (xs.map (·.1)).Nodup) :
    inOrder xs = inOrder ys ↔ xs.Perm ys := by
  constructor
  · intro same
    have between : xs.Perm (inOrder ys) := same ▸ (inOrder_perm xs).symm
    exact between.trans (inOrder_perm ys)
  · intro perm
    have back : (inOrder ys).Perm xs := (inOrder_perm ys).trans perm.symm
    refine ((inOrder_perm xs).trans back.symm).eq_of_pairwise (fun a b inXs inYs ab ba => ?_)
      (inOrder_pairwise xs) (inOrder_pairwise ys)
    exact List.inj_on_of_nodup_map distinct ((inOrder_perm xs).mem_iff.mp inXs)
      (back.mem_iff.mp inYs) (le_antisymm ab ba)

end Entries

namespace Value

mutual

/-- A value with the entries of all its mappings in the order of their keys. -/
def inKeyOrder : Value → Value
  | .list items => .list (itemsInKeyOrder items)
  | .mapping entries => .mapping (Entries.inOrder (entriesInKeyOrder entries))
  | v => v

def itemsInKeyOrder : List Value → List Value
  | [] => []
  | item :: rest => item.inKeyOrder :: itemsInKeyOrder rest

def entriesInKeyOrder : List (String × Value) → List (String × Value)
  | [] => []
  | (key, value) :: rest => (key, value.inKeyOrder) :: entriesInKeyOrder rest

end

theorem inKeyOrder_leaf {v : Value} (leaf : v.isLeaf = true) : v.inKeyOrder = v := by
  cases v with
  | list | mapping => cases leaf
  | _ => rfl

theorem inKeyOrder_list (items : List Value) :
    (Value.list items).inKeyOrder = .list (items.map inKeyOrder) := by
  have each : itemsInKeyOrder items = items.map inKeyOrder := by
    induction items with
    | nil => rfl
    | cons item rest ih => rw [itemsInKeyOrder, ih, List.map_cons]
  rw [inKeyOrder, each]

theorem inKeyOrder_mapping (entries : Entries) :
    (Value.mapping entries).inKeyOrder =
      .mapping ((Entries.inOrder entries).map fun entry => (entry.1, entry.2.inKeyOrder)) := by
  have each : entriesInKeyOrder entries =
      entries.map fun entry => (entry.1, entry.2.inKeyOrder) := by
    induction entries with
    | nil => rfl
    | cons entry rest ih => rw [entriesInKeyOrder, ih, List.map_cons]
  rw [inKeyOrder, each, Entries.inOrder_map]

theorem IsReadable.inKeyOrder {v : Value} (readable : v.IsReadable) :
    v.inKeyOrder.IsReadable := by
  induction v using induction_on_parts with
  | leaf v leaf => rwa [inKeyOrder_leaf leaf]
  | list items ih =>
      rw [isReadable_list] at readable
      rw [inKeyOrder_list, isReadable_list, List.forall_mem_map]
      exact fun item member => ih item member (readable item member)
  | mapping entries ih =>
      rw [isReadable_mapping] at readable
      have listed := Entries.inOrder_perm entries
      rw [inKeyOrder_mapping, isReadable_mapping, List.map_map, List.forall_mem_map]
      refine ⟨(listed.map (·.1)).nodup_iff.mpr readable.1, fun entry member => ?_⟩
      have member' := listed.mem_iff.mp member
      exact ih entry member' (readable.2 entry member')

end Value

/-! ## Canonical texts -/

namespace Json

theorem encodeItems_eq (layout : Layout) (level : Nat) (items : List Value) :
    encodeItems layout level items = items.map (encode layout level) := by
  induction items with
  | nil => rfl
  | cons item items ih => rw [encodeItems, ih, List.map_cons]

theorem sortByKey_map (f : String × Value → List Char) (entries : Entries) :
    sortByKey (entries.map fun entry => (entry.1, f entry)) =
      (Entries.inOrder entries).map fun entry => (entry.1, f entry) :=
  Entries.inOrder_map f entries

theorem encode_inKeyOrder {v : Value} (plain : v.isPlain = true) {layout : Layout}
    (sorted : layout.sortKeys = true) (level : Nat) :
    encode layout level v = encode { layout with sortKeys := false } level v.inKeyOrder := by
  induction v using Value.induction_on_parts generalizing level with
  | leaf v leaf =>
      rw [Value.inKeyOrder_leaf leaf]
      cases v with
      | list | mapping => cases leaf
      | table => cases plain
      | bool b => cases b <;> rfl
      | _ => rfl
  | list items ih =>
      have each : items.map (encode layout (level + 1)) =
          items.map fun item =>
            encode { layout with sortKeys := false } (level + 1) item.inKeyOrder :=
        List.map_congr_left fun item member =>
          ih item member (Value.arePlain_iff.mp plain item member) (level + 1)
      rw [Value.inKeyOrder_list, encode, encode, encodeItems_eq, encodeItems_eq, List.map_map,
        each]
      rfl
  | mapping entries ih =>
      have each : (Entries.inOrder entries).map (entryText layout (level + 1)) =
          (Entries.inOrder entries).map fun entry =>
            entryText { layout with sortKeys := false } (level + 1)
              (entry.1, entry.2.inKeyOrder) :=
        List.map_congr_left fun entry member => by
          have member' := (Entries.inOrder_perm entries).mem_iff.mp member
          rw [entryText, entryText, ih entry member' (Value.entriesPlain_iff.mp plain entry member')]
      simp only [Value.inKeyOrder_mapping, encode, sorted, if_true, Bool.false_eq_true, if_false,
        encodeEntries_eq, sortByKey_map, List.map_map]
      exact congrArg _ each

theorem isInline_compact : { compact with sortKeys := false }.IsInline where
  unsorted := rfl
  indent := rfl
  comma := ⟨[], rfl, rfl⟩
  colon := ⟨[], rfl, rfl⟩

theorem readTree_encode {v : Value} (readable : v.IsReadable) {layout : Layout}
    (inline : layout.IsInline) {depth : Nat} (deep : (Tree.ofValue v).levels ≤ depth) :
    readTree depth (encode layout 0 v).length (encode layout 0 v) = .ok (Tree.ofValue v, []) := by
  have reads : Reads layout (Tree.ofValue v) := reads_of_isProper inline
    (Tree.isProper_ofValue readable.plain readable.apart readable.within)
  rw [encode_eq inline readable.plain]
  simpa using reads depth _ [] deep le_rfl rfl

theorem canonical_eq_iff_inKeyOrder {v w : Value} (hv : v.IsReadable) (hw : w.IsReadable) :
    canonical v = canonical w ↔ v.inKeyOrder = w.inKeyOrder := by
  have textOf {u : Value} (hu : u.IsReadable) : canonical u =
      String.ofList (encode { compact with sortKeys := false } 0 u.inKeyOrder) := by
    rw [canonical, text, encode_inKeyOrder hu.plain rfl]
  rw [textOf hv, textOf hw]
  constructor
  · intro same
    have texts := String.ofList_injective same
    -- Both values are read from the one text, at a depth that is enough for either.
    have first := readTree_encode hv.inKeyOrder isInline_compact
      (le_max_left _ (Tree.ofValue w.inKeyOrder).levels)
    have second := readTree_encode hw.inKeyOrder isInline_compact
      (le_max_right (Tree.ofValue v.inKeyOrder).levels _)
    rw [texts] at first
    have trees := congrArg Prod.fst (Except.ok.inj (first.symm.trans second))
    rw [← Tree.value_ofValue hv.inKeyOrder.plain hv.inKeyOrder.apart,
      ← Tree.value_ofValue hw.inKeyOrder.plain hw.inKeyOrder.apart]
    exact congrArg Tree.value trees
  · intro same
    rw [same]

end Json

/-! ## Values that are alike -/

namespace Value

mutual

/-- Equal item by item and kind by kind, with the entries of mappings in any order. -/
def Alike : Value → Value → Prop
  | .list xs, .list ys => AreAlike xs ys
  | .mapping xs, .mapping ys => ∃ zs, ys.Perm zs ∧ EntriesAlike xs zs
  | v, w => v = w

def AreAlike : List Value → List Value → Prop
  | [], [] => True
  | x :: xs, y :: ys => x.Alike y ∧ AreAlike xs ys
  | _, _ => False

def EntriesAlike : List (String × Value) → List (String × Value) → Prop
  | [], [] => True
  | (key, x) :: xs, (other, y) :: ys => key = other ∧ x.Alike y ∧ EntriesAlike xs ys
  | _, _ => False

end

variable {v w : Value} {xs ys : Entries}

def EntryAlike (a b : String × Value) : Prop := a.1 = b.1 ∧ a.2.Alike b.2

theorem alike_leaf (leaf : v.isLeaf = true) : v.Alike w ↔ v = w := by
  cases v with
  | list | mapping => cases leaf
  | _ => rw [Alike] <;> nofun

example : ¬ (Value.float 0.0).Alike (.float (-0.0)) := by
  rw [alike_leaf rfl, Value.float.injEq]
  decide +kernel

theorem alike_list {xs ys : List Value} :
    (Value.list xs).Alike (.list ys) ↔ List.Forall₂ Alike xs ys := by
  rw [Alike]
  induction xs generalizing ys with
  | nil => cases ys <;> simp [AreAlike]
  | cons x xs ih => cases ys <;> simp [AreAlike, ih]

theorem entriesAlike_iff : EntriesAlike xs ys ↔ List.Forall₂ EntryAlike xs ys := by
  induction xs generalizing ys with
  | nil => cases ys <;> simp [EntriesAlike]
  | cons x xs ih => cases ys <;> simp [EntriesAlike, EntryAlike, ih, and_assoc]

theorem alike_mapping :
    (Value.mapping xs).Alike (.mapping ys) ↔
      ∃ zs, ys.Perm zs ∧ List.Forall₂ EntryAlike xs zs := by
  simp only [Alike, entriesAlike_iff]

theorem alike_refl (v : Value) : v.Alike v := by
  induction v using induction_on_parts with
  | leaf v leaf => exact (alike_leaf leaf).mpr rfl
  | list items ih => exact alike_list.mpr (List.forall₂_same.mpr ih)
  | mapping entries ih =>
      refine alike_mapping.mpr ⟨entries, .refl _, List.forall₂_same.mpr fun entry member => ?_⟩
      exact ⟨rfl, ih entry member⟩

theorem inKeyOrder_eq_iff {v w : Value} (hv : v.isApart = true) (hw : w.isApart = true) :
    v.inKeyOrder = w.inKeyOrder ↔ v.Alike w := by
  induction v using induction_on_parts generalizing w with
  | leaf v leaf =>
      rw [alike_leaf leaf, inKeyOrder_leaf leaf]
      cases w with
      | list items =>
          rw [inKeyOrder_list]
          constructor <;> (rintro rfl; cases leaf)
      | mapping entries =>
          rw [inKeyOrder_mapping]
          constructor <;> (rintro rfl; cases leaf)
      | _ => rfl
  | list xs ih =>
      cases w with
      | list ys =>
          rw [inKeyOrder_list, inKeyOrder_list, alike_list, Value.list.injEq,
            map_eq_map_iff_forall₂]
          exact forall₂_congr_of_mem fun x hx y hy => ih x hx (areApart_iff.mp hv x hx)
            (areApart_iff.mp hw y hy)
      | _ => simp [inKeyOrder, Alike]
  | mapping xs ih =>
      cases w with
      | mapping ys =>
          have apartX := entriesApart_iff.mp hv
          have apartY := entriesApart_iff.mp hw
          have distinct : ((xs.map fun entry => (entry.1, entry.2.inKeyOrder)).map (·.1)).Nodup := by
            rw [List.map_map]
            exact apartX.1
          have entry_iff : ∀ a ∈ xs, ∀ b ∈ ys,
              ((a.1, a.2.inKeyOrder) = (b.1, b.2.inKeyOrder) ↔ EntryAlike a b) := by
            intro a ha b hb
            rw [Prod.mk.injEq, ih a ha (apartX.2 a ha) (apartY.2 b hb), EntryAlike]
          -- Keys are distinct, so being the same in order is being a permutation; its middle list
          -- is a reordering of `ys` that goes with `xs` entry by entry.
          rw [inKeyOrder_mapping, inKeyOrder_mapping, Value.mapping.injEq, ← Entries.inOrder_map,
            ← Entries.inOrder_map, Entries.inOrder_eq_iff distinct, alike_mapping,
            perm_map_iff]
          refine exists_congr fun zs => and_congr_right fun perm => ?_
          rw [map_eq_map_iff_forall₂]
          exact forall₂_congr_of_mem fun a ha b hb => entry_iff a ha b (perm.mem_iff.mpr hb)
      | _ => simp [inKeyOrder, Alike]

/-- The canonical texts of two values are the same exactly when the values are alike. -/
theorem canonical_eq_iff {v w : Value} (hv : v.IsReadable) (hw : w.IsReadable) :
    Json.canonical v = Json.canonical w ↔ v.Alike w :=
  (Json.canonical_eq_iff_inKeyOrder hv hw).trans (inKeyOrder_eq_iff hv.apart hw.apart)

end Value

/-! ## What codecs write -/

namespace Value

theorem alike_null {v : Value} : v.Alike .null ↔ v = .null := by
  cases v <;> simp [Alike]

theorem Alike.isNull_eq {v w : Value} (alike : v.Alike w) : v.isNull = w.isNull := by
  cases v with
  | list | mapping =>
      cases w with
      | list | mapping => rfl
      | _ => simp [Alike] at alike
  | _ =>
      rw [alike_leaf rfl] at alike
      rw [alike]

theorem eq_null_of_hidden {manner : Manner} {v : Value} (hidden : ¬ manner.shows v = true) :
    v = .null := by
  simp only [Manner.shows, Bool.not_eq_true, Bool.not_eq_false', Bool.and_eq_true] at hidden
  cases v with
  | null => rfl
  | _ => cases hidden.2

theorem alike_shown {manner : Manner} {xs ys : Entries} (keys : xs.map (·.1) = ys.map (·.1))
    (distinct : (xs.map (·.1)).Nodup) :
    (Value.mapping (xs.filter fun entry => manner.shows entry.2)).Alike
        (.mapping (ys.filter fun entry => manner.shows entry.2)) ↔
      List.Forall₂ EntryAlike xs ys := by
  rw [alike_mapping]
  constructor
  · rintro ⟨zs, perm, related⟩
    have distinct' : (ys.map (·.1)).Nodup := keys ▸ distinct
    have counted : xs.length = ys.length := by simpa using congrArg List.length keys
    refine List.forall₂_iff_zip.mpr ⟨counted, fun {a b} member => ?_⟩
    obtain ⟨hx, hy⟩ := List.of_mem_zip member
    have same : a.1 = b.1 := List.forall₂_zip (map_eq_map_iff_forall₂.mp keys) member
    -- An entry that one record shows and the other hides would be left without a partner.
    by_cases shown : manner.shows a.2 = true
    · obtain ⟨b', listed, alike⟩ :=
        exists_right_of_forall₂ related (List.mem_filter.mpr ⟨hx, shown⟩)
      have inside := List.mem_of_mem_filter (perm.mem_iff.mpr listed)
      obtain rfl := List.inj_on_of_nodup_map distinct' inside hy (alike.1.symm.trans same)
      exact alike
    by_cases shown' : manner.shows b.2 = true
    · obtain ⟨a', listed, alike⟩ :=
        exists_left_of_forall₂ related (perm.mem_iff.mp (List.mem_filter.mpr ⟨hy, shown'⟩))
      obtain ⟨inside, shownA⟩ := List.mem_filter.mp listed
      obtain rfl := List.inj_on_of_nodup_map distinct inside hx (alike.1.trans same.symm)
      exact absurd shownA shown
    · refine ⟨same, ?_⟩
      rw [eq_null_of_hidden shown, eq_null_of_hidden shown', alike_null]
  · intro related
    refine ⟨_, .refl _, List.rel_filter ?_ related⟩
    intro a b alike
    simp only [Manner.shows, alike.2.isNull_eq]

end Value

namespace Codec

variable {α : Type} {c : Codec α} {R : α → α → Prop}

/-- What is written for two values is alike exactly when they are related. -/
def Tells (c : Codec α) (R : α → α → Prop) (a b : α) : Prop :=
  (c.encode a).Alike (c.encode b) ↔ R a b

theorem tells_of_restores (restores : ∀ a, c.Restores a) (leaf : ∀ a, (c.encode a).isLeaf = true)
    (a b : α) : c.Tells Eq a b := by
  rw [Tells, Value.alike_leaf (leaf a)]
  constructor
  · intro same
    have read := (restores a).decode
    rw [same, (restores b).decode] at read
    exact (Except.ok.inj read).symm
  · rintro rfl
    rfl

theorem tells_real (x y : Float) : real.Tells Eq x y :=
  tells_of_restores restores_real (fun _ => rfl) x y

theorem tells_int (m n : Int) : int.Tells Eq m n :=
  tells_of_restores restores_int (fun _ => rfl) m n

theorem tells_bool (a b : Bool) : bool.Tells Eq a b :=
  tells_of_restores restores_bool (fun _ => rfl) a b

theorem tells_text (s t : String) : text.Tells Eq s t :=
  tells_of_restores restores_text (fun _ => rfl) s t

theorem tells_list {xs ys : List α} (each : ∀ x ∈ xs, ∀ y ∈ ys, c.Tells R x y) :
    (list c).Tells (List.Forall₂ R) xs ys := by
  change (Value.list (xs.map c.encode)).Alike (.list (ys.map c.encode)) ↔ _
  rw [Value.alike_list, List.forall₂_map_left_iff, List.forall₂_map_right_iff]
  exact forall₂_congr_of_mem each

theorem tells_mapping {xs ys : List (String × α)}
    (each : ∀ x ∈ xs, ∀ y ∈ ys, c.Tells Eq x.2 y.2) : (mapping c).Tells List.Perm xs ys := by
  have entry_iff : ∀ x ∈ xs, ∀ y ∈ ys,
      (Value.EntryAlike (x.1, c.encode x.2) (y.1, c.encode y.2) ↔ x = y) := by
    intro x hx y hy
    rw [Value.EntryAlike, Prod.ext_iff]
    exact and_congr_right fun _ => each x hx y hy
  change (Value.mapping (xs.map fun x => (x.1, c.encode x.2))).Alike
    (.mapping (ys.map fun y => (y.1, c.encode y.2))) ↔ _
  rw [Value.alike_mapping]
  constructor
  · rintro ⟨zs, perm, related⟩
    -- What is reordered was written, so the bindings are reordered in the same way.
    obtain ⟨ws, reordered, rfl⟩ := perm_map_iff.mp perm.symm
    rw [List.forall₂_map_left_iff, List.forall₂_map_right_iff] at related
    have same := (forall₂_congr_of_mem fun x hx y hy =>
      entry_iff x hx y (reordered.mem_iff.mpr hy)).mp related
    rw [List.forall₂_eq_eq_eq] at same
    rw [same]
    exact reordered.symm
  · intro perm
    refine ⟨_, (perm.map _).symm, ?_⟩
    rw [List.forall₂_map_left_iff, List.forall₂_map_right_iff, List.forall₂_same]
    exact fun x hx => (entry_iff x hx x (perm.mem_iff.mp hx)).mpr rfl

theorem tells_entries {xs ys : Entries} (hx : Value.entriesPlain xs = true)
    (hy : Value.entriesPlain ys = true) :
    entries.Tells (fun xs ys => (Value.mapping xs).Alike (.mapping ys)) xs ys := by
  change (Value.mapping (plainEntries xs)).Alike (.mapping (plainEntries ys)) ↔ _
  rw [plainEntries_of_entriesPlain hx, plainEntries_of_entriesPlain hy]

theorem tells_nullable {o p : Option α} (given : ∀ a, (c.encode a).isNull = false)
    (each : ∀ a ∈ o, ∀ b ∈ p, c.Tells R a b) : (nullable c).Tells (Option.Rel R) o p := by
  have written (a : α) : c.encode a ≠ .null := by
    intro null
    have something := given a
    rw [null] at something
    cases something
  cases o with
  | none =>
      cases p with
      | none => exact iff_of_true (Value.alike_null.mpr rfl) .none
      | some b =>
          refine iff_of_false ?_ nofun
          exact fun alike => written b ((Value.alike_leaf rfl).mp alike).symm
  | some a =>
      cases p with
      | none => exact iff_of_false (fun alike => written a (Value.alike_null.mp alike)) nofun
      | some b =>
          have told : (c.encode a).Alike (c.encode b) ↔ R a b := each a rfl b rfl
          exact ⟨fun alike => .some (told.mp alike), fun | .some related => told.mpr related⟩

end Codec

/-! ## Records -/

structure Fields.Tells {ρ α : Type} (fields : Fields ρ α) (r s : ρ) (keys : List String)
    (P : Prop) : Prop where
  left : (fields.write r).map (·.1) = keys
  right : (fields.write s).map (·.1) = keys
  alike : List.Forall₂ Value.EntryAlike (fields.write r) (fields.write s) ↔ P

namespace Fields.Tells

variable {ρ α β : Type} {r s : ρ} {keys : List String} {P : Prop}

theorem of {a : α} : (Fields.of a : Fields ρ α).Tells r s [] True :=
  ⟨rfl, rfl, iff_of_true .nil trivial⟩

theorem field {fields : Fields ρ (α → β)} {f : Field α} {get : ρ → α} {R : α → α → Prop}
    (told : fields.Tells r s keys P) (last : f.codec.Tells R (get r) (get s)) :
    (fields.field f get).Tells r s (keys ++ [f.key]) (P ∧ R (get r) (get s)) where
  left := by simp [Fields.field, told.left]
  right := by simp [Fields.field, told.right]
  alike := by
    have entry : Value.EntryAlike (f.key, f.codec.encode (get r)) (f.key, f.codec.encode (get s)) ↔
        R (get r) (get s) := (and_iff_right rfl).trans last
    rw [← told.alike, ← entry]
    exact forall₂_concat_iff

theorem nullable {fields : Fields ρ (Option α → β)} {key : String} {c : Codec α}
    {get : ρ → Option α} {R : α → α → Prop} (told : fields.Tells r s keys P)
    (given : ∀ a, (c.encode a).isNull = false) (each : ∀ a b, c.Tells R a b) :
    (fields.field (.nullable key c) get).Tells r s (keys ++ [key])
      (P ∧ Option.Rel R (get r) (get s)) :=
  told.field (Codec.tells_nullable given fun a _ b _ => each a b)

end Fields.Tells

theorem Codec.tells_record {ρ : Type} {title : String} {manner : Manner} {fields : Fields ρ ρ}
    {r s : ρ} {keys : List String} {P : Prop} {R : ρ → ρ → Prop} (told : fields.Tells r s keys P)
    (distinct : keys.Nodup) (same : P ↔ R r s) :
    (Codec.record title manner fields).Tells R r s := by
  rw [Tells, encode_record, encode_record, Value.alike_shown (told.left.trans told.right.symm)
    (told.left ▸ distinct), told.alike, same]

end StillMotion
