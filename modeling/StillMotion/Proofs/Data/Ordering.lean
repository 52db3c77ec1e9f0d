import Mathlib.Data.List.Sort
import StillMotion.Data.Ordering
import StillMotion.Proofs.Number.Order

/-!
# Things in the order of their keys

Where all keys compare, putting things in order sorts them by the ranks of their keys: nothing is
lost, no later key is less, things of one key keep their order, and things in order stay as they
are.
-/

namespace StillMotion.Ordering

open StillMotion.Number

variable {α β : Type} [Scalar α] [OrderedScalar α] {key : β → α} {things : List β}

def mayPrecede (key : β → α) (a b : β) : Bool :=
  decide (OrderedScalar.rank (key a) ≤ OrderedScalar.rank (key b))

theorem mayPrecede_trans (a b c : β) (hab : mayPrecede key a b = true)
    (hbc : mayPrecede key b c = true) : mayPrecede key a c = true := by
  simp only [mayPrecede, decide_eq_true_eq] at hab hbc ⊢
  exact hab.trans hbc

theorem mayPrecede_total (a b : β) : (mayPrecede key a b || mayPrecede key b a) = true := by
  simpa [mayPrecede] using le_total (OrderedScalar.rank (key a)) (OrderedScalar.rank (key b))

theorem byKey_eq_mergeSort (comparable : ∀ x ∈ things, key x ≤ key x) :
    byKey key things = things.mergeSort (mayPrecede key) := by
  have same : ∀ a ∈ things, ∀ b ∈ things,
      (!decide (key b < key a)) = mayPrecede key (id a) (id b) := by
    intro a ha b hb
    have h := (OrderedScalar.lt_iff_rank (comparable b hb) (comparable a ha)).trans not_le.symm
    simp only [mayPrecede, id, h, decide_not, Bool.not_not]
  have all : (things.all fun x => decide (key x ≤ key x)) = true := by
    simpa using comparable
  rw [byKey, if_pos all]
  simpa using List.map_mergeSort same

theorem byKey_perm (comparable : ∀ x ∈ things, key x ≤ key x) :
    (byKey key things).Perm things := by
  rw [byKey_eq_mergeSort comparable]
  exact List.mergeSort_perm _ _

theorem byKey_pairwise (comparable : ∀ x ∈ things, key x ≤ key x) :
    (byKey key things).Pairwise fun a b => mayPrecede key a b = true := by
  rw [byKey_eq_mergeSort comparable]
  exact List.pairwise_mergeSort mayPrecede_trans mayPrecede_total _

theorem filter_byKey (comparable : ∀ x ∈ things, key x ≤ key x) {p : β → Bool}
    (level : ∀ a b, p a = true → p b = true → mayPrecede key a b = true) :
    (byKey key things).filter p = things.filter p := by
  have still : (things.filter p).Pairwise fun a b => mayPrecede key a b = true :=
    List.pairwise_of_forall_mem_list fun a ha b hb =>
      level a b (List.of_mem_filter ha) (List.of_mem_filter hb)
  have kept : (things.filter p).Sublist (byKey key things) := by
    rw [byKey_eq_mergeSort comparable]
    exact List.sublist_mergeSort mayPrecede_trans mayPrecede_total still List.filter_sublist
  have inside : (things.filter p).Sublist ((byKey key things).filter p) := by
    simpa using kept.filter p
  exact (inside.eq_of_length ((byKey_perm comparable).filter p).length_eq.symm).symm

theorem eq_of_filter_eq {κ : Type} [LinearOrder κ] {key : β → κ} {xs ys : List β}
    (hxs : xs.Pairwise fun a b => key a ≤ key b) (hys : ys.Pairwise fun a b => key a ≤ key b)
    (same : ∀ k, xs.filter (key · = k) = ys.filter (key · = k)) : xs = ys := by
  have transfer {x : β} {zs ws : List β} (h : ∀ k, zs.filter (key · = k) = ws.filter (key · = k))
      (hx : x ∈ zs) : x ∈ ws := by
    have listed : x ∈ zs.filter (key · = key x) := by simpa using hx
    rw [h] at listed
    exact List.mem_of_mem_filter listed
  have back (k : κ) : ys.filter (key · = k) = xs.filter (key · = k) := (same k).symm
  induction xs generalizing ys with
  | nil =>
      have none_listed (y : β) (hy : y ∈ ys) : False := by simpa using transfer back hy
      exact (List.eq_nil_iff_forall_not_mem.mpr none_listed).symm
  | cons x xs ih =>
      cases ys with
      | nil => exact absurd (transfer same List.mem_cons_self) List.not_mem_nil
      | cons y ys =>
          obtain ⟨firstX, restX⟩ := List.pairwise_cons.mp hxs
          obtain ⟨firstY, restY⟩ := List.pairwise_cons.mp hys
          -- Each head is in the other list, so neither key is less than the other.
          have leastX : ∀ z ∈ x :: xs, key x ≤ key z := List.forall_mem_cons.mpr ⟨le_rfl, firstX⟩
          have leastY : ∀ z ∈ y :: ys, key y ≤ key z := List.forall_mem_cons.mpr ⟨le_rfl, firstY⟩
          have level : key x = key y :=
            le_antisymm (leastX y (transfer back List.mem_cons_self))
              (leastY x (transfer same List.mem_cons_self))
          have heads := same (key x)
          simp only [List.filter_cons, level, decide_true, if_true, List.cons.injEq] at heads
          obtain rfl : x = y := heads.1
          have tails (k : κ) : xs.filter (key · = k) = ys.filter (key · = k) := by
            by_cases hk : key x = k <;> simpa [List.filter_cons, hk] using same k
          rw [ih restX restY tails fun k => (tails k).symm]

end StillMotion.Ordering
