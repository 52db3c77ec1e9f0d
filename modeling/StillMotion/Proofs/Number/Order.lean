import Mathlib.Algebra.Order.Ring.Unbundled.Rat
import Mathlib.Data.Prod.Lex
import Mathlib.Order.Compare
import StillMotion.Number.Scalar

/-!
# The order of scalars

Scalars that compare with themselves lie on a line: each has a rank, and comparing two of them
compares their ranks.  Doubles that are no number do not compare with themselves; all other
doubles and all rational numbers do.
-/

namespace StillMotion.Number

open Float.Model

/-- Scalars whose comparisons are those of ranks on a line, as far as they compare at all. -/
class OrderedScalar (α : Type) [Scalar α] where
  Rank : Type
  line : LinearOrder Rank
  rank : α → Rank
  le_iff_rank : ∀ {a b : α}, a ≤ a → b ≤ b → (a ≤ b ↔ rank a ≤ rank b)
  lt_iff_rank : ∀ {a b : α}, a ≤ a → b ≤ b → (a < b ↔ rank a < rank b)

attribute [reducible, instance] OrderedScalar.line

instance : OrderedScalar Rat where
  Rank := Rat
  line := inferInstance
  rank x := x
  le_iff_rank _ _ := Iff.rfl
  lt_iff_rank _ _ := Iff.rfl

/-! ## Doubles -/

namespace Double

/-- The rank of a double: its kind and sign first, then its exponent and its mantissa. -/
def unpackedRank : UnpackedFloat → Int ×ₗ Int ×ₗ Int
  | .notANumber | .zero _ => toLex (0, toLex (0, 0))
  | .infinity .negative => toLex (-2, toLex (0, 0))
  | .infinity .positive => toLex (2, toLex (0, 0))
  | .finite .negative mantissa exponent _ => toLex (-1, toLex (-exponent, -mantissa))
  | .finite .positive mantissa exponent _ => toLex (1, toLex (exponent, mantissa))

theorem compares_compare (a b : Int) : (compare a b).Compares a b :=
  (compare_iff a b).mp rfl

theorem compares_compare_cast (m n : Nat) : (compare m n).Compares (m : Int) (n : Int) := by
  have h : (compare m n).Compares m n := (compare_iff m n).mp rfl
  generalize compare m n = o at h ⊢
  cases o with
  | lt => exact Int.ofNat_lt.mpr h
  | eq => exact congrArg Nat.cast h
  | gt => exact Int.ofNat_lt.mpr h

theorem compares_neg {o : Ordering} {a b : Int} (h : o.Compares a b) : o.Compares (-b) (-a) := by
  cases o with
  | lt => exact Int.neg_lt_neg h
  | eq => exact congrArg Neg.neg h.symm
  | gt => exact Int.neg_lt_neg h

theorem compares_toLex {α β : Type} [LinearOrder α] [LinearOrder β] {o o' : Ordering} {a a' : α}
    {b b' : β} (first : o.Compares a a') (second : o'.Compares b b') :
    (o.then o').Compares (toLex (a, b)) (toLex (a', b')) := by
  cases o with
  | lt => exact Prod.Lex.toLex_lt_toLex.mpr (.inl first)
  | gt => exact Prod.Lex.toLex_lt_toLex.mpr (.inl first)
  | eq =>
      cases o' with
      | lt => exact Prod.Lex.toLex_lt_toLex.mpr (.inr ⟨first, second⟩)
      | eq => exact congrArg toLex (Prod.ext first second)
      | gt => exact Prod.Lex.toLex_lt_toLex.mpr (.inr ⟨first.symm, second⟩)

theorem compares_magnitude (e e' : Int) (m m' : Nat) :
    ((compare e e').then (compare m m')).Compares (toLex (e, (m : Int)))
      (toLex (e', (m' : Int))) :=
  compares_toLex (compares_compare e e') (compares_compare_cast m m')

theorem compares_negated (e e' : Int) (m m' : Nat) :
    ((compare e e').then (compare m m')).swap.Compares (toLex (-e, -(m : Int)))
      (toLex (-e', -(m' : Int))) :=
  Ordering.compares_swap.mpr
    (compares_toLex (compares_neg (compares_compare e e'))
      (compares_neg (compares_compare_cast m m')))

theorem exists_compare {a b : UnpackedFloat} (ha : a ≠ .notANumber) (hb : b ≠ .notANumber) :
    ∃ o, a.compare b = some o ∧ o.Compares (unpackedRank a) (unpackedRank b) := by
  rcases a with (_ | _) | _ | _ | ⟨_ | _, m, e, _⟩ <;>
    rcases b with (_ | _) | _ | _ | ⟨_ | _, m', e', _⟩
  case finite.negative.finite.negative =>
      have rest := compares_negated e e' m m'
      exact ⟨_, rfl, compares_toLex (o := .eq) rfl rest⟩
  case finite.positive.finite.positive =>
      have rest := compares_magnitude e e' m m'
      exact ⟨_, rfl, compares_toLex (o := .eq) rfl rest⟩
  -- In all other cases the kinds and signs decide.
  all_goals
    first
    | exact absurd rfl ha
    | exact absurd rfl hb
    | exact ⟨_, rfl, rfl⟩
    | exact ⟨_, rfl, Prod.Lex.toLex_lt_toLex.mpr (.inl (by simp))⟩

theorem le_iff_unpack {a b : Float} : a ≤ b ↔ a.toModel.unpack.le b.toModel.unpack = true :=
  decide_eq_true_iff

theorem lt_iff_unpack {a b : Float} : a < b ↔ a.toModel.unpack.lt b.toModel.unpack = true :=
  decide_eq_true_iff

theorem unpack_ne_notANumber {a : Float} (h : a ≤ a) : a.toModel.unpack ≠ .notANumber := by
  intro hnan
  rw [le_iff_unpack, hnan] at h
  cases h

end Double

instance : OrderedScalar Float where
  Rank := Int ×ₗ Int ×ₗ Int
  line := inferInstance
  rank x := Double.unpackedRank x.toModel.unpack
  le_iff_rank ha hb := by
    obtain ⟨o, ho, hc⟩ :=
      Double.exists_compare (Double.unpack_ne_notANumber ha) (Double.unpack_ne_notANumber hb)
    rw [Double.le_iff_unpack, ← hc.ne_gt]
    cases o <;> simp [UnpackedFloat.le, ho]
  lt_iff_rank ha hb := by
    obtain ⟨o, ho, hc⟩ :=
      Double.exists_compare (Double.unpack_ne_notANumber ha) (Double.unpack_ne_notANumber hb)
    rw [Double.lt_iff_unpack, ← hc.eq_lt]
    simp [UnpackedFloat.lt, ho]

end StillMotion.Number
