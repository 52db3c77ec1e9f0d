import Mathlib.Algebra.Order.Field.Basic
import Mathlib.Algebra.Order.Field.Rat
import Mathlib.Data.Rat.Lemmas
import Mathlib.Tactic.FieldSimp
import Mathlib.Tactic.Linarith
import Mathlib.Tactic.Qify
import Mathlib.Tactic.Ring
import StillMotion.Number.Scalar

/-!
# Rounding to integers

A quotient is rounded to an integer within half a unit of it, and of two such integers the even
one is taken.
-/

namespace StillMotion.Number

/-- A rounded quotient is within half a unit, and where it is half a unit off it is even. -/
theorem roundDiv_spec (num : Nat) {den : Nat} (positive : 0 < den) :
    2 * num ≤ 2 * (roundDiv num den * den) + den ∧ 2 * (roundDiv num den * den) ≤ 2 * num + den ∧
      (2 * num = 2 * (roundDiv num den * den) + den ∨
        2 * (roundDiv num den * den) = 2 * num + den → roundDiv num den % 2 = 0) := by
  have division : num / den * den + num % den = num := Nat.div_add_mod' num den
  have remainder : num % den < den := Nat.mod_lt num positive
  have above : (num / den + 1) * den = num / den * den + den := Nat.succ_mul _ _
  unfold roundDiv
  dsimp only
  split
  · omega
  · split
    · rw [above]
      omega
    · split
      next even =>
          rw [beq_iff_eq] at even
          omega
      next odd =>
          rw [beq_iff_eq] at odd
          rw [above]
          omega

theorem roundDiv_sub_div (num : Nat) {den : Nat} (positive : 0 < den) :
    |(roundDiv num den : Rat) - (num : Rat) / den| ≤ 1 / 2 ∧
      (|(roundDiv num den : Rat) - (num : Rat) / den| = 1 / 2 → Even (roundDiv num den)) := by
  obtain ⟨low, high, tie⟩ := roundDiv_spec num positive
  generalize roundDiv num den = m at *
  have scale : (0 : Rat) < den := Nat.cast_pos.mpr positive
  have difference : (m : Rat) - (num : Rat) / den = (m * den - num) / den := by
    field_simp
  rw [difference, abs_div, abs_of_pos scale, div_le_iff₀ scale, div_eq_iff scale.ne']
  qify at low high
  refine ⟨abs_le.mpr ⟨by linarith, by linarith⟩, fun half => Nat.even_iff.mpr (tie ?_)⟩
  qify
  rcases abs_eq (by positivity) |>.mp half with above | below
  · exact .inr (by linarith)
  · exact .inl (by linarith)

theorem roundDiv_eq {num den m : Nat} (positive : 0 < den)
    (near : |(num : Rat) / den - m| ≤ 1 / 2) (tie : |(num : Rat) / den - m| = 1 / 2 → Even m) :
    roundDiv num den = m := by
  obtain ⟨near', tie'⟩ := roundDiv_sub_div num positive
  generalize roundDiv num den = n at *
  rw [abs_sub_comm] at near' tie'
  generalize (num : Rat) / den = x at *
  by_contra other
  -- Two integers can be that near only on both sides of a tie, and then both are even.
  have apart : (1 : Rat) ≤ |(n : Rat) - m| := by
    have nonzero : (n : Int) - m ≠ 0 := by omega
    exact_mod_cast Int.one_le_abs nonzero
  have both : |(n : Rat) - m| ≤ |x - n| + |x - m| := by
    rw [abs_sub_comm x n]
    calc |(n : Rat) - m| = |((n : Rat) - x) + (x - m)| := by ring_nf
      _ ≤ |(n : Rat) - x| + |x - m| := abs_add_le _ _
  have even := tie (by linarith)
  have even' := tie' (by linarith)
  have close : |(n : Rat) - m| < 2 := by linarith
  have close' : |(n : Int) - m| < 2 := by exact_mod_cast close
  rw [abs_lt] at close'
  obtain ⟨a, rfl⟩ := even
  obtain ⟨b, rfl⟩ := even'
  omega

namespace Exact

/-! ## Rational numbers -/

theorem natAbs_num_div_den (x : Rat) : (x.num.natAbs : Rat) / x.den = |x| := by
  have parts : (x.num : Rat) / x.den = x := Rat.num_div_den x
  calc (x.num.natAbs : Rat) / x.den = |(x.num : Rat) / x.den| := by
        rw [abs_div, Nat.abs_cast, Nat.cast_natAbs, Int.cast_abs]
    _ = |x| := by rw [parts]

theorem round_spec (x : Rat) :
    |(round x : Rat) - x| ≤ 1 / 2 ∧ (|(round x : Rat) - x| = 1 / 2 → Even (round x)) := by
  have magnitude := roundDiv_sub_div x.num.natAbs x.den_pos
  rw [natAbs_num_div_den] at magnitude
  unfold round
  dsimp only
  split
  next negative =>
      rw [abs_of_neg (Rat.num_neg.mp negative), sub_neg_eq_add] at magnitude
      rw [Int.cast_neg, Int.cast_natCast, ← neg_add', abs_neg, even_neg, Int.even_coe_nat]
      exact magnitude
  next nonneg =>
      rw [abs_of_nonneg (Rat.num_nonneg.mp (not_lt.mp nonneg))] at magnitude
      rw [Int.cast_natCast, Int.even_coe_nat]
      exact magnitude

theorem round_intCast (n : Int) : round n = n := by
  have near := (round_spec n).1
  have close : |(round n - n : Int)| < (1 : Rat) := by
    push_cast
    linarith
  have zero : round n - n = 0 := Int.abs_lt_one_iff.mp (by exact_mod_cast close)
  exact sub_eq_zero.mp zero

end Exact

end StillMotion.Number
