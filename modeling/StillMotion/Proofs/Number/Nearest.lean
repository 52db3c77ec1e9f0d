import Mathlib.Algebra.Order.Field.Power
import Mathlib.Tactic.NormNum.Pow
import StillMotion.Proofs.Number.Rounding

/-!
# The double nearest to a quotient

A finite double stands for its mantissa times a power of two.  Rounding a quotient gives the
double in whose interval the quotient lies; at the ends of the interval, which are ties, it does
when the mantissa is even.
-/

namespace StillMotion.Number

/-! ## Quotients and powers -/

section Scaled

variable {base : Nat} (positive : 0 < base) (num : Nat) {den : Nat} (e : Int)

include positive

theorem scaled_snd_pos (den_pos : 0 < den) : 0 < (scaled base num den e).2 := by
  unfold scaled
  split
  · exact Nat.mul_pos den_pos (Nat.pow_pos positive)
  · exact den_pos

theorem scaled_div (den : Nat) :
    ((scaled base num den e).1 : Rat) / (scaled base num den e).2 =
      (num : Rat) / den * (base : Rat) ^ e := by
  have nonzero : (base : Rat) ≠ 0 := Nat.cast_ne_zero.mpr positive.ne'
  unfold scaled
  split
  next below =>
      obtain ⟨n, rfl⟩ : ∃ n : Nat, e = -n := ⟨e.natAbs, by omega⟩
      simp only [Int.natAbs_neg, Int.natAbs_natCast, zpow_neg, zpow_natCast]
      rw [Nat.pow_eq]
      push_cast
      rw [div_mul_eq_div_div, div_eq_mul_inv (num / den : Rat)]
  next above =>
      obtain ⟨n, rfl⟩ : ∃ n : Nat, e = n := ⟨e.natAbs, by omega⟩
      simp only [Int.natAbs_natCast, zpow_natCast]
      rw [Nat.pow_eq]
      push_cast
      rw [mul_div_right_comm]

end Scaled

/-! ## Exponents -/

section Exponent

variable {num den : Nat} {e : Int}

theorem two_zpow_pos (e : Int) : (0 : Rat) < 2 ^ e := zpow_pos two_pos e

theorem two_zpow_add (e : Int) (n : Nat) : (2 : Rat) ^ (e + n) = 2 ^ n * 2 ^ e := by
  rw [zpow_add₀ two_ne_zero, zpow_natCast, mul_comm]

theorem log2_bounds (num_pos : 0 < num) (den_pos : 0 < den) :
    (2 : Rat) ^ ((num.log2 : Int) - den.log2 - 1) < (num : Rat) / den ∧
      (num : Rat) / den < 2 ^ ((num.log2 : Int) - den.log2 + 1) := by
  have scale : (0 : Rat) < den := Nat.cast_pos.mpr den_pos
  have numLow : (2 : Rat) ^ num.log2 ≤ num := by
    exact_mod_cast Nat.log2_self_le num_pos.ne'
  have numHigh : (num : Rat) < 2 ^ (num.log2 + 1) := by
    exact_mod_cast Nat.lt_log2_self
  have denLow : (2 : Rat) ^ den.log2 ≤ den := by
    exact_mod_cast Nat.log2_self_le den_pos.ne'
  have denHigh : (den : Rat) < 2 ^ (den.log2 + 1) := by
    exact_mod_cast Nat.lt_log2_self
  constructor
  · rw [lt_div_iff₀ scale]
    calc (2 : Rat) ^ ((num.log2 : Int) - den.log2 - 1) * den
        < 2 ^ ((num.log2 : Int) - den.log2 - 1) * 2 ^ (den.log2 + 1) :=
          mul_lt_mul_of_pos_left denHigh (two_zpow_pos _)
      _ = 2 ^ num.log2 := by
          rw [← zpow_natCast, ← zpow_natCast, ← zpow_add₀ two_ne_zero]
          congr 1
          push_cast
          ring
      _ ≤ num := numLow
  · rw [div_lt_iff₀ scale]
    calc (num : Rat) < 2 ^ (num.log2 + 1) := numHigh
      _ = 2 ^ ((num.log2 : Int) - den.log2 + 1) * 2 ^ den.log2 := by
          rw [← zpow_natCast, ← zpow_natCast, ← zpow_add₀ two_ne_zero]
          congr 1
          push_cast
          ring
      _ ≤ 2 ^ ((num.log2 : Int) - den.log2 + 1) * den :=
          mul_le_mul_of_nonneg_left denLow (two_zpow_pos _).le

theorem scaled_lt_iff (den_pos : 0 < den) :
    (scaled 2 num den (-e)).1 < (scaled 2 num den (-e)).2 * Nat.pow 2 52 ↔
      (num : Rat) / den < 2 ^ (e + 52) := by
  have divided := scaled_div two_pos num (-e) den
  have scale : (0 : Rat) < (scaled 2 num den (-e)).2 :=
    Nat.cast_pos.mpr (scaled_snd_pos two_pos num (-e) den_pos)
  generalize scaled 2 num den (-e) = q at *
  rw [Nat.pow_eq, zpow_add₀ two_ne_zero, ← div_lt_iff₀' (two_zpow_pos e)]
  have cast : (num : Rat) / den / 2 ^ e = (q.1 : Rat) / q.2 := by
    rw [divided, zpow_neg, div_eq_mul_inv (num / den : Rat)]
    rfl
  rw [cast, div_lt_iff₀ scale, mul_comm (2 ^ (52 : Int) : Rat)]
  exact_mod_cast Iff.rfl

theorem exponentOf_bounds (num_pos : 0 < num) (den_pos : 0 < den) :
    (num : Rat) / den < 2 ^ (exponentOf num den + 53) ∧
      (2 ^ (exponentOf num den + 52) ≤ (num : Rat) / den ∨
        exponentOf num den = minExponent) := by
  obtain ⟨low, high⟩ := log2_bounds num_pos den_pos
  unfold exponentOf
  dsimp only
  generalize guessed : (num.log2 : Int) - den.log2 - 52 = guess
  rw [show (num.log2 : Int) - den.log2 - 1 = guess - 1 + 52 by omega] at low
  rw [show (num.log2 : Int) - den.log2 + 1 = guess + 53 by omega] at high
  have exact : ∃ e, (if (scaled 2 num den (-guess)).1 < (scaled 2 num den (-guess)).2 * Nat.pow 2 52
      then guess - 1 else guess) = e ∧ 2 ^ (e + 52) ≤ (num : Rat) / den ∧
        (num : Rat) / den < 2 ^ (e + 53) := by
    split
    next below =>
        rw [scaled_lt_iff den_pos] at below
        refine ⟨guess - 1, rfl, low.le, ?_⟩
        rwa [show guess - 1 + 53 = guess + 52 by omega]
    next above =>
        rw [scaled_lt_iff den_pos, not_lt] at above
        exact ⟨guess, rfl, above, high⟩
  obtain ⟨e, chosen, low, high⟩ := exact
  rw [chosen]
  rcases le_total minExponent e with normal | subnormal
  · rw [max_eq_left normal]
    exact ⟨high, .inl low⟩
  · rw [max_eq_right subnormal]
    exact ⟨high.trans_le (zpow_le_zpow_right₀ one_le_two (by omega)), .inr rfl⟩

theorem minExponent_le_exponentOf (num den : Nat) : minExponent ≤ exponentOf num den :=
  le_max_right _ _

theorem exponentOf_eq (num_pos : 0 < num) (den_pos : 0 < den) (least : minExponent ≤ e)
    (low : 2 ^ (e + 52) ≤ (num : Rat) / den ∨ e = minExponent)
    (high : (num : Rat) / den < 2 ^ (e + 53)) : exponentOf num den = e := by
  obtain ⟨high', low'⟩ := exponentOf_bounds num_pos den_pos
  have least' := minExponent_le_exponentOf num den
  have below {a b : Int} (hlow : 2 ^ (a + 52) ≤ (num : Rat) / den)
      (hhigh : (num : Rat) / den < 2 ^ (b + 53)) : a ≤ b := by
    have powers : (2 : Rat) ^ (a + 52) < 2 ^ (b + 53) := hlow.trans_lt hhigh
    have exponents := (zpow_lt_zpow_iff_right₀ one_lt_two).mp powers
    omega
  apply le_antisymm
  · rcases low' with normal | subnormal
    · exact below normal high
    · omega
  · rcases low with normal | subnormal
    · exact below normal high'
    · omega

/-- The double nearest to a quotient is known by its exponent and the mantissa nearest to what
the exponent leaves. -/
theorem ofRatio_eq {m : Nat} (negative : Bool) (num_pos : 0 < num) (den_pos : 0 < den)
    (chosen : exponentOf num den = e) (near : |(num : Rat) / den / 2 ^ e - m| ≤ 1 / 2)
    (tie : |(num : Rat) / den / 2 ^ e - m| = 1 / 2 → Even m) :
    ofRatio negative num den = ofParts negative m e := by
  have divided : ((scaled 2 num den (-e)).1 : Rat) / (scaled 2 num den (-e)).2 =
      (num : Rat) / den / 2 ^ e := by
    rw [scaled_div two_pos, zpow_neg, div_eq_mul_inv (num / den : Rat)]
    rfl
  have positive := scaled_snd_pos two_pos num (-e) den_pos
  rcases quotient : scaled 2 num den (-e) with ⟨n, d⟩
  rw [quotient] at divided positive
  have rounded : roundDiv n d = m :=
    roundDiv_eq positive (by rwa [divided]) (by rwa [divided])
  have nonzero : ¬ (num == 0) = true := by simpa using num_pos.ne'
  unfold ofRatio
  rw [if_neg nonzero, chosen]
  simp only [quotient, rounded]

end Exponent

/-! ## Intervals -/

namespace Parts

variable {p : Parts} {num den : Nat}

/-- The mantissa and exponent that a finite double has: fifty-three bits, or fewer with the least
exponent. -/
structure IsCanonical (p : Parts) : Prop where
  least : minExponent ≤ p.exponent
  most : p.exponent ≤ 971
  bound : p.mantissa < 2 ^ 53
  normal : p.mantissa < 2 ^ 52 → p.exponent = minExponent

/-- How far the interval of a double goes below it, in units of its last place.  Doubles below a
power of two are twice as dense. -/
def reach (p : Parts) : Rat :=
  if p.mantissa = 2 ^ 52 ∧ minExponent < p.exponent then 1 / 4 else 1 / 2

/-- Whether a number of units of the last place rounds to the double. -/
def Holds (p : Parts) (x : Rat) : Prop :=
  (p.mantissa - p.reach < x ∧ x < p.mantissa + 1 / 2) ∨
    (Even p.mantissa ∧ p.mantissa - p.reach ≤ x ∧ x ≤ p.mantissa + 1 / 2)

theorem reach_cases : p.reach = 1 / 4 ∧ p.mantissa = 2 ^ 52 ∧ minExponent < p.exponent ∨
    p.reach = 1 / 2 ∧ (p.mantissa = 2 ^ 52 → p.exponent ≤ minExponent) := by
  unfold reach
  split
  next dense => exact .inl ⟨rfl, dense⟩
  next even => exact .inr ⟨rfl, fun same => not_lt.mp fun above => even ⟨same, above⟩⟩

theorem Holds.bounds {x : Rat} (h : p.Holds x) :
    p.mantissa - p.reach ≤ x ∧ x ≤ p.mantissa + 1 / 2 := by
  rcases h with ⟨low, high⟩ | ⟨-, low, high⟩
  · exact ⟨low.le, high.le⟩
  · exact ⟨low, high⟩

theorem interval_spec (positive : 0 < p.mantissa) :
    0 < p.interval.denominator ∧
      (p.interval.low : Rat) / p.interval.denominator = (p.mantissa - p.reach) * 2 ^ p.exponent ∧
      (p.interval.value : Rat) / p.interval.denominator = p.mantissa * 2 ^ p.exponent ∧
      (p.interval.high : Rat) / p.interval.denominator = (p.mantissa + 1 / 2) * 2 ^ p.exponent ∧
      (p.interval.closed = true ↔ Even p.mantissa) := by
  have den_pos := scaled_snd_pos two_pos 1 (p.exponent - 2) one_pos
  have quarter : ((scaled 2 1 1 (p.exponent - 2)).1 : Rat) / (scaled 2 1 1 (p.exponent - 2)).2 =
      2 ^ p.exponent / 4 := by
    rw [scaled_div two_pos]
    push_cast
    rw [zpow_sub₀ two_ne_zero]
    norm_num
  rcases quotient : scaled 2 1 1 (p.exponent - 2) with ⟨s, d⟩
  rw [quotient] at den_pos quarter
  have scale (a : Rat) : a * s / d = a / 4 * 2 ^ p.exponent := by
    rw [mul_div_assoc, quarter]
    ring
  unfold interval
  simp only [quotient]
  refine ⟨den_pos, ?_, ?_, ?_, ?_⟩
  · by_cases dense : p.mantissa = 2 ^ 52 ∧ minExponent < p.exponent
    · have counted : (p.mantissa == Nat.pow 2 52 && decide (minExponent < p.exponent)) = true := by
        rw [Bool.and_eq_true, beq_iff_eq, decide_eq_true_eq]
        exact dense
      rw [if_pos counted, reach, if_pos dense]
      push_cast [show 1 ≤ 4 * p.mantissa by omega]
      rw [scale]
      ring
    · have counted :
          ¬ (p.mantissa == Nat.pow 2 52 && decide (minExponent < p.exponent)) = true := by
        rw [Bool.and_eq_true, beq_iff_eq, decide_eq_true_eq]
        exact dense
      rw [if_neg counted, reach, if_neg dense]
      push_cast [show 2 ≤ 4 * p.mantissa by omega]
      rw [scale]
      ring
  · push_cast
    rw [scale]
    ring
  · push_cast
    rw [scale]
    ring
  · rw [beq_iff_eq, Nat.even_iff]

theorem mem_interval_iff (positive : 0 < p.mantissa) (den_pos : 0 < den) :
    p.interval.mem num den = true ↔ p.Holds ((num : Rat) / den / 2 ^ p.exponent) := by
  obtain ⟨scale, low, -, high, closed⟩ := interval_spec positive
  generalize p.interval = i at *
  have unit := two_zpow_pos p.exponent
  have scale' : (0 : Rat) < i.denominator := Nat.cast_pos.mpr scale
  have den_pos' : (0 : Rat) < den := Nat.cast_pos.mpr den_pos
  have above : (p.mantissa - p.reach < (num : Rat) / den / 2 ^ p.exponent) ↔
      i.low * den < num * i.denominator := by
    rw [lt_div_iff₀ unit, ← low, div_lt_div_iff₀ scale' den_pos']
    exact_mod_cast Iff.rfl
  have above' : (p.mantissa - p.reach ≤ (num : Rat) / den / 2 ^ p.exponent) ↔
      i.low * den ≤ num * i.denominator := by
    rw [le_div_iff₀ unit, ← low, div_le_div_iff₀ scale' den_pos']
    exact_mod_cast Iff.rfl
  have below : ((num : Rat) / den / 2 ^ p.exponent < p.mantissa + 1 / 2) ↔
      num * i.denominator < i.high * den := by
    rw [div_lt_iff₀ unit, ← high, div_lt_div_iff₀ den_pos' scale']
    exact_mod_cast Iff.rfl
  have below' : ((num : Rat) / den / 2 ^ p.exponent ≤ p.mantissa + 1 / 2) ↔
      num * i.denominator ≤ i.high * den := by
    rw [div_le_iff₀ unit, ← high, div_le_div_iff₀ den_pos' scale']
    exact_mod_cast Iff.rfl
  rw [Holds, above, above', below, below', ← closed]
  unfold Interval.mem
  cases i.closed with
  | true =>
      simp only [if_true, Bool.and_eq_true, decide_eq_true_eq, true_and]
      omega
  | false => simp

theorem Holds.near {x : Rat} (h : p.Holds x) (low : p.mantissa - 1 / 2 ≤ x) :
    |x - p.mantissa| ≤ 1 / 2 ∧ (|x - p.mantissa| = 1 / 2 → Even p.mantissa) := by
  obtain ⟨-, high⟩ := h.bounds
  refine ⟨abs_le.mpr ⟨by linarith, by linarith⟩, fun tie => ?_⟩
  rcases h with ⟨above, below⟩ | ⟨even, -⟩
  · rcases p.reach_cases with ⟨dense, power, -⟩ | ⟨half, -⟩
    · rw [power]
      exact ⟨2 ^ 51, by norm_num⟩
    · rcases (abs_eq one_half_pos.le).mp tie with top | bottom <;> linarith
  · exact even

theorem ofParts_carry (negative : Bool) (e : Int) :
    ofParts negative (2 ^ 53) (e - 1) = ofParts negative (2 ^ 52) e := by
  unfold ofParts
  simp

theorem Holds.pos {x : Rat} (positive : 0 < p.mantissa) (h : p.Holds x) : 0 < x := by
  have one : (1 : Rat) ≤ p.mantissa := by exact_mod_cast positive
  obtain ⟨low, -⟩ := h.bounds
  rcases p.reach_cases with ⟨dense, -⟩ | ⟨half, -⟩ <;> linarith

theorem Holds.num_pos (positive : 0 < p.mantissa)
    (h : p.Holds ((num : Rat) / den / 2 ^ p.exponent)) : 0 < num := by
  rw [Nat.pos_iff_ne_zero]
  rintro rfl
  simpa using h.pos positive

theorem ofRatio_of_full (canonical : p.IsCanonical) (positive : 0 < p.mantissa)
    (negative : Bool) (den_pos : 0 < den) (h : p.Holds ((num : Rat) / den / 2 ^ p.exponent))
    (full : 2 ^ 52 ≤ (num : Rat) / den / 2 ^ p.exponent ∨ p.exponent = minExponent) :
    ofRatio negative num den = ofParts negative p.mantissa p.exponent := by
  have unit := two_zpow_pos p.exponent
  have bound : (p.mantissa : Rat) + 1 ≤ 2 ^ 53 := by exact_mod_cast canonical.bound
  obtain ⟨low, high⟩ := h.bounds
  have chosen : exponentOf num den = p.exponent := by
    refine exponentOf_eq (h.num_pos positive) den_pos canonical.least ?_ ?_
    · rw [show (2 : Rat) ^ (p.exponent + 52) = 2 ^ 52 * 2 ^ p.exponent from two_zpow_add _ 52]
      exact full.imp_left (le_div_iff₀ unit).mp
    · rw [show (2 : Rat) ^ (p.exponent + 53) = 2 ^ 53 * 2 ^ p.exponent from two_zpow_add _ 53,
        ← div_lt_iff₀ unit]
      linarith
  have low' : p.mantissa - 1 / 2 ≤ (num : Rat) / den / 2 ^ p.exponent := by
    rcases p.reach_cases with ⟨dense, power, above⟩ | ⟨half, -⟩
    · rw [power]
      push_cast
      rcases full with wide | least
      · linarith
      · omega
    · linarith
  obtain ⟨near, tie⟩ := h.near low'
  exact ofRatio_eq negative (h.num_pos positive) den_pos chosen near tie

/-- Just below a power of two the places are half as wide, and rounding carries. -/
theorem ofRatio_of_carry (positive : 0 < p.mantissa) (negative : Bool) (den_pos : 0 < den)
    (h : p.Holds ((num : Rat) / den / 2 ^ p.exponent)) (power : p.mantissa = 2 ^ 52)
    (above : minExponent < p.exponent) (below : (num : Rat) / den / 2 ^ p.exponent < 2 ^ 52) :
    ofRatio negative num den = ofParts negative p.mantissa p.exponent := by
  have unit := two_zpow_pos p.exponent
  obtain ⟨low, -⟩ := h.bounds
  rw [reach, if_pos ⟨power, above⟩, power] at low
  push_cast at low
  have chosen : exponentOf num den = p.exponent - 1 := by
    refine exponentOf_eq (h.num_pos positive) den_pos (by omega) (.inl ?_) ?_
    · rw [show p.exponent - 1 + 52 = p.exponent + 51 by ring,
        show (2 : Rat) ^ (p.exponent + 51) = 2 ^ 51 * 2 ^ p.exponent from two_zpow_add _ 51,
        ← le_div_iff₀ unit]
      linarith
    · rw [show p.exponent - 1 + 53 = p.exponent + 52 by ring,
        show (2 : Rat) ^ (p.exponent + 52) = 2 ^ 52 * 2 ^ p.exponent from two_zpow_add _ 52]
      exact (div_lt_iff₀ unit).mp below
  have doubled : (num : Rat) / den / 2 ^ (p.exponent - 1) =
      2 * ((num : Rat) / den / 2 ^ p.exponent) := by
    rw [zpow_sub_one₀ two_ne_zero]
    field_simp
  rw [power, ← ofParts_carry]
  refine ofRatio_eq negative (h.num_pos positive) den_pos chosen ?_ fun _ => ⟨2 ^ 52, by norm_num⟩
  rw [doubled, abs_le]
  push_cast
  constructor <;> linarith

/-- A quotient in the interval of a double is rounded to it. -/
theorem ofRatio_of_holds (canonical : p.IsCanonical) (positive : 0 < p.mantissa)
    (negative : Bool) (den_pos : 0 < den) (h : p.Holds ((num : Rat) / den / 2 ^ p.exponent)) :
    ofRatio negative num den = ofParts negative p.mantissa p.exponent := by
  by_cases full : 2 ^ 52 ≤ (num : Rat) / den / 2 ^ p.exponent ∨ p.exponent = minExponent
  · exact ofRatio_of_full canonical positive negative den_pos h full
  · obtain ⟨narrow, other⟩ := not_or.mp full
    have below := not_le.mp narrow
    have above : minExponent < p.exponent := lt_of_le_of_ne canonical.least (Ne.symm other)
    have wide : 2 ^ 52 ≤ p.mantissa := not_lt.mp fun short => other (canonical.normal short)
    obtain ⟨low, -⟩ := h.bounds
    -- Only the least mantissa of an exponent has an interval that goes below its exponent.
    have least : (p.mantissa : Rat) < 2 ^ 52 + 1 := by
      rcases p.reach_cases with ⟨dense, -⟩ | ⟨half, -⟩ <;> linarith
    have power : p.mantissa = 2 ^ 52 := by
      have least' : p.mantissa < 2 ^ 52 + 1 := by exact_mod_cast least
      omega
    exact ofRatio_of_carry positive negative den_pos h power above below

end Parts

end StillMotion.Number
