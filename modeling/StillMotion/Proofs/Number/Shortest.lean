import Mathlib.Data.Nat.Cast.Order.Field
import StillMotion.Number.Shortest
import StillMotion.Proofs.Number.Nearest

/-!
# Fewest digits round back

Seventeen digits put a point of the decimal grid into the interval of any double, so the search
for the fewest digits finds one, and the decimal that it finds is rounded to the double.
-/

namespace StillMotion.Number

def Decimal.value (d : Decimal) : Rat := d.digits * 10 ^ d.exponent

theorem ten_zpow_pos (e : Int) : (0 : Rat) < 10 ^ e := zpow_pos (by norm_num) e

/-! ## The leading digit -/

section Leading

variable {num den : Nat}

theorem pow_digitCount_le {n : Nat} (positive : 0 < n) : 10 ^ (digitCount n - 1) ≤ n := by
  unfold digitCount
  by_contra less
  rcases Nat.lt_or_ge 1 (Nat.toDigits 10 n).length with many | one
  · have short := (Nat.length_toDigits_le_iff (b := 10) (by norm_num)
      (Nat.sub_pos_of_lt many)).mpr (not_le.mp less)
    omega
  · rw [Nat.sub_eq_zero_of_le one, pow_zero] at less
    omega

theorem le_mul_pow_leadingZeros {fuel : Nat} (enough : den ≤ num * 10 ^ fuel) :
    den ≤ num * 10 ^ leadingZeros den fuel num := by
  induction fuel generalizing num with
  | zero => simpa [leadingZeros] using enough
  | succ fuel ih =>
      unfold leadingZeros
      split
      next done => simpa using done
      next small =>
          have enough' : den ≤ 10 * num * 10 ^ fuel := by
            rw [pow_succ] at enough
            linarith
          have later := ih enough'
          rw [pow_succ]
          linarith

theorem pow_decimalExponent_le (den_pos : 0 < den)
    (enough : den ≤ num * 10 ^ 400) :
    (10 : Rat) ^ (decimalExponent num den - 1) ≤ (num : Rat) / den := by
  have scale : (0 : Rat) < den := Nat.cast_pos.mpr den_pos
  unfold decimalExponent
  split
  next whole =>
      have positive : 0 < num / den := Nat.div_pos whole den_pos
      have digits : 1 ≤ digitCount (num / den) := Nat.length_toDigits_pos
      have lead := pow_digitCount_le positive
      have lead' : (10 : Rat) ^ (digitCount (num / den) - 1) ≤ (num / den : Nat) := by
        exact_mod_cast lead
      rw [← Nat.cast_one, ← Nat.cast_sub digits, zpow_natCast]
      exact lead'.trans Nat.cast_div_le
  next part =>
      have lead := le_mul_pow_leadingZeros enough
      have lead' : (den : Rat) ≤ num * 10 ^ leadingZeros den 400 num := by exact_mod_cast lead
      rw [show (1 : Int) - (leadingZeros den 400 num : Int) - 1 =
        -(leadingZeros den 400 num : Int) by ring, zpow_neg, zpow_natCast, le_div_iff₀ scale,
        inv_mul_le_iff₀ (by positivity)]
      linarith

end Leading

/-! ## The grid -/

section Grid

variable {p : Parts} {k e : Int}

theorem scaled_ten_div (n den : Nat) (e : Int) :
    ((scaled 10 n den e).1 : Rat) / (scaled 10 n den e).2 = (n : Rat) / den * 10 ^ e := by
  have divided := scaled_div (show 0 < 10 by norm_num) n e den
  exact_mod_cast divided

theorem roundDiv_mem (num den : Nat) :
    roundDiv num den = num / den ∨ roundDiv num den = num / den + 1 := by
  unfold roundDiv
  grind

theorem mem_scaled_iff (positive : 0 < p.mantissa) (m : Nat) (e : Int) :
    p.interval.mem (scaled 10 m 1 e).1 (scaled 10 m 1 e).2 = true ↔
      p.Holds (m * 10 ^ e / 2 ^ p.exponent) := by
  rw [Parts.mem_interval_iff positive
    (scaled_snd_pos (show 0 < 10 by norm_num) m e one_pos), scaled_ten_div, Nat.cast_one, div_one]

theorem holds_of_onGrid? (positive : 0 < p.mantissa) {digits : Nat}
    (h : p.interval.onGrid? e = some digits) :
    p.Holds (digits * 10 ^ e / 2 ^ p.exponent) := by
  unfold Interval.onGrid? at h
  dsimp only at h
  split at h
  next => cases h
  next low high =>
      cases h
      exact (mem_scaled_iff positive _ _).mp low
  next low high =>
      cases h
      exact (mem_scaled_iff positive _ _).mp high
  next low high =>
      cases h
      rcases roundDiv_mem (scaled 10 p.interval.value p.interval.denominator (-e)).1
        (scaled 10 p.interval.value p.interval.denominator (-e)).2 with down | up
      · rw [down]
        exact (mem_scaled_iff positive _ _).mp low
      · rw [up]
        exact (mem_scaled_iff positive _ _).mp high

theorem Parts.holds_or_holds {x width : Rat} (below : x ≤ p.mantissa)
    (above : p.mantissa < x + width) (fine : width * 10 ^ 16 ≤ p.mantissa)
    (bound : p.mantissa < 2 ^ 53) : p.Holds x ∨ p.Holds (x + width) := by
  have bound' : (p.mantissa : Rat) < 2 ^ 53 := by exact_mod_cast bound
  rcases p.reach_cases with ⟨dense, power, -⟩ | ⟨half, -⟩
  · have power' : (p.mantissa : Rat) = 2 ^ 52 := by exact_mod_cast power
    refine .inr (.inl ⟨?_, ?_⟩) <;> linarith
  · by_cases near : p.mantissa - 1 / 2 < x
    · exact .inl (.inl ⟨by linarith, by linarith⟩)
    · exact .inr (.inl ⟨by linarith, by linarith⟩)

/-- Seventeen digits are enough. -/
theorem onGrid?_isSome (positive : 0 < p.mantissa) (bound : p.mantissa < 2 ^ 53)
    (lead : 10 ^ (k - 1) ≤ (p.interval.value : Rat) / p.interval.denominator) :
    (p.interval.onGrid? (k - 17)).isSome = true := by
  obtain ⟨den_pos, -, value, -⟩ := Parts.interval_spec positive
  have unit := two_zpow_pos p.exponent
  have ten := ten_zpow_pos (k - 17)
  have fine : (10 : Rat) ^ (k - 17) / 2 ^ p.exponent * 10 ^ 16 ≤ p.mantissa := by
    rw [value, show k - 1 = k - 17 + 16 by ring, zpow_add₀ (by norm_num)] at lead
    rw [div_mul_eq_mul_div, div_le_iff₀ unit]
    exact_mod_cast lead
  have positive' := scaled_snd_pos (show 0 < 10 by norm_num) p.interval.value (-(k - 17)) den_pos
  have divided := scaled_ten_div p.interval.value p.interval.denominator (-(k - 17))
  rcases quotient : scaled 10 p.interval.value p.interval.denominator (-(k - 17)) with ⟨n, d⟩
  rw [quotient] at positive' divided
  have scale : (0 : Rat) < d := Nat.cast_pos.mpr positive'
  rw [value, zpow_neg, ← div_eq_mul_inv] at divided
  have point : (p.mantissa : Rat) = (n : Rat) / d * 10 ^ (k - 17) / 2 ^ p.exponent := by
    rw [divided]
    field_simp
  have floor : ((n / d : Nat) : Rat) ≤ (n : Rat) / d := Nat.cast_div_le
  have ceiling : (n : Rat) / d < (n / d : Nat) + 1 := by
    rw [div_lt_iff₀ scale]
    exact_mod_cast Nat.lt_mul_of_div_lt (Nat.lt_succ_self (n / d)) positive'
  have neighbour : p.Holds ((n / d : Nat) * 10 ^ (k - 17) / 2 ^ p.exponent) ∨
      p.Holds ((n / d + 1 : Nat) * 10 ^ (k - 17) / 2 ^ p.exponent) := by
    rw [Nat.cast_add_one, add_one_mul, add_div]
    refine Parts.holds_or_holds ?_ ?_ fine bound
    · rw [point]
      gcongr
    · rw [point, ← add_div, ← add_one_mul]
      gcongr
  rw [← mem_scaled_iff positive, ← mem_scaled_iff positive] at neighbour
  unfold Interval.onGrid?
  simp only [quotient]
  split
  next low high =>
      rw [low, high] at neighbour
      simp at neighbour
  all_goals rfl

theorem search_spec (i : Interval) (fuel count : Nat)
    (last : (i.onGrid? (k - (count + fuel : Nat))).isSome = true) :
    i.onGrid? (i.search k fuel count).exponent = some (i.search k fuel count).digits := by
  induction fuel generalizing count with
  | zero =>
      obtain ⟨digits, found⟩ := Option.isSome_iff_exists.mp last
      simpa [Interval.search] using congrArg (Option.getD · 0) found ▸ found
  | succ fuel ih =>
      unfold Interval.search
      split
      next digits found => exact found
      next => exact ih (count + 1) (by rwa [Nat.add_right_comm, Nat.add_assoc])

end Grid

/-! ## Zeros at the end -/

theorem normalize_go_spec {d : Decimal} (positive : 0 < d.digits) (fuel : Nat) :
    0 < (Decimal.normalize.go fuel d).digits ∧ (Decimal.normalize.go fuel d).value = d.value := by
  induction fuel generalizing d with
  | zero => exact ⟨positive, rfl⟩
  | succ fuel ih =>
      unfold Decimal.normalize.go
      split
      next zero =>
          have multiple : d.digits / 10 * 10 = d.digits :=
            Nat.div_mul_cancel (Nat.dvd_of_mod_eq_zero (beq_iff_eq.mp zero))
          obtain ⟨positive', same⟩ := ih (d := ⟨d.digits / 10, d.exponent + 1⟩)
            (Nat.pos_of_mul_pos_right (multiple ▸ positive))
          refine ⟨positive', same.trans ?_⟩
          have multiple' : ((d.digits / 10 : Nat) : Rat) * 10 = d.digits := by
            exact_mod_cast multiple
          rw [Decimal.value, Decimal.value, zpow_add_one₀ (by norm_num), ← multiple']
          ring
      next => exact ⟨positive, rfl⟩

theorem normalize_spec {d : Decimal} (positive : 0 < d.digits) :
    0 < d.normalize.digits ∧ d.normalize.value = d.value := by
  unfold Decimal.normalize
  rw [if_neg (by simpa using positive.ne')]
  exact normalize_go_spec positive 30

/-! ## The decimal of a double -/

/-- No double is too small for the search for its leading digit. -/
theorem interval_enough {p : Parts} (canonical : p.IsCanonical) (positive : 0 < p.mantissa) :
    0 < p.interval.value ∧ p.interval.denominator ≤ p.interval.value * 10 ^ 400 := by
  obtain ⟨den_pos, -, value, -⟩ := Parts.interval_spec positive
  have scale : (0 : Rat) < p.interval.denominator := Nat.cast_pos.mpr den_pos
  have one : (1 : Rat) ≤ p.mantissa := by exact_mod_cast positive
  have unit : (2 : Rat) ^ minExponent ≤ 2 ^ p.exponent :=
    zpow_le_zpow_right₀ one_le_two canonical.least
  have least : (1 : Rat) / 10 ^ 400 ≤ 2 ^ minExponent := by
    rw [minExponent, show (-1074 : Int) = -((1074 : Nat) : Int) by norm_num, zpow_neg,
      zpow_natCast, ← one_div]
    refine one_div_le_one_div_of_le (by norm_num) ?_
    calc (2 : Rat) ^ 1074 ≤ 2 ^ (3 * 400) := pow_le_pow_right₀ one_le_two (by norm_num)
      _ = 8 ^ 400 := by rw [pow_mul]; norm_num
      _ ≤ 10 ^ 400 := pow_le_pow_left₀ (by norm_num) (by norm_num) 400
  have large : (1 : Rat) / 10 ^ 400 ≤ (p.interval.value : Rat) / p.interval.denominator := by
    rw [value]
    exact least.trans (unit.trans (le_mul_of_one_le_left (two_zpow_pos _).le one))
  rw [div_le_div_iff₀ (by positivity) scale, one_mul] at large
  have enough : p.interval.denominator ≤ p.interval.value * 10 ^ 400 := by exact_mod_cast large
  refine ⟨Nat.pos_of_ne_zero fun none => ?_, enough⟩
  rw [none, Nat.zero_mul] at enough
  omega

/-- The decimal of a double lies in its interval. -/
theorem Parts.shortest_spec {p : Parts} (canonical : p.IsCanonical) (positive : 0 < p.mantissa) :
    0 < p.shortest.digits ∧ p.Holds (p.shortest.value / 2 ^ p.exponent) := by
  obtain ⟨den_pos, -⟩ := Parts.interval_spec positive
  obtain ⟨value_pos, enough⟩ := interval_enough canonical positive
  have lead := pow_decimalExponent_le den_pos enough
  have last : (p.interval.onGrid? (decimalExponent p.interval.value p.interval.denominator -
      (1 + 16 : Nat))).isSome = true := onGrid?_isSome positive canonical.bound lead
  have found := search_spec p.interval 16 1 last
  have holds := holds_of_onGrid? positive found
  unfold Parts.shortest
  rw [if_neg (by simpa using positive.ne')]
  dsimp only
  generalize p.interval.search _ 16 1 = d at *
  have digits : 0 < d.digits := by
    rw [Nat.pos_iff_ne_zero]
    intro none
    rw [none] at holds
    simpa using holds.pos positive
  obtain ⟨positive', same⟩ := normalize_spec digits
  exact ⟨positive', by rwa [same]⟩

end StillMotion.Number
