import Mathlib
import StillMotion.Proofs.Number.Nearest

/-!
# The bits of finite doubles

A finite double is put together again from its parts, and its sign is one bit.  What is put
together is finite up to the greatest double, so an integer is the double nearest to it exactly
below a bound.  An integer and a finite double are compared as the numbers that they are.
-/

namespace StillMotion.Number

open Float.Model Float.Model.UnpackedFloat

/-- The bits of a finite double, by its sign, its mantissa and its exponent. -/
def Parts.bits (p : Parts) : Nat :=
  (if p.negative then 2 ^ 63 else 0) +
    if p.mantissa < 2 ^ 52 then p.mantissa
    else (p.exponent + 1075).toNat * 2 ^ 52 + (p.mantissa - 2 ^ 52)

theorem ofParts_eq {p : Parts} (canonical : p.IsCanonical) :
    ofParts p.negative p.mantissa p.exponent = Float.ofBits (UInt64.ofNat p.bits) := by
  have bound := canonical.bound
  have most := canonical.most
  have noCarry : (p.mantissa == Nat.pow 2 53) = false := by
    rw [Nat.pow_eq, beq_eq_false_iff_ne]
    omega
  unfold ofParts
  simp only [noCarry, Bool.false_eq_true, if_false]
  rw [if_neg (by omega), Parts.bits]
  simp only [Nat.pow_eq]
  split
  · rfl
  · rw [Nat.add_assoc]

theorem classifyBits_eq_finite {bits : UInt64} {p : Parts}
    (h : classifyBits bits = .finite p) : p.IsCanonical ∧ p.bits = bits.toNat := by
  have bound : bits.toNat < 2 ^ 64 := bits.toNat_lt
  unfold classifyBits at h
  simp only [Nat.pow_eq] at h
  generalize bits.toNat = n at *
  have sign : (if (n / 2 ^ 63 == 1) = true then 2 ^ 63 else 0) = n / 2 ^ 63 * 2 ^ 63 := by
    have bit : n / 2 ^ 63 = 0 ∨ n / 2 ^ 63 = 1 := by omega
    rcases bit with plus | minus
    · rw [plus]
      rfl
    · rw [minus]
      rfl
  split at h
  next special => split at h <;> cases h
  next usual =>
      rw [beq_iff_eq] at usual
      split at h
      next subnormal =>
          rw [beq_iff_eq] at subnormal
          cases h
          have short : n % 2 ^ 52 < 2 ^ 52 := Nat.mod_lt n (by norm_num)
          refine ⟨⟨le_refl minExponent, ?_, short.trans (by norm_num), fun _ => rfl⟩, ?_⟩
          · dsimp only [minExponent]
            omega
          · dsimp only [Parts.bits]
            rw [sign, if_pos short]
            omega
      next normal =>
          rw [beq_iff_eq] at normal
          cases h
          have full : ¬ 2 ^ 52 + n % 2 ^ 52 < 2 ^ 52 := by omega
          refine ⟨⟨?_, ?_, ?_, fun short => absurd short full⟩, ?_⟩
          · dsimp only [minExponent]
            omega
          · dsimp only
            omega
          · dsimp only
            omega
          · dsimp only [Parts.bits]
            rw [sign, if_neg full]
            omega

theorem ofParts_of_classify {x : Float} {p : Parts} (h : classify x = .finite p) :
    p.IsCanonical ∧ ofParts p.negative p.mantissa p.exponent = x := by
  obtain ⟨canonical, same⟩ := classifyBits_eq_finite h
  refine ⟨canonical, ?_⟩
  rw [ofParts_eq canonical, same, UInt64.ofNat_toNat, Float.ofBits_toBits]

/-! ## Negation -/

def doubleBits (n : Nat) : BitVec Format.binary64.numBits := BitVec.ofNat 64 n

theorem toNat_doubleBits {n : Nat} (h : n < 2 ^ 64) : (doubleBits n).toNat = n :=
  (BitVec.toNat_ofNat n 64).trans (Nat.mod_eq_of_lt h)

theorem unpackExponent_doubleBits {n : Nat} (h : n < 2 ^ 64) :
    (unpackExponent (doubleBits n)).toNat = n / 2 ^ 52 % 2048 := by
  simp only [unpackExponent, BitVec.toNat_cast, BitVec.extractLsb_toNat, toNat_doubleBits h,
    Nat.shiftRight_eq_div_pow]

theorem unpackMantissa_doubleBits {n : Nat} (h : n < 2 ^ 64) :
    (unpackMantissa (doubleBits n)).toNat = n % 2 ^ 52 := by
  simp only [unpackMantissa, BitVec.toNat_cast, BitVec.extractLsb_toNat, toNat_doubleBits h,
    Nat.shiftRight_eq_div_pow]
  omega

theorem unpackSign_doubleBits {n : Nat} (h : n < 2 ^ 64) :
    (unpackSign (doubleBits n)).toNat = n / 2 ^ 63 := by
  simp only [unpackSign, BitVec.toNat_cast, BitVec.extractLsb_toNat, toNat_doubleBits h,
    Nat.shiftRight_eq_div_pow]
  omega

theorem pack_unpack_doubleBits {n : Nat} (h : n < 2 ^ 64) (finite : n / 2 ^ 52 % 2048 ≠ 2047) :
    (unpack Format.binary64 (doubleBits n)).pack Format.binary64 = doubleBits n := by
  have usual : isNaNBits (doubleBits n) = false := by
    rw [isNaNBits, decide_eq_false_iff_not]
    rintro ⟨full, -⟩
    apply finite
    rw [← unpackExponent_doubleBits h, full]
    rfl
  rw [pack_unpack, usual]
  rfl

theorem neg_unpack_doubleBits {n : Nat} (h : n < 2 ^ 63) :
    (unpack Format.binary64 (doubleBits n)).neg =
      unpack Format.binary64 (doubleBits (2 ^ 63 + n)) := by
  have exponent : unpackExponent (doubleBits (2 ^ 63 + n)) = unpackExponent (doubleBits n) := by
    apply BitVec.eq_of_toNat_eq
    rw [unpackExponent_doubleBits (by omega), unpackExponent_doubleBits (by omega)]
    omega
  have mantissa : unpackMantissa (doubleBits (2 ^ 63 + n)) = unpackMantissa (doubleBits n) := by
    apply BitVec.eq_of_toNat_eq
    rw [unpackMantissa_doubleBits (by omega), unpackMantissa_doubleBits (by omega)]
    omega
  have plus : unpackSign (doubleBits n) = 0#1 := by
    apply BitVec.eq_of_toNat_eq
    rw [unpackSign_doubleBits (by omega), Nat.div_eq_of_lt h]
    rfl
  have minus : unpackSign (doubleBits (2 ^ 63 + n)) = 1#1 := by
    apply BitVec.eq_of_toNat_eq
    rw [unpackSign_doubleBits (by omega), show (2 ^ 63 + n) / 2 ^ 63 = 1 by omega]
    rfl
  unfold UnpackedFloat.unpack
  simp only [exponent, mantissa, plus, minus]
  split
  · split <;> rfl
  · split
    · split <;> rfl
    · rfl

theorem neg_ofBits {n : Nat} (h : n < 2047 * 2 ^ 52) :
    -Float.ofBits (UInt64.ofNat n) = Float.ofBits (UInt64.ofNat (2 ^ 63 + n)) := by
  rw [← Float.toBits_inj, ← UInt64.toBitVec_inj]
  change ((unpack Format.binary64 ((unpack Format.binary64 (doubleBits n)).pack
    Format.binary64)).neg).pack Format.binary64 =
      (unpack Format.binary64 (doubleBits (2 ^ 63 + n))).pack Format.binary64
  rw [pack_unpack_doubleBits (by omega) (by omega), neg_unpack_doubleBits (by omega)]

theorem neg_ofParts {p : Parts} (canonical : p.IsCanonical) :
    -ofParts false p.mantissa p.exponent = ofParts true p.mantissa p.exponent := by
  have bound := canonical.bound
  have most := canonical.most
  have least := canonical.least
  have normal := canonical.normal
  have plus := ofParts_eq (p := ⟨false, p.mantissa, p.exponent⟩) ⟨least, most, bound, normal⟩
  have minus := ofParts_eq (p := ⟨true, p.mantissa, p.exponent⟩) ⟨least, most, bound, normal⟩
  rw [plus, minus, neg_ofBits]
  · simp [Parts.bits]
  · simp only [Parts.bits, Bool.false_eq_true, if_false]
    split <;> omega

/-! ## The range of doubles -/

theorem isFinite_infinity (negative : Bool) : isFinite (infinity negative) = false := by
  cases negative <;> decide +kernel

theorem toBits_ofBits {n : Nat} (h : n < 2 ^ 64) (finite : n / 2 ^ 52 % 2048 ≠ 2047) :
    (Float.ofBits (UInt64.ofNat n)).toBits = UInt64.ofNat n := by
  rw [← UInt64.toBitVec_inj]
  exact pack_unpack_doubleBits h finite

theorem isFinite_ofBits {n : Nat} (h : n < 2 ^ 64) (finite : n / 2 ^ 52 % 2048 ≠ 2047) :
    isFinite (Float.ofBits (UInt64.ofNat n)) = true := by
  have bits : (UInt64.ofNat n).toNat = n := by
    rw [UInt64.toNat_ofNat']
    exact Nat.mod_eq_of_lt h
  have usual : (n / Nat.pow 2 52 % 2048 == 2047) = false := by
    rw [beq_eq_false_iff_ne]
    exact finite
  rw [isFinite, classify, toBits_ofBits h finite]
  simp only [classifyBits, bits, usual, Bool.false_eq_true, if_false]
  cases n / Nat.pow 2 52 % 2048 == 0 <;> rfl

theorem isFinite_ofParts_iff {m : Nat} {e : Int} (negative : Bool) (bound : m ≤ 2 ^ 53)
    (least : minExponent ≤ e) :
    isFinite (ofParts negative m e) = true ↔ e ≤ 971 ∧ (m = 2 ^ 53 → e < 971) := by
  rw [minExponent] at least
  have sign : (if negative then 2 ^ 63 else 0) = 0 ∨ (if negative then 2 ^ 63 else 0) = 2 ^ 63 := by
    cases negative <;> simp
  unfold ofParts
  simp only [Nat.pow_eq, beq_iff_eq]
  generalize (if negative then 2 ^ 63 else 0) = s at *
  split
  next carry =>
      split
      next above =>
          rw [isFinite_infinity]
          simp only [Bool.false_eq_true, false_iff]
          omega
      next within =>
          rw [if_neg (lt_irrefl _), isFinite_ofBits (by omega) (by omega)]
          exact iff_of_true rfl ⟨by omega, by omega⟩
  next full =>
      split
      next above =>
          rw [isFinite_infinity]
          simp only [Bool.false_eq_true, false_iff]
          omega
      next within =>
          split
          next subnormal =>
              rw [isFinite_ofBits (by omega) (by omega)]
              exact iff_of_true rfl ⟨by omega, by omega⟩
          next normal =>
              rw [isFinite_ofBits (by omega) (by omega)]
              exact iff_of_true rfl ⟨by omega, by omega⟩

/-- Integers from here on are nearer to the power of two above the greatest double than to it. -/
def integerBound : Nat := (2 ^ 54 - 1) * 2 ^ 970

theorem integerBound_eq : (integerBound : Rat) = (2 ^ 53 - 1 / 2) * 2 ^ (971 : Int) := by
  have doubled : (2 : Rat) ^ (971 : Int) = 2 * 2 ^ 970 := by
    rw [show (971 : Int) = (970 : Nat) + 1 by norm_num, zpow_add_one₀ two_ne_zero, zpow_natCast,
      mul_comm]
  rw [doubled, integerBound, Nat.cast_mul, Nat.cast_pow]
  generalize ((2 : Nat) : Rat) ^ 970 = unit at *
  norm_num
  ring

/-- A mantissa and an exponent are out of range exactly when they are those of an integer from
the bound on: the tie at the bound goes to the even mantissa, which is too large. -/
theorem rounded_lt_iff {n m : Nat} {e : Int}
    (high : (n : Rat) < 2 ^ (e + 53)) (low : 2 ^ (e + 52) ≤ (n : Rat) ∨ e = minExponent)
    (near : |(m : Rat) - n / 2 ^ e| ≤ 1 / 2) (tie : |(m : Rat) - n / 2 ^ e| = 1 / 2 → Even m) :
    (e ≤ 971 ∧ (m = 2 ^ 53 → e < 971)) ↔ n < integerBound := by
  have cast : (n : Rat) < integerBound ↔ n < integerBound := Nat.cast_lt
  rw [← cast, integerBound_eq]
  have unit := two_zpow_pos 971
  rcases lt_trichotomy e 971 with small | rfl | large
  · refine iff_of_true ⟨small.le, fun _ => small⟩ ?_
    have wide : (2 : Rat) ^ (e + 53) ≤ 2 ^ (52 + 971 : Int) :=
      zpow_le_zpow_right₀ one_le_two (by omega)
    rw [zpow_add₀ two_ne_zero 52 971] at wide
    generalize (2 : Rat) ^ (971 : Int) = u at *
    calc (n : Rat) < 2 ^ (52 : Int) * u := high.trans_le wide
      _ ≤ (2 ^ 53 - 1 / 2) * u := mul_le_mul_of_nonneg_right (by norm_num) unit.le
  · have below : (n : Rat) / 2 ^ (971 : Int) < 2 ^ 53 := by
      rw [zpow_add₀ two_ne_zero 971 53, mul_comm, ← div_lt_iff₀ unit] at high
      exact_mod_cast high
    rw [← div_lt_iff₀ unit]
    generalize (n : Rat) / 2 ^ (971 : Int) = x at *
    have sides := abs_le.mp near
    constructor
    · rintro ⟨-, carries⟩
      by_contra above
      rw [not_lt] at above
      have least : 2 ^ 53 < m + 2 := by
        have : (2 : Rat) ^ 53 < m + 2 := by linarith
        exact_mod_cast this
      have most : m < 2 ^ 53 + 1 := by
        have : (m : Rat) < 2 ^ 53 + 1 := by linarith
        exact_mod_cast this
      have odd : m + 1 = 2 ^ 53 := by omega
      have odd' : (m : Rat) + 1 = 2 ^ 53 := by exact_mod_cast odd
      have even := tie (abs_eq (by norm_num) |>.mpr (.inr (by linarith)))
      rw [Nat.even_iff] at even
      omega
    · intro inside
      refine ⟨le_refl _, fun carries => ?_⟩
      rw [carries] at sides
      push_cast at sides
      linarith
  · refine iff_of_false (fun within => by omega) (not_lt.mpr ?_)
    have wide : (2 : Rat) ^ (53 + 971 : Int) ≤ 2 ^ (e + 52) :=
      zpow_le_zpow_right₀ one_le_two (by omega)
    rw [zpow_add₀ two_ne_zero 53 971] at wide
    have normal : (2 : Rat) ^ (e + 52) ≤ n := low.resolve_right (by rw [minExponent]; omega)
    generalize (2 : Rat) ^ (971 : Int) = u at *
    calc (2 ^ 53 - 1 / 2 : Rat) * u ≤ 2 ^ (53 : Int) * u :=
          mul_le_mul_of_nonneg_right (by norm_num) unit.le
      _ ≤ n := wide.trans normal

theorem integerBound_pos : 0 < integerBound := by
  rw [integerBound]
  positivity

theorem ofRatio_zero (negative : Bool) (den : Nat) :
    ofRatio negative 0 den = ofParts negative 0 minExponent := if_pos (beq_self_eq_true 0)

theorem isFinite_ofRatio_zero (negative : Bool) (den : Nat) :
    isFinite (ofRatio negative 0 den) = true := by
  rw [ofRatio_zero, isFinite_ofParts_iff negative (Nat.zero_le _) (le_refl _)]
  exact ⟨by decide, fun h => by omega⟩

theorem exists_ofRatio_eq {num den : Nat} (negative : Bool) (num_pos : 0 < num)
    (den_pos : 0 < den) :
    ∃ m : Nat, |(m : Rat) - (num : Rat) / den / 2 ^ exponentOf num den| ≤ 1 / 2 ∧
      (|(m : Rat) - (num : Rat) / den / 2 ^ exponentOf num den| = 1 / 2 → Even m) ∧
      ofRatio negative num den = ofParts negative m (exponentOf num den) := by
  have scale := scaled_snd_pos two_pos num (-exponentOf num den) den_pos
  obtain ⟨near, tie⟩ := roundDiv_sub_div (scaled 2 num den (-exponentOf num den)).1 scale
  rw [scaled_div two_pos, zpow_neg, ← div_eq_mul_inv, Nat.cast_two] at near tie
  refine ⟨_, near, tie, ofRatio_eq negative num_pos den_pos rfl ?_ ?_⟩
  · rwa [abs_sub_comm]
  · rwa [abs_sub_comm]

theorem isFinite_ofRatio_one_iff {n : Nat} (negative : Bool) (positive : 0 < n) :
    isFinite (ofRatio negative n 1) = true ↔ n < integerBound := by
  obtain ⟨high, low⟩ := exponentOf_bounds positive Nat.one_pos
  obtain ⟨m, near, tie, rounded⟩ := exists_ofRatio_eq negative positive Nat.one_pos
  have least := minExponent_le_exponentOf n 1
  rw [rounded]
  rw [Nat.cast_one, div_one] at high low near tie
  have below : (n : Rat) / 2 ^ exponentOf n 1 < 2 ^ 53 := by
    rw [zpow_add₀ two_ne_zero, mul_comm, ← div_lt_iff₀ (two_zpow_pos _)] at high
    exact_mod_cast high
  have most : m ≤ 2 ^ 53 := by
    have sides := abs_le.mp near
    have cast : (m : Rat) < 2 ^ 53 + 1 := by linarith
    have : m < 2 ^ 53 + 1 := by exact_mod_cast cast
    omega
  rw [isFinite_ofParts_iff negative most least, rounded_lt_iff high low near tie]

theorem ofInt?_eq_none_iff {n : Int} : ofInt? n = none ↔ integerBound ≤ n.natAbs := by
  have finite : isFinite (ofRatio (decide (n < 0)) n.natAbs 1) = true ↔ n.natAbs < integerBound := by
    rcases Nat.eq_zero_or_pos n.natAbs with zero | positive
    · rw [zero]
      exact iff_of_true (isFinite_ofRatio_zero _ 1) integerBound_pos
    · exact isFinite_ofRatio_one_iff _ positive
  unfold ofInt? ofInt
  dsimp only
  split
  next inside =>
      rw [inside] at finite
      exact iff_of_false (fun h => nomatch h) (not_le.mpr (finite.mp rfl))
  next outside => exact iff_of_true rfl (not_lt.mp fun below => outside (finite.mpr below))

/-! ## Integers beside doubles -/

def Parts.value (p : Parts) : Rat :=
  if p.negative then -(p.mantissa * 2 ^ p.exponent) else p.mantissa * 2 ^ p.exponent

theorem Parts.value_eq (p : Parts) :
    p.value = (if p.negative then -(p.ratio.1 : Rat) else p.ratio.1) / p.ratio.2 := by
  have size : (p.ratio.1 : Rat) / p.ratio.2 = p.mantissa * 2 ^ p.exponent := by
    have scale := scaled_div two_pos p.mantissa p.exponent 1
    rwa [Nat.cast_one, div_one, Nat.cast_two] at scale
  unfold value
  rw [← size]
  split
  · rw [neg_div]
  · rfl

theorem compareInt?_eq_gt_iff {x : Float} {p : Parts} (finite : classify x = .finite p) (n : Int) :
    compareInt? n x = some .gt ↔ p.value < n := by
  have den : (0 : Rat) < p.ratio.2 := by
    exact_mod_cast scaled_snd_pos two_pos p.mantissa p.exponent Nat.one_pos
  have cast : ((if p.negative then -(p.ratio.1 : Int) else p.ratio.1 : Int) : Rat) =
      if p.negative then -(p.ratio.1 : Rat) else p.ratio.1 := by
    split <;> push_cast <;> rfl
  rw [p.value_eq, ← cast, div_lt_iff₀ den]
  simp only [compareInt?, finite, Option.some.injEq]
  rw [Int.compare_eq_gt]
  norm_cast

theorem Parts.IsCanonical.value_lt {p : Parts} (canonical : p.IsCanonical) :
    p.value < integerBound := by
  have unit := two_zpow_pos p.exponent
  have size : (p.mantissa : Rat) * 2 ^ p.exponent < integerBound := by
    have few : (p.mantissa : Rat) ≤ 2 ^ 53 - 1 := by
      have bound : p.mantissa + 1 ≤ 2 ^ 53 := canonical.bound
      have cast : (p.mantissa : Rat) + 1 ≤ 2 ^ 53 := by exact_mod_cast bound
      linarith
    rw [integerBound_eq]
    calc (p.mantissa : Rat) * 2 ^ p.exponent ≤ (2 ^ 53 - 1) * 2 ^ p.exponent :=
          mul_le_mul_of_nonneg_right few unit.le
      _ ≤ (2 ^ 53 - 1) * 2 ^ (971 : Int) :=
          mul_le_mul_of_nonneg_left (zpow_le_zpow_right₀ one_le_two canonical.most) (by norm_num)
      _ < (2 ^ 53 - 1 / 2) * 2 ^ (971 : Int) :=
          mul_lt_mul_of_pos_right (by norm_num) (two_zpow_pos 971)
  have nonneg : 0 ≤ (p.mantissa : Rat) * 2 ^ p.exponent := mul_nonneg (Nat.cast_nonneg _) unit.le
  unfold value
  split
  · linarith
  · exact size

theorem exists_ofInt?_of_compareInt? {n : Nat} {x : Float} (finite : isFinite x = true)
    (atMost : compareInt? n x ≠ some .gt) : ∃ y, ofInt? n = some y := by
  cases parts : classify x with
  | nan => simp [isFinite, parts] at finite
  | infinite => simp [isFinite, parts] at finite
  | finite p =>
      rw [Ne, compareInt?_eq_gt_iff parts, not_lt] at atMost
      have below : (n : Rat) < integerBound :=
        lt_of_le_of_lt (by exact_mod_cast atMost) (ofParts_of_classify parts).1.value_lt
      rw [← Option.ne_none_iff_exists', Ne, ofInt?_eq_none_iff]
      exact not_le.mpr (by exact_mod_cast below)

end StillMotion.Number
