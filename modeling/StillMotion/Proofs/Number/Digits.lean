import Mathlib.Data.List.Basic
import Mathlib.Tactic.NormNum
import Mathlib.Tactic.Ring
import StillMotion.Number.Notation
import StillMotion.Text.Digit

/-!
# Digits and the numbers they denote

The digits that are written for a natural number denote it, and a run of digits denotes a number
of as many places as are left of it without the zeros in front.
-/

namespace StillMotion.Number

open StillMotion.Text

variable {cs ds : List Char} {c : Char} {n : Nat}

/-! ## Characters -/

theorem isAsciiDigit_iff : isAsciiDigit c = true ↔ 48 ≤ c.toNat ∧ c.toNat ≤ 57 := by
  rw [isAsciiDigit, Bool.and_eq_true, decide_eq_true_eq, decide_eq_true_eq]
  exact Iff.rfl

theorem digitValue?_of_isAsciiDigit (digit : isAsciiDigit c = true) :
    digitValue? c = some (c.toNat - 48) := by
  obtain ⟨least, most⟩ := isAsciiDigit_iff.mp digit
  unfold digitValue?
  dsimp only
  rw [if_pos (by omega), if_pos (by simp [least, most])]

theorem eq_zero_of_digit (digit : isAsciiDigit c = true) (zero : digitValue? c = some 0) :
    c = '0' := by
  obtain ⟨least, most⟩ := isAsciiDigit_iff.mp digit
  rw [digitValue?_of_isAsciiDigit digit, Option.some_inj] at zero
  exact Char.toNat_inj.mp (show c.toNat = 48 by omega)

/-! ## Runs of digits -/

theorem foldl_digits (start : Nat) (cs : List Char) :
    cs.foldl (fun acc c => 10 * acc + (digitValue? c).getD 0) start =
      start * 10 ^ cs.length + digitsValue cs := by
  unfold digitsValue
  induction cs generalizing start with
  | nil => simp
  | cons c cs ih =>
      rw [List.foldl_cons, List.foldl_cons, ih, ih (10 * 0 + _), List.length_cons, pow_succ]
      ring

theorem digitsValue_append (cs ds : List Char) :
    digitsValue (cs ++ ds) = digitsValue cs * 10 ^ ds.length + digitsValue ds := by
  conv_lhs => rw [digitsValue, List.foldl_append]
  exact foldl_digits _ ds

theorem digitsValue_cons (c : Char) (cs : List Char) :
    digitsValue (c :: cs) = (digitValue? c).getD 0 * 10 ^ cs.length + digitsValue cs := by
  rw [← List.singleton_append, digitsValue_append]
  simp [digitsValue]

@[simp] theorem digitsValue_zerosText (n : Nat) : digitsValue (zerosText n) = 0 := by
  induction n with
  | zero => rfl
  | succ n ih =>
      rw [zerosText, List.replicate_succ, digitsValue_cons]
      change 0 * _ + digitsValue (zerosText n) = 0
      rw [ih, Nat.zero_mul]

@[simp] theorem length_zerosText (n : Nat) : (zerosText n).length = n := List.length_replicate

theorem all_zerosText (n : Nat) : (zerosText n).all isAsciiDigit = true := by
  rw [zerosText, List.all_replicate]
  simp [show isAsciiDigit '0' = true from rfl]

theorem digitsValue_dropWhile_zero (cs : List Char) :
    digitsValue (cs.dropWhile (· == '0')) = digitsValue cs := by
  induction cs with
  | nil => rfl
  | cons c cs ih =>
      rw [List.dropWhile_cons]
      split
      next zero =>
          obtain rfl := beq_iff_eq.mp zero
          rw [ih, digitsValue_cons]
          change _ = 0 * _ + _
          rw [Nat.zero_mul, Nat.zero_add]
      next => rfl

theorem digitsValue_lt (digits : cs.all isAsciiDigit = true) :
    digitsValue cs < 10 ^ cs.length := by
  induction cs with
  | nil => exact Nat.one_pos
  | cons c cs ih =>
      rw [List.all_cons, Bool.and_eq_true] at digits
      obtain ⟨least, most⟩ := isAsciiDigit_iff.mp digits.1
      have short := ih digits.2
      rw [digitsValue_cons, digitValue?_of_isAsciiDigit digits.1, List.length_cons, pow_succ,
        Option.getD_some]
      have lead : (c.toNat - 48) * 10 ^ cs.length ≤ 9 * 10 ^ cs.length :=
        Nat.mul_le_mul_right _ (by omega)
      omega

theorem pow_le_digitsValue (digits : (c :: cs).all isAsciiDigit = true) (lead : c ≠ '0') :
    10 ^ cs.length ≤ digitsValue (c :: cs) := by
  rw [List.all_cons, Bool.and_eq_true] at digits
  have positive : 1 ≤ (digitValue? c).getD 0 := by
    rw [digitValue?_of_isAsciiDigit digits.1, Option.getD_some, Nat.one_le_iff_ne_zero]
    intro zero
    exact lead (eq_zero_of_digit digits.1 (by rw [digitValue?_of_isAsciiDigit digits.1, zero]))
  rw [digitsValue_cons]
  exact (Nat.le_mul_of_pos_left _ positive).trans (Nat.le_add_right _ _)

/-! ## Written numbers -/

theorem all_natDigits (n : Nat) : (natDigits n).all isAsciiDigit = true := by
  rw [List.all_eq_true]
  intro c member
  have digit := Nat.isDigit_of_mem_toDigits (by norm_num) (by norm_num) member
  rw [Char.isDigit, Bool.and_eq_true, decide_eq_true_eq, decide_eq_true_eq] at digit
  exact isAsciiDigit_iff.mpr digit

theorem natDigits_ne_nil (n : Nat) : natDigits n ≠ [] :=
  List.ne_nil_of_length_pos Nat.length_toDigits_pos

theorem digitsValue_natDigits (n : Nat) : digitsValue (natDigits n) = n := by
  have same : digitsValue (natDigits n) = Nat.ofDigitChars 10 (natDigits n) 0 := by
    rw [digitsValue, Nat.ofDigitChars_eq_foldl]
    refine List.foldl_ext _ _ _ fun acc c member => ?_
    rw [digitValue?_of_isAsciiDigit (List.all_eq_true.mp (all_natDigits n) c member)]
    rfl
  rw [same, natDigits, Nat.ofDigitChars_toDigits (by norm_num) (by norm_num)]

theorem length_natDigits_le {limit : Nat} (positive : 0 < limit) (h : n < 10 ^ limit) :
    (natDigits n).length ≤ limit :=
  (Nat.length_toDigits_le_iff (by norm_num) positive).mpr h

theorem natDigits_lead (positive : 0 < n) : (natDigits n).head? ≠ some '0' := by
  induction n using Nat.strongRecOn with
  | ind n ih =>
      rcases Nat.lt_or_ge n 10 with digit | more
      · intro zero
        have written : natDigits n = [n.digitChar] := Nat.toDigits_of_lt_base digit
        rw [written, List.head?_cons, Option.some_inj] at zero
        have code := Nat.toNat_digitChar_of_lt_ten digit
        rw [zero] at code
        change 48 = 48 + n at code
        omega
      · have written : natDigits n = natDigits (n / 10) ++ [(n % 10).digitChar] :=
          Nat.toDigits_of_base_le (by norm_num) more
        rw [written, List.head?_append_of_ne_nil _ (natDigits_ne_nil _)]
        exact ih (n / 10) (by omega) (by omega)

theorem natDigits_eq_cons (n : Nat) :
    ∃ c rest, natDigits n = c :: rest ∧ isAsciiDigit c = true := by
  have digits := all_natDigits n
  rcases written : natDigits n with _ | ⟨c, rest⟩
  · exact absurd written (natDigits_ne_nil n)
  · rw [written, List.all_cons, Bool.and_eq_true] at digits
    exact ⟨c, rest, rfl, digits.1⟩

theorem natDigits_eq_singleton {n : Nat} {rest : List Char} (zero : natDigits n = '0' :: rest) :
    n = 0 ∧ rest = [] := by
  rcases Nat.eq_zero_or_pos n with rfl | positive
  · cases zero
    exact ⟨rfl, rfl⟩
  · exact absurd (by rw [zero]; rfl) (natDigits_lead positive)

end StillMotion.Number
