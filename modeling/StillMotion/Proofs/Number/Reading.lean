import StillMotion.Number.Numeral
import StillMotion.Proofs.Number.Bits
import StillMotion.Proofs.Number.Digits
import StillMotion.Proofs.Number.Shortest
import StillMotion.Proofs.Text.Search

/-!
# Written numbers are read back

A double is written with the fewest digits that round to it, so what is read of them is the
double.  They are laid out around a point, but for a single digit with an exponent, which stands
without one.
-/

namespace StillMotion.Number

open StillMotion.Text

/-! ## Numerals with a point -/

/-- Digits on both sides of a point, no zero in front of others, and perhaps an exponent. -/
structure PointedNumeral where
  whole : List Char
  fraction : List Char
  exponent : Option Int
  whole_digits : whole.all isAsciiDigit = true
  whole_ne_nil : whole ≠ []
  whole_lead : whole.head? = some '0' → whole = ['0']
  fraction_digits : fraction.all isAsciiDigit = true
  fraction_ne_nil : fraction ≠ []

namespace PointedNumeral

def tail (t : PointedNumeral) : List Char :=
  match t.exponent with
  | none => []
  | some e => 'e' :: exponentText e

def text (t : PointedNumeral) : List Char := t.whole ++ '.' :: (t.fraction ++ t.tail)

def places (t : PointedNumeral) : Int := t.exponent.getD 0 - t.fraction.length

def value (t : PointedNumeral) : Rat := digitsValue (t.whole ++ t.fraction) * 10 ^ t.places

theorem digits (t : PointedNumeral) : (t.whole ++ t.fraction).all isAsciiDigit = true := by
  rw [List.all_append, t.whole_digits, t.fraction_digits, Bool.and_self]

end PointedNumeral

theorem exponentText_eq (e : Int) :
    exponentText e = (if e < 0 then '-' else '+') ::
      (zerosText (2 - (natDigits e.natAbs).length) ++ natDigits e.natAbs) := rfl

theorem all_exponentText (e : Int) : (exponentText e).all isWordChar = true := by
  rw [exponentText_eq, List.all_cons, List.all_append,
    all_isWordChar_of_isAsciiDigit (all_zerosText _),
    all_isWordChar_of_isAsciiDigit (all_natDigits _)]
  by_cases negative : e < 0 <;> simp [negative] <;> decide

theorem PointedNumeral.exists_cons (t : PointedNumeral) :
    ∃ c rest, t.text = c :: rest ∧ isAsciiDigit c = true := by
  have digits := t.whole_digits
  rcases whole : t.whole with _ | ⟨c, more⟩
  · exact absurd whole t.whole_ne_nil
  · rw [whole, List.all_cons, Bool.and_eq_true] at digits
    exact ⟨c, _, by rw [PointedNumeral.text, whole]; rfl, digits.1⟩

theorem PointedNumeral.word (t : PointedNumeral) : t.text.all isWordChar = true := by
  have tail : t.tail.all isWordChar = true := by
    unfold PointedNumeral.tail
    split
    next => rfl
    next e given =>
        rw [List.all_cons, all_exponentText]
        rfl
  rw [PointedNumeral.text, List.all_append, List.all_cons, List.all_append, tail,
    all_isWordChar_of_isAsciiDigit t.whole_digits, all_isWordChar_of_isAsciiDigit t.fraction_digits]
  rfl

theorem exists_exponentText (e : Int) :
    ∃ ds, exponentText e = (if e < 0 then '-' else '+') :: ds ∧ ds.all isAsciiDigit = true ∧
      ds ≠ [] ∧ (if decide (e < 0) then -(digitsValue ds : Int) else digitsValue ds) = e := by
  refine ⟨_, exponentText_eq e, ?_, List.append_ne_nil_of_right_ne_nil _ (natDigits_ne_nil _), ?_⟩
  · rw [List.all_append, all_zerosText, all_natDigits, Bool.and_self]
  · rw [digitsValue_append, digitsValue_zerosText, digitsValue_natDigits, Nat.zero_mul,
      Nat.zero_add]
    split
    next negative =>
        rw [decide_eq_true_eq] at negative
        omega
    next positive =>
        rw [decide_eq_true_eq] at positive
        omega

theorem takeSign_exponent (e : Int) (ds : List Char) :
    takeSign ((if e < 0 then '-' else '+') :: ds) = (decide (e < 0), ds) := by
  by_cases negative : e < 0 <;> simp [takeSign, negative]

theorem exponentPart?_exponentText (e : Int) : exponentPart? ('e' :: exponentText e) = some e := by
  obtain ⟨ds, written, digits, present, value⟩ := exists_exponentText e
  simp only [exponentPart?, beq_self_eq_true, Bool.true_or, if_true, written, takeSign_exponent]
  rw [if_neg (by simp [present, digits]), digitsValue_dropWhile_zero, value]

/-! ## Layouts -/

section Layout

variable {digits : List Char} {lead : Int}

theorem PointedNumeral.value_eq {t : PointedNumeral} (zeros : Nat)
    (shown : digitsValue (t.whole ++ t.fraction) = digitsValue digits * 10 ^ zeros)
    (places : t.places + zeros = lead + 1 - digits.length) :
    t.value = digitsValue digits * 10 ^ (lead + 1 - digits.length) := by
  rw [PointedNumeral.value, shown, ← places, zpow_add₀ (by norm_num), zpow_natCast]
  push_cast
  ring

theorem inRange_iff :
    (decide (plain.least ≤ lead) && decide (lead ≤ plain.greatest)) = true ↔
      -4 ≤ lead ∧ lead ≤ 15 := by
  rw [Bool.and_eq_true, decide_eq_true_iff, decide_eq_true_iff]
  exact Iff.rfl

variable (allDigits : digits.all isAsciiDigit = true) (present : digits ≠ [])
  (zeroLead : digits.head? = some '0' → digits = ['0'] ∧ lead = 0)

include allDigits present

theorem layout_below (least : -4 ≤ lead) (below : lead < 0) :
    ∃ t : PointedNumeral, plain.layout digits lead = t.text ∧
      t.value = digitsValue digits * 10 ^ (lead + 1 - digits.length) := by
  refine ⟨⟨['0'], zerosText (lead.natAbs - 1) ++ digits, none, rfl, by simp, fun _ => rfl, ?_,
    List.append_ne_nil_of_right_ne_nil _ present⟩, ?_, ?_⟩
  · rw [List.all_append, all_zerosText, allDigits, Bool.and_self]
  · unfold Style.layout
    rw [if_pos (inRange_iff.mpr ⟨least, by omega⟩), if_pos below]
    simp [PointedNumeral.text, PointedNumeral.tail]
  · refine PointedNumeral.value_eq 0 ?_ ?_
    · rw [digitsValue_append, digitsValue_append, digitsValue_zerosText]
      simp [digitsValue, digitValue?]
    · simp only [PointedNumeral.places, Option.getD_none, List.length_append, length_zerosText]
      omega

include zeroLead

theorem layout_within (above : 0 ≤ lead) (most : lead ≤ 15) :
    ∃ t : PointedNumeral, plain.layout digits lead = t.text ∧
      t.value = digitsValue digits * 10 ^ (lead + 1 - digits.length) := by
  unfold Style.layout
  rw [if_pos (inRange_iff.mpr ⟨by omega, most⟩), if_neg (not_lt.mpr above)]
  dsimp only
  split
  next short =>
      refine ⟨⟨digits ++ zerosText (lead.natAbs + 1 - digits.length), ['0'], none, ?_,
        by simp [present], fun zero => ?_, rfl, by simp⟩, ?_, ?_⟩
      · rw [List.all_append, all_zerosText, allDigits, Bool.and_self]
      · rw [List.head?_append_of_ne_nil _ present] at zero
        obtain ⟨rfl, rfl⟩ := zeroLead zero
        rfl
      · simp [PointedNumeral.text, PointedNumeral.tail, plain]
      · refine PointedNumeral.value_eq (lead.natAbs + 1 - digits.length + 1) ?_ ?_
        · rw [digitsValue_append, digitsValue_append, digitsValue_zerosText, length_zerosText,
            pow_succ]
          simp [digitsValue, digitValue?, Nat.mul_assoc]
        · simp only [PointedNumeral.places, Option.getD_none, List.length_singleton]
          omega
  next long =>
      refine ⟨⟨digits.take (lead.natAbs + 1), digits.drop (lead.natAbs + 1), none, ?_,
        by simp [present], fun zero => ?_, ?_, ?_⟩, ?_, ?_⟩
      · exact List.all_eq_true.mpr fun c member =>
          List.all_eq_true.mp allDigits c (List.mem_of_mem_take member)
      · rw [List.head?_take, if_neg (by omega)] at zero
        rw [(zeroLead zero).1, List.length_singleton] at long
        omega
      · exact List.all_eq_true.mpr fun c member =>
          List.all_eq_true.mp allDigits c (List.mem_of_mem_drop member)
      · rw [ne_eq, List.drop_eq_nil_iff]
        exact long
      · simp [PointedNumeral.text, PointedNumeral.tail]
      · refine PointedNumeral.value_eq 0 (by simp) ?_
        simp only [PointedNumeral.places, Option.getD_none, List.length_drop]
        omega

omit zeroLead in
theorem layout_beyond (outside : lead < -4 ∨ 15 < lead) :
    (∃ t : PointedNumeral, plain.layout digits lead = t.text ∧
      t.value = digitsValue digits * 10 ^ (lead + 1 - digits.length)) ∨
      ∃ c, digits = [c] ∧ plain.layout digits lead = c :: 'e' :: exponentText lead := by
  unfold Style.layout
  rw [if_neg (by rw [inRange_iff]; omega)]
  rcases digits with _ | ⟨c, _ | ⟨d, rest⟩⟩
  · exact absurd rfl present
  · exact .inr ⟨c, rfl, rfl⟩
  · rw [List.all_cons, Bool.and_eq_true] at allDigits
    refine .inl ⟨⟨[c], d :: rest, some lead, by simp [allDigits.1], by simp, by simp, allDigits.2,
      by simp⟩, ?_, ?_⟩
    · simp [PointedNumeral.text, PointedNumeral.tail]
    · refine PointedNumeral.value_eq 0 (by simp) ?_
      simp only [PointedNumeral.places, Option.getD_some, List.length_cons]
      omega

end Layout

theorem plain_text_cases (d : Decimal) :
    (∃ t : PointedNumeral, plain.text d = t.text ∧ t.value = d.value) ∨
      ∃ c e, isAsciiDigit c = true ∧ c ≠ '0' ∧ plain.text d = c :: 'e' :: exponentText e ∧
        digitsValue [c] * 10 ^ e = d.value := by
  have allDigits := all_natDigits d.digits
  have present := natDigits_ne_nil d.digits
  rcases Nat.eq_zero_or_pos d.digits with zero | positive
  · have zeroLead : (natDigits d.digits).head? = some '0' →
        natDigits d.digits = ['0'] ∧ (0 : Int) = 0 := fun _ => ⟨by rw [zero]; rfl, rfl⟩
    obtain ⟨t, shown, value⟩ :=
      layout_within allDigits present zeroLead (le_refl 0) (by norm_num)
    refine .inl ⟨t, ?_, ?_⟩
    · rw [← shown, Style.text, zero]
      rfl
    · rw [value, Decimal.value, digitsValue_natDigits, zero]
      simp
  · have shown : plain.text d = plain.layout (natDigits d.digits)
        (d.exponent + (natDigits d.digits).length - 1) := by
      rw [Style.text, if_neg (by simpa using positive.ne')]
    have value : d.value = digitsValue (natDigits d.digits) *
        10 ^ (d.exponent + (natDigits d.digits).length - 1 + 1 - (natDigits d.digits).length) := by
      rw [digitsValue_natDigits, Decimal.value]
      ring_nf
    rw [shown, value]
    generalize d.exponent + (natDigits d.digits).length - 1 = lead
    have first := natDigits_lead positive
    by_cases outside : lead < -4 ∨ 15 < lead
    · rcases layout_beyond allDigits present outside with pointed | ⟨c, one, pointless⟩
      · exact .inl pointed
      · rw [one] at allDigits first
        refine .inr ⟨c, lead, by simpa using allDigits, fun zero => ?_, pointless, ?_⟩
        · simp [zero] at first
        · rw [one, List.length_singleton, Nat.cast_one, add_sub_cancel_right]
    · rcases lt_or_ge lead 0 with below | above
      · exact .inl (layout_below allDigits present (by omega) below)
      · exact .inl (layout_within allDigits present (absurd · first) above (by omega))

/-! ## Reading numerals -/

section Runs

variable {cs rest : List Char}

theorem takeWhile_digits (digits : cs.all isAsciiDigit = true)
    (stop : rest.head?.all (fun c => !isAsciiDigit c) = true) :
    (cs ++ rest).takeWhile isAsciiDigit = cs := by
  rw [List.takeWhile_append_of_pos (List.all_eq_true.mp digits)]
  cases rest with
  | nil => simp
  | cons c rest => simp_all

theorem dropWhile_digits (digits : cs.all isAsciiDigit = true)
    (stop : rest.head?.all (fun c => !isAsciiDigit c) = true) :
    (cs ++ rest).dropWhile isAsciiDigit = rest := by
  rw [List.dropWhile_append_of_pos (List.all_eq_true.mp digits)]
  cases rest with
  | nil => simp
  | cons c rest => simp_all

end Runs

theorem PointedNumeral.head?_tail (t : PointedNumeral) :
    t.tail.head?.all (fun c => !isAsciiDigit c) = true := by
  unfold tail
  split <;> rfl

theorem PointedNumeral.exponentPart?_tail (t : PointedNumeral) :
    exponentPart? t.tail = some (t.exponent.getD 0) := by
  unfold tail
  split
  next none => simp [exponentPart?, none]
  next e given => rw [exponentPart?_exponentText, given, Option.getD_some]

theorem PointedNumeral.decimal?_text (t : PointedNumeral) (negative : Bool) :
    decimal? negative t.text = some (ofDecimal negative (t.whole ++ t.fraction) t.places) := by
  have point : ('.' :: (t.fraction ++ t.tail)).head?.all (fun c => !isAsciiDigit c) = true := rfl
  unfold decimal? text
  rw [takeWhile_digits t.whole_digits point, dropWhile_digits t.whole_digits point]
  simp only
  rw [takeWhile_digits t.fraction_digits t.head?_tail,
    dropWhile_digits t.fraction_digits t.head?_tail]
  rw [t.exponentPart?_tail, if_neg (by simp [t.whole_ne_nil])]
  rfl

/-! ## Doubles from decimals -/

section Decimal

variable {p : Parts} {digits : List Char} {e : Int}

theorem greatest_double_lt : (2 : Rat) ^ 53 * 2 ^ (971 : Int) < 10 ^ (309 : Int) := by
  have powers : 2 ^ 53 * 2 ^ 971 < 10 ^ 309 := by decide +kernel
  exact_mod_cast powers

theorem lt_least_double : (10 : Rat) ^ (-324 : Int) < 1 / 2 * 2 ^ (-1074 : Int) := by
  have powers : 2 * 2 ^ 1074 < 10 ^ 324 := by decide +kernel
  have powers' : (2 : Rat) * 2 ^ (1074 : Int) < 10 ^ (324 : Int) := by exact_mod_cast powers
  rw [zpow_neg, zpow_neg, one_div, ← mul_inv]
  exact inv_strictAnti₀ (by positivity) powers'

theorem Parts.Holds.place_bounds (canonical : p.IsCanonical) (positive : 0 < p.mantissa)
    {value : Rat} (h : p.Holds (value / 2 ^ p.exponent)) :
    value < 10 ^ (309 : Int) ∧ 10 ^ (-324 : Int) < value := by
  have unit := two_zpow_pos p.exponent
  have one : (1 : Rat) ≤ p.mantissa := by exact_mod_cast positive
  have bound : (p.mantissa : Rat) + 1 ≤ 2 ^ 53 := by exact_mod_cast canonical.bound
  have wide : 1 / 2 ≤ p.mantissa - p.reach := by
    rcases p.reach_cases with ⟨dense, -⟩ | ⟨half, -⟩ <;> linarith
  have greatest : (2 : Rat) ^ p.exponent ≤ 2 ^ (971 : Int) :=
    zpow_le_zpow_right₀ one_le_two canonical.most
  have least : (2 : Rat) ^ (-1074 : Int) ≤ 2 ^ p.exponent :=
    zpow_le_zpow_right₀ one_le_two canonical.least
  obtain ⟨low, high⟩ := h.bounds
  rw [div_le_iff₀ unit] at high
  rw [le_div_iff₀ unit] at low
  constructor
  · calc value ≤ (p.mantissa + 1 / 2) * 2 ^ p.exponent := high
      _ ≤ 2 ^ 53 * 2 ^ (971 : Int) :=
          mul_le_mul (by linarith only [bound]) greatest unit.le (by positivity)
      _ < 10 ^ (309 : Int) := greatest_double_lt
  · calc (10 : Rat) ^ (-324 : Int) < 1 / 2 * 2 ^ (-1074 : Int) := lt_least_double
      _ ≤ (p.mantissa - p.reach) * 2 ^ p.exponent :=
          mul_le_mul wide least (two_zpow_pos _).le (one_half_pos.le.trans wide)
      _ ≤ value := low

theorem Parts.ofDecimal_of_holds (canonical : p.IsCanonical) (positive : 0 < p.mantissa)
    (negative : Bool) (allDigits : digits.all isAsciiDigit = true)
    (h : p.Holds (digitsValue digits * 10 ^ e / 2 ^ p.exponent)) :
    ofDecimal negative digits e = ofParts negative p.mantissa p.exponent := by
  have same := digitsValue_dropWhile_zero digits
  have allSignificant : (digits.dropWhile (· == '0')).all isAsciiDigit = true :=
    List.all_eq_true.mpr fun c member =>
      List.all_eq_true.mp allDigits c (List.dropWhile_sublist _ |>.subset member)
  have lead : (digits.dropWhile (· == '0')).head?.all (fun c => !(c == '0')) = true := by
    have first := List.head?_dropWhile_not (· == '0') digits
    cases found : (digits.dropWhile (· == '0')).head? with
    | none => rfl
    | some c => simpa [found] using first
  unfold ofDecimal
  dsimp only
  generalize digits.dropWhile (· == '0') = significant at *
  rw [← same] at h
  obtain ⟨most, least⟩ := h.place_bounds canonical positive
  rcases significant with _ | ⟨c, rest⟩
  · simpa [digitsValue] using h.pos positive
  · have below : (digitsValue (c :: rest) : Rat) < 10 ^ (rest.length + 1) := by
      exact_mod_cast digitsValue_lt allSignificant
    have above : (10 : Rat) ^ rest.length ≤ digitsValue (c :: rest) := by
      exact_mod_cast pow_le_digitsValue allSignificant (by simpa using lead)
    have ten := ten_zpow_pos e
    have top : (rest.length : Int) + e < 309 := by
      rw [← zpow_lt_zpow_iff_right₀ (show (1 : Rat) < 10 by norm_num), zpow_add₀ (by norm_num),
        zpow_natCast]
      exact (mul_le_mul_of_nonneg_right above ten.le).trans_lt most
    have bottom : -324 < ((rest.length + 1 : Nat) : Int) + e := by
      rw [← zpow_lt_zpow_iff_right₀ (show (1 : Rat) < 10 by norm_num), zpow_add₀ (by norm_num),
        zpow_natCast]
      exact least.trans (mul_lt_mul_of_pos_right below ten)
    rw [if_neg (by simp), if_neg (by simp only [List.length_cons]; omega),
      if_neg (by simp only [List.length_cons]; omega)]
    have positive' := scaled_snd_pos (show 0 < 10 by norm_num) (digitsValue (c :: rest)) e one_pos
    have divided := scaled_ten_div (digitsValue (c :: rest)) 1 e
    rcases quotient : scaled 10 (digitsValue (c :: rest)) 1 e with ⟨n, d⟩
    rw [quotient] at positive' divided
    rw [Nat.cast_one, div_one] at divided
    rw [← divided] at h
    exact ofRatio_of_holds canonical positive negative positive' h

theorem dropWhile_zero_eq_nil (allDigits : digits.all isAsciiDigit = true)
    (zero : digitsValue digits = 0) : digits.dropWhile (· == '0') = [] := by
  induction digits with
  | nil => rfl
  | cons c rest ih =>
      have lead : c = '0' := by
        by_contra other
        have large := pow_le_digitsValue allDigits other
        rw [zero] at large
        exact absurd large (by simp)
      subst lead
      rw [List.all_cons, Bool.and_eq_true] at allDigits
      rw [digitsValue_cons] at zero
      exact ih allDigits.2 (by omega)

/-- What is read of the decimal of a double is the double. -/
theorem ofDecimal_eq (canonical : p.IsCanonical) (negative : Bool)
    (allDigits : digits.all isAsciiDigit = true)
    (value : digitsValue digits * 10 ^ e = p.shortest.value) :
    ofDecimal negative digits e = ofParts negative p.mantissa p.exponent := by
  rcases Nat.eq_zero_or_pos p.mantissa with zero | positive
  · have none : digitsValue digits = 0 := by
      rw [Parts.shortest, if_pos (by simpa using zero), Decimal.value, Nat.cast_zero,
        zero_mul] at value
      exact_mod_cast (mul_eq_zero.mp value).resolve_right (ten_zpow_pos e).ne'
    have least : p.exponent = minExponent := canonical.normal (by rw [zero]; norm_num)
    unfold ofDecimal
    dsimp only
    rw [dropWhile_zero_eq_nil allDigits none, if_pos List.isEmpty_nil, zero, least, ofRatio_zero]
  · refine Parts.ofDecimal_of_holds canonical positive negative allDigits ?_
    have holds := (Parts.shortest_spec canonical positive).2
    rwa [← value] at holds

end Decimal

/-! ## Doubles -/

def signText (negative : Bool) : List Char := if negative then ['-'] else []

theorem all_signText {cs : List Char} (negative : Bool) (word : cs.all isWordChar = true) :
    (signText negative ++ cs).all isWordChar = true := by
  rw [List.all_append, word, Bool.and_true]
  cases negative <;> decide

theorem all_pointless {c : Char} (digit : isAsciiDigit c = true) (e : Int) :
    (c :: 'e' :: exponentText e).all isWordChar = true := by
  rw [List.all_cons, List.all_cons, isWordChar_of_isAsciiDigit digit, all_exponentText]
  rfl

theorem point_not_mem_pointless {c : Char} (digit : isAsciiDigit c = true) (e : Int) :
    '.' ∉ c :: 'e' :: exponentText e := by
  obtain ⟨ds, written, digits, -, -⟩ := exists_exponentText e
  rw [written, List.mem_cons, List.mem_cons, List.mem_cons, not_or, not_or, not_or]
  refine ⟨?_, by decide, by split <;> decide, fun member => ?_⟩
  · rintro rfl
    cases digit
  · exact absurd (List.all_eq_true.mp digits _ member) (by decide)

theorem exists_dataText {x : Float} (finite : isFinite x = true) :
    ∃ p : Parts, p.IsCanonical ∧ ofParts p.negative p.mantissa p.exponent = x ∧
      dataText x = signText p.negative ++ plain.text p.shortest := by
  unfold isFinite at finite
  split at finite
  next p found =>
      obtain ⟨canonical, same⟩ := ofParts_of_classify found
      exact ⟨p, canonical, same, by rw [dataText, signed, found, signText]⟩
  next => cases finite

theorem dataText_cases {x : Float} (finite : isFinite x = true) :
    (∃ (negative : Bool) (t : PointedNumeral) (y : Float),
      dataText x = signText negative ++ t.text ∧ decimal? false t.text = some y ∧
        (if negative then -y else y) = x) ∨
      ∃ (negative : Bool) (c : Char) (e : Int), isAsciiDigit c = true ∧ c ≠ '0' ∧
        dataText x = signText negative ++ c :: 'e' :: exponentText e := by
  obtain ⟨p, canonical, same, written⟩ := exists_dataText finite
  rcases plain_text_cases p.shortest with ⟨t, shown, value⟩ | ⟨c, e, digit, nonzero, shown, _⟩
  · refine .inl ⟨p.negative, t, _, written.trans (by rw [shown]), t.decimal?_text false, ?_⟩
    rw [ofDecimal_eq canonical false t.digits value, ← same]
    cases p.negative with
    | false => rw [if_neg Bool.false_ne_true]
    | true => rw [if_pos rfl, neg_ofParts canonical]
  · exact .inr ⟨p.negative, c, e, digit, nonzero, written.trans (by rw [shown])⟩

theorem dataText_denotes {x : Float} (finite : isFinite x = true) :
    (∃ (negative : Bool) (t : PointedNumeral), dataText x = signText negative ++ t.text ∧
      ofDecimal negative (t.whole ++ t.fraction) t.places = x) ∨
      ∃ (negative : Bool) (c : Char) (e : Int), isAsciiDigit c = true ∧ c ≠ '0' ∧
        dataText x = signText negative ++ c :: 'e' :: exponentText e ∧
        ofDecimal negative [c] e = x := by
  obtain ⟨p, canonical, same, written⟩ := exists_dataText finite
  rcases plain_text_cases p.shortest with ⟨t, shown, value⟩ | ⟨c, e, digit, nonzero, shown, value⟩
  · refine .inl ⟨p.negative, t, written.trans (by rw [shown]), ?_⟩
    rw [ofDecimal_eq canonical p.negative t.digits value, same]
  · refine .inr ⟨p.negative, c, e, digit, nonzero, written.trans (by rw [shown]), ?_⟩
    rw [ofDecimal_eq canonical p.negative (by simpa using digit) value, same]

end StillMotion.Number
