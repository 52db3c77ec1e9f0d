import StillMotion.Number.Numeral
import StillMotion.Proofs.Number.Digits
import StillMotion.Proofs.Text.Search

/-!
# Words as numerals of free text

The reader of free text takes off blanks, separators and the digits of other scripts.  A written
number has none of these, and it is read as it stands.  Of blanks alone no number is read.
-/

namespace StillMotion.Number

open StillMotion.Text

section Word

variable {cs : List Char}

theorem dropSeparators?_of_notMem (absent : '_' ∉ cs) : dropSeparators? cs = some cs := by
  have each (after : Bool) : dropSeparators?.go after cs = some cs := by
    induction cs generalizing after with
    | nil => rfl
    | cons c cs ih =>
        rw [List.mem_cons, not_or] at absent
        have step : dropSeparators?.go after (c :: cs) =
            (dropSeparators?.go (isAsciiDigit c) cs).map (c :: ·) := by
          rw [dropSeparators?.go]
          exact Ne.symm absent.1
        rw [step, ih absent.2]
        rfl
  exact each false

theorem dropSeparators?_of_word (word : cs.all isWordChar = true) :
    dropSeparators? cs = some cs :=
  dropSeparators?_of_notMem fun member => absurd (List.all_eq_true.mp word '_' member) (by decide)

theorem plainDigits_of_word (word : cs.all isWordChar = true) : plainDigits cs = cs := by
  unfold plainDigits
  conv_rhs => rw [← List.map_id cs]
  refine List.map_congr_left fun c member => ?_
  have ascii := of_isWordChar (p := fun c => decide (c.toNat < 0x7F)) (by decide)
    (List.all_eq_true.mp word c member)
  rw [decide_eq_true_eq] at ascii
  rw [if_pos ascii]
  rfl

theorem stripChars_of_word (word : cs.all isWordChar = true) :
    stripChars isAsciiBlank cs = cs := by
  have none {ds : List Char} (word : ds.all isWordChar = true) :
      ds.dropWhile isAsciiBlank = ds := by
    cases ds with
    | nil => rfl
    | cons c rest =>
        rw [List.all_cons, Bool.and_eq_true] at word
        have shown := of_isWordChar (p := fun c => !isAsciiBlank c) (by decide) word.1
        rw [Bool.not_eq_true'] at shown
        rw [List.dropWhile_cons, if_neg (by simp [shown])]
  rw [stripChars, none word, none (by rwa [List.all_reverse]), List.reverse_reverse]

theorem takeSign_of_digit {c : Char} {rest : List Char} (digit : isAsciiDigit c = true) :
    takeSign (c :: rest) = (false, c :: rest) := by
  rw [takeSign]
  all_goals
    rintro _ ⟨⟩
    exact absurd digit (by decide)

theorem freeReal?_of_word {c : Char} {rest : List Char} (word : (c :: rest).all isWordChar = true)
    (digit : isAsciiDigit c = true) :
    freeReal? (String.ofList (c :: rest)) = decimal? false (c :: rest) := by
  unfold freeReal?
  rw [String.toList_ofList, plainDigits_of_word word, stripChars_of_word word,
    dropSeparators?_of_word word, Option.bind_some]
  have lowered : asciiLower c = c := by
    have small := of_isWordChar (p := fun c => asciiLower c == c) (by decide)
      (isWordChar_of_isAsciiDigit digit)
    exact beq_iff_eq.mp small
  have other {s : String} (lead : s.toList.head?.any isAsciiDigit = false) :
      String.ofList ((c :: rest).map asciiLower) ≠ s := by
    rintro rfl
    simp [lowered, digit] at lead
  unfold real?
  rw [takeSign_of_digit digit]
  dsimp only
  split
  next same => exact absurd same (other rfl)
  next same => exact absurd same (other rfl)
  next same => exact absurd same (other rfl)
  next => rfl

end Word

/-! ## Integers -/

theorem baseDigits_of_digits {cs : List Char} (digits : cs.all isAsciiDigit = true)
    {after : Bool} (some : after = true ∨ cs ≠ []) (count n : Nat) :
    baseDigits 10 after count n cs =
      .ok (count + cs.length, n * 10 ^ cs.length + digitsValue cs, []) := by
  induction cs generalizing after count n with
  | nil =>
      have last : after = true := some.resolve_right (absurd rfl)
      simp [baseDigits, last, digitsValue]
  | cons c cs ih =>
      rw [List.all_cons, Bool.and_eq_true] at digits
      obtain ⟨least, most⟩ := isAsciiDigit_iff.mp digits.1
      have value : (baseDigit? c).filter (· < 10) = Option.some (c.toNat - 48) := by
        rw [baseDigit?, if_pos digits.1, Option.filter_some, if_pos (by simp; omega)]
      have other : c ≠ '_' := by
        rintro rfl
        exact absurd digits.1 (by decide)
      have step : baseDigits 10 after count n (c :: cs) =
          baseDigits 10 true (count + 1) (10 * n + (c.toNat - 48)) cs := by
        rw [baseDigits, value]
        exact other
      rw [step, ih digits.2 (.inl rfl), digitsValue_cons, digitValue?_of_isAsciiDigit digits.1,
        List.length_cons, Option.getD_some, pow_succ]
      congr 2
      · omega
      · congr 1
        ring

theorem freeWhole_natDigits {n : Nat} (within : n < 10 ^ digitLimit) :
    freeWhole 10 (String.ofList (natDigits n)) = .ok n := by
  have digits := all_natDigits n
  have word := all_isWordChar_of_isAsciiDigit digits
  have present := natDigits_ne_nil n
  have short := length_natDigits_le (by decide) within
  have unsigned : takeSign (natDigits n) = (false, natDigits n) := by
    generalize natDigits n = ds at digits
    cases ds with
    | nil => rfl
    | cons c rest => exact takeSign_of_digit (List.all_eq_true.mp digits c (by simp))
  have unmarked : dropMark 10 (natDigits n) = (10, natDigits n) := by
    unfold dropMark
    split
    next c rest marked =>
        rcases Nat.eq_zero_or_pos n with zero | positive
        · rw [zero] at marked
          cases marked
        · exact absurd (by rw [marked]; rfl) (natDigits_lead positive)
    next => rfl
  have ten : ((10 : Nat) == 0) = false := rfl
  unfold freeWhole
  rw [String.toList_ofList, plainDigits_of_word word, stripChars_of_word word, unsigned]
  simp only [unmarked, ten, Bool.false_eq_true, if_false, Bool.false_and, Bool.or_false]
  rw [baseDigits_of_digits digits (.inr present), digitsValue_natDigits]
  simp [bind, Except.bind, not_lt.mpr short]

/-! ## Blank text -/

section Blank

variable {cs : List Char}

def isLow (c : Char) : Bool := decide (c.toNat ≤ 0x20)

theorem ne_of_isLow {c d : Char} (low : isLow c = true) (high : 0x20 < d.toNat) : c ≠ d := by
  rintro rfl
  rw [isLow, decide_eq_true_eq] at low
  omega

def wideBlanks : List Nat :=
  [0x85, 0xA0, 0x1680, 0x2028, 0x2029, 0x202F, 0x205F, 0x3000] ++ List.range' 0x2000 11

theorem digitValue?_of_isBlank {c : Char} (blank : isBlank c = true) (wide : ¬ c.toNat < 0x7F) :
    digitValue? c = none := by
  have member : c.toNat ∈ wideBlanks ∧ ¬ c.toNat < 0x80 := by
    simp only [isBlank, Bool.or_eq_true, Bool.and_eq_true, decide_eq_true_eq, beq_iff_eq] at blank
    simp only [wideBlanks, List.mem_append, List.mem_cons, List.not_mem_nil, or_false,
      List.mem_range'_1]
    omega
  have apart : (wideBlanks.all fun n => (zeros.find? fun start => start ≤ n && n < start + 10).isNone) =
      true := by decide +kernel
  have none := List.all_eq_true.mp apart c.toNat member.1
  rw [Option.isNone_iff_eq_none] at none
  simp only [digitValue?, if_neg member.2, none, Option.map_none]

theorem isLow_plainDigits (blank : ∀ c ∈ cs, isBlank c = true) : (plainDigits cs).all isLow = true := by
  rw [plainDigits, List.all_map, List.all_eq_true]
  intro c member
  have here := blank c member
  dsimp only [Function.comp]
  split
  next narrow =>
      simp only [isBlank, Bool.or_eq_true, Bool.and_eq_true, decide_eq_true_eq, beq_iff_eq] at here
      rw [isLow, decide_eq_true_eq]
      omega
  next wide =>
      rw [digitValue?_of_isBlank here wide]
      rfl

theorem asciiLower_of_isLow {c : Char} (low : isLow c = true) : asciiLower c = c := by
  rw [isLow, decide_eq_true_eq] at low
  refine if_neg fun capital => ?_
  rw [Bool.and_eq_true, decide_eq_true_eq] at capital
  have least : 65 ≤ c.toNat := capital.1
  omega

theorem isAsciiDigit_of_isLow {c : Char} (low : isLow c = true) : isAsciiDigit c = false := by
  rw [isLow, decide_eq_true_eq] at low
  rw [← Bool.not_eq_true, isAsciiDigit_iff]
  omega

theorem real?_of_low (low : cs.all isLow = true) : real? cs = none := by
  cases cs with
  | nil => rfl
  | cons c cs =>
      rw [List.all_cons, Bool.and_eq_true] at low
      have unsigned : takeSign (c :: cs) = (false, c :: cs) := by
        rw [takeSign]
        · rintro _ ⟨⟩
          exact absurd low.1 (by decide)
        · rintro _ ⟨⟩
          exact absurd low.1 (by decide)
      have other {s : String} (lead : s.toList.head?.any isLow = false) :
          String.ofList ((c :: cs).map asciiLower) ≠ s := by
        rintro rfl
        simp [asciiLower_of_isLow low.1, low.1] at lead
      have none : decimal? false (c :: cs) = none := by
        have noDigit := isAsciiDigit_of_isLow low.1
        have noPoint := ne_of_isLow low.1 (d := '.') (by decide)
        unfold decimal?
        rw [List.takeWhile_cons_of_neg (by simp [noDigit]), List.dropWhile_cons_of_neg (by simp [noDigit])]
        dsimp only
        split
        next more point => exact absurd (List.cons.inj point).1 noPoint
        next => rfl
      unfold real?
      rw [unsigned]
      dsimp only
      split
      next same => exact absurd same (other rfl)
      next same => exact absurd same (other rfl)
      next same => exact absurd same (other rfl)
      next => exact none

theorem freeReal?_of_blank {s : String} (blank : ∀ c ∈ s.toList, isBlank c = true) :
    freeReal? s = none := by
  have low := isLow_plainDigits blank
  have stripped : (stripChars isAsciiBlank (plainDigits s.toList)).all isLow = true := by
    rw [List.all_eq_true] at low ⊢
    intro c member
    rw [stripChars, List.mem_reverse] at member
    have inner := (List.dropWhile_sublist _).mem member
    rw [List.mem_reverse] at inner
    exact low c ((List.dropWhile_sublist _).mem inner)
  have absent : '_' ∉ stripChars isAsciiBlank (plainDigits s.toList) := fun member =>
    absurd (List.all_eq_true.mp stripped '_' member) (by decide)
  rw [freeReal?, dropSeparators?_of_notMem absent, Option.bind_some, real?_of_low stripped]

end Blank

end StillMotion.Number
