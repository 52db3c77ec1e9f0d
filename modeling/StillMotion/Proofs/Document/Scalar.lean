import StillMotion.Document.Meaning
import StillMotion.Data.Json.Writer
import StillMotion.Proofs.Data.JsonText
import StillMotion.Proofs.Number.FreeText
import StillMotion.Proofs.Number.Reading
import StillMotion.Proofs.Text.Search

/-!
# Written scalars are read back

Plain scalars are judged by their text.  The words for nothing and for truth values, integers and
numbers with a point are read as what they were written for; a number without a point is read as
a text.
-/

namespace StillMotion.Document

open StillMotion.Number StillMotion.Text

/-! ## Words -/

section Word

variable {cs : List Char}

theorem withoutLastLine_of_word (word : cs.all isWordChar = true) :
    withoutLastLine (String.ofList cs) = String.ofList cs := by
  unfold withoutLastLine
  split
  next c rest reversed =>
      have member : '\n' ∈ cs := by
        rw [String.toList_ofList] at reversed
        rw [← List.mem_reverse, reversed]
        exact List.mem_cons_self
      exact absurd (List.all_eq_true.mp word _ member) (by decide)
  next => rfl

theorem withoutBars_of_word (word : cs.all isWordChar = true) :
    withoutBars (String.ofList cs) = cs := by
  rw [withoutBars, String.toList_ofList, List.filter_eq_self]
  intro c member
  exact of_isWordChar (p := (· != '_')) (by decide) (List.all_eq_true.mp word c member)

def isNumberLead (c : Char) : Bool := isAsciiDigit c || c == '-'

theorem contains_eq_false {words : List String}
    (other : words.all (fun w => w.toList.head?.all fun c => !isNumberLead c) = true)
    (lead : cs.head?.any isNumberLead = true) : words.contains (String.ofList cs) = false := by
  rw [List.contains_eq_mem, decide_eq_false_iff_not]
  intro member
  have first := List.all_eq_true.mp other _ member
  rw [String.toList_ofList] at first
  cases cs with
  | nil => cases lead
  | cons c rest => simp_all

theorem ne_of_lead {s : String} (other : s.toList.head?.all (fun c => !isNumberLead c) = true)
    (lead : cs.head?.any isNumberLead = true) : String.ofList cs ≠ s := by
  have absent : [s].contains (String.ofList cs) = false :=
    contains_eq_false (by simpa using other) lead
  simpa using absent

end Word

/-! ## Numbers -/

section Number

variable {negative : Bool} {c : Char} {rest : List Char}

theorem head?_signText (digit : isAsciiDigit c = true) :
    (signText negative ++ c :: rest).head?.any isNumberLead = true := by
  cases negative with
  | false => simp [signText, isNumberLead, digit]
  | true => rfl

theorem takeSign_signText (digit : isAsciiDigit c = true) :
    takeSign (signText negative ++ c :: rest) = (negative, c :: rest) := by
  cases negative with
  | false => exact takeSign_of_digit digit
  | true => rfl

theorem kindOf_number (word : (signText negative ++ c :: rest).all isWordChar = true)
    (digit : isAsciiDigit c = true) :
    kindOf (String.ofList (signText negative ++ c :: rest)) =
      if isFraction (signText negative ++ c :: rest) then .fraction
      else if isInteger (signText negative ++ c :: rest) then .integer
      else if (stampParts? true (signText negative ++ c :: rest)).isSome then .stamp
      else .text := by
  have lead : (signText negative ++ c :: rest).head?.any isNumberLead = true :=
    head?_signText digit
  have noTruth : isTruth (String.ofList (signText negative ++ c :: rest)) = false := by
    rw [isTruth, contains_eq_false (by decide) lead, contains_eq_false (by decide) lead]
    rfl
  have noMerge := ne_of_lead (s := "<<") (by decide) lead
  have noValue := ne_of_lead (s := "=") (by decide) lead
  have noWord : nothingWords.contains (String.ofList (signText negative ++ c :: rest)) = false :=
    contains_eq_false (by decide) lead
  unfold kindOf
  simp only [withoutLastLine_of_word word, noTruth, noWord, beq_eq_false_iff_ne.mpr noMerge,
    beq_eq_false_iff_ne.mpr noValue, String.toList_ofList, Bool.false_eq_true, if_false]

theorem withoutSign_signText (digit : isAsciiDigit c = true) :
    withoutSign (signText negative ++ c :: rest) = c :: rest := by
  rw [withoutSign, takeSign_signText digit]

theorem isFraction_of_pointless (digit : isAsciiDigit c = true) (pointless : '.' ∉ c :: rest) :
    isFraction (signText negative ++ c :: rest) = false := by
  have noInfinity : infinityWords.contains (String.ofList (c :: rest)) = false :=
    contains_eq_false (by decide) (show (signText false ++ c :: rest).head?.any _ = true from
      head?_signText digit)
  have noWord : notNumberWords.contains (String.ofList (signText negative ++ c :: rest)) = false :=
    contains_eq_false (by decide) (head?_signText digit)
  have uncut : cut? '.' (c :: rest) = none := cut?_eq_none pointless
  unfold isFraction isSexagesimalFraction
  rw [withoutSign_signText digit]
  simp only [uncut, noInfinity, noWord, Bool.and_false, Bool.or_false]

theorem isDigits_of_all {cs : List Char} (digits : cs.all isAsciiDigit = true) (present : cs ≠ []) :
    isDigits cs = true := by
  cases cs with
  | nil => exact absurd rfl present
  | cons c rest =>
      rw [List.all_cons, Bool.and_eq_true] at digits
      rw [isDigits, digits.1, Bool.true_and, List.all_eq_true]
      intro d member
      rw [isDigitOrBar, List.all_eq_true.mp digits.2 d member, Bool.true_or]

/-! ### Numbers with a point -/

theorem isFractionTail_of_pointed (t : PointedNumeral) :
    isFractionTail (t.fraction ++ t.tail) = true := by
  have skipped : (t.fraction ++ t.tail).dropWhile isDigitOrBar = t.tail := by
    rw [List.dropWhile_append_of_pos fun d member => by
      rw [isDigitOrBar, List.all_eq_true.mp t.fraction_digits d member, Bool.true_or]]
    unfold PointedNumeral.tail
    split <;> rfl
  rw [isFractionTail, skipped]
  unfold PointedNumeral.tail
  split
  next => rfl
  next e given =>
      have digits : (zerosText (2 - (natDigits e.natAbs).length) ++ natDigits e.natAbs).all
          isAsciiDigit = true := by
        rw [List.all_append, all_zerosText, all_natDigits, Bool.and_self]
      rw [exponentText_eq, isSignedExponent, digits]
      by_cases negative : e < 0 <;> simp [negative, natDigits_ne_nil]

theorem isFraction_of_pointed (negative : Bool) (t : PointedNumeral) :
    isFraction (signText negative ++ t.text) = true := by
  obtain ⟨c, rest, shown, digit⟩ := t.exists_cons
  have noPoint : '.' ∉ t.whole := fun member =>
    absurd (List.all_eq_true.mp t.whole_digits _ member) (by decide)
  have divided : cut? '.' t.text = some (t.whole, t.fraction ++ t.tail) := cut?_append noPoint
  have body : withoutSign (signText negative ++ t.text) = t.text := by
    rw [shown, withoutSign_signText digit]
  unfold isFraction
  rw [body]
  simp [divided, t.whole_ne_nil, isDigits_of_all t.whole_digits t.whole_ne_nil,
    isFractionTail_of_pointed t]

theorem kindOf_pointed (negative : Bool) (t : PointedNumeral) :
    kindOf (String.ofList (signText negative ++ t.text)) = .fraction := by
  obtain ⟨c, rest, shown, digit⟩ := t.exists_cons
  have word := all_signText negative t.word
  have fraction := isFraction_of_pointed negative t
  rw [shown] at word fraction ⊢
  rw [kindOf_number word digit, if_pos fraction]

theorem not_mem_word {cs : List Char} {c : Char} (word : cs.all isWordChar = true)
    (other : isWordChar c = false) : c ∉ cs := fun member => by
  rw [List.all_eq_true.mp word c member] at other
  cases other

theorem realOf_pointed (t : PointedNumeral) {y : Float} (read : decimal? false t.text = some y) :
    realOf t.text = .ok y := by
  obtain ⟨c, rest, shown, digit⟩ := t.exists_cons
  have word := t.word
  rw [shown] at word read ⊢
  rw [realOf, freeReal?_of_word word digit, read]

theorem fractionOf_pointed (negative : Bool) {t : PointedNumeral} {y : Float}
    (read : decimal? false t.text = some y) :
    fractionOf (String.ofList (signText negative ++ t.text)) =
      .ok (.float (if negative then -y else y)) := by
  obtain ⟨c, rest, shown, digit⟩ := t.exists_cons
  have word := all_signText negative t.word
  have real := realOf_pointed t read
  have bare : ':' ∉ t.text := not_mem_word t.word (by decide)
  have present : signText negative ++ t.text ≠ [] := by simp [shown]
  have unsigned : takeSign (signText negative ++ t.text) = (negative, t.text) := by
    rw [shown, takeSign_signText digit]
  have noWord {s : String} (other : s.toList.head?.any isAsciiDigit = false) :
      t.text ≠ s.toList := by
    intro same
    rw [← same, shown] at other
    simp [digit] at other
  unfold fractionOf
  rw [withoutBars_of_word word, lowerChars_of_word word]
  simp only [unsigned, List.isEmpty_eq_false_iff.mpr present, Bool.false_eq_true, if_false,
    beq_eq_false_iff_ne.mpr (noWord (s := ".inf") rfl),
    beq_eq_false_iff_ne.mpr (noWord (s := ".nan") rfl)]
  rw [if_neg (by simpa using bare), real]
  rfl

/-! ### Integers -/

theorem isInteger_encodeInt (n : Int) : isInteger (Json.encodeInt n) = true := by
  obtain ⟨c, rest, written, digit⟩ := natDigits_eq_cons n.natAbs
  have digits := all_natDigits n.natAbs
  rw [Json.encodeInt_eq, isInteger, written, withoutSign_signText digit, ← written]
  unfold isIntegerBody
  split
  next => rfl
  next marked => cases (natDigits_eq_singleton marked).2
  next marked => cases (natDigits_eq_singleton marked).2
  next marked => rw [(natDigits_eq_singleton marked).2, List.all_nil]
  next => rw [isDigits_of_all digits (natDigits_ne_nil _), Bool.true_or]

theorem kindOf_encodeInt (n : Int) : kindOf (String.ofList (Json.encodeInt n)) = .integer := by
  obtain ⟨c, rest, written, digit⟩ := natDigits_eq_cons n.natAbs
  have digits := all_natDigits n.natAbs
  have integer := isInteger_encodeInt n
  have pointless : '.' ∉ natDigits n.natAbs := fun member =>
    absurd (List.all_eq_true.mp digits _ member) (by decide)
  have word := all_signText (decide (n < 0)) (all_isWordChar_of_isAsciiDigit digits)
  rw [Json.encodeInt_eq] at integer ⊢
  rw [written] at integer pointless word ⊢
  rw [kindOf_number word digit, isFraction_of_pointless digit pointless, if_neg Bool.false_ne_true,
    if_pos integer]

theorem magnitudeOf_natDigits {n : Nat} (within : n < 10 ^ digitLimit) :
    magnitudeOf (natDigits n) = .ok n := by
  have bare : ':' ∉ natDigits n := fun member =>
    absurd (List.all_eq_true.mp (all_natDigits n) _ member) (by decide)
  unfold magnitudeOf
  split
  next zero => rw [(natDigits_eq_singleton zero).1]; rfl
  next marked => cases (natDigits_eq_singleton marked).2
  next marked => cases (natDigits_eq_singleton marked).2
  next more _ _ marked => exact absurd (natDigits_eq_singleton marked).2 more
  next => rw [if_neg (by simpa using bare), inBase, freeWhole_natDigits within]

theorem integerOf_encodeInt {n : Int} (within : n.natAbs < 10 ^ digitLimit) :
    integerOf (String.ofList (Json.encodeInt n)) = .ok (.int n) := by
  obtain ⟨c, rest, written, digit⟩ := natDigits_eq_cons n.natAbs
  have word := all_signText (decide (n < 0))
    (all_isWordChar_of_isAsciiDigit (all_natDigits n.natAbs))
  have unsigned : takeSign (signText (decide (n < 0)) ++ natDigits n.natAbs) =
      (decide (n < 0), natDigits n.natAbs) := by rw [written, takeSign_signText digit]
  have present : signText (decide (n < 0)) ++ natDigits n.natAbs ≠ [] := by simp [written]
  rw [Json.encodeInt_eq, integerOf, withoutBars_of_word word]
  simp only [unsigned, List.isEmpty_eq_false_iff.mpr present,
    List.isEmpty_eq_false_iff.mpr (natDigits_ne_nil n.natAbs), Bool.false_eq_true, if_false,
    magnitudeOf_natDigits within]
  change Except.ok (Value.int (if decide (n < 0) = true then -(n.natAbs : Int) else n.natAbs)) = _
  congr 2
  by_cases negative : n < 0
  · rw [if_pos (decide_eq_true negative)]
    omega
  · rw [if_neg (by simpa using negative)]
    omega

/-! ### Numbers without a point -/

theorem isInteger_pointless (negative : Bool) (digit : isAsciiDigit c = true) (other : c ≠ '0')
    (e : Int) : isInteger (signText negative ++ c :: 'e' :: exponentText e) = false := by
  have bare : ':' ∉ c :: 'e' :: exponentText e :=
    not_mem_word (all_pointless digit e) (by decide)
  have noPart : isSexagesimal (c :: 'e' :: exponentText e) = false := by
    rw [isSexagesimal, splitChar_eq_singleton bare]
  have noDigits : isDigits (c :: 'e' :: exponentText e) = false := by
    rw [isDigits, List.all_cons]
    exact Bool.and_false _
  rw [isInteger, withoutSign_signText digit]
  unfold isIntegerBody
  split
  next same => cases same
  next same => exact absurd (List.cons.inj same).1 other
  next same => exact absurd (List.cons.inj same).1 other
  next same => exact absurd (List.cons.inj same).1 other
  next => rw [noDigits, noPart, Bool.or_self]

theorem digitRun?_pointless (negative : Bool) (digit : isAsciiDigit c = true) (e : Int) :
    digitRun? 4 4 (signText negative ++ c :: 'e' :: exponentText e) = none := by
  have mark : isAsciiDigit 'e' = false := rfl
  have minus : isAsciiDigit '-' = false := rfl
  cases negative with
  | false => simp [digitRun?, signText, digit, mark]
  | true => simp [digitRun?, signText, minus]

theorem kindOf_pointless (negative : Bool) (digit : isAsciiDigit c = true) (other : c ≠ '0')
    (e : Int) :
    kindOf (String.ofList (signText negative ++ c :: 'e' :: exponentText e)) = .text := by
  have noStamp : stampParts? true (signText negative ++ c :: 'e' :: exponentText e) = none := by
    rw [stampParts?, digitRun?_pointless negative digit e]
    rfl
  rw [kindOf_number (all_signText negative (all_pointless digit e)) digit,
    isFraction_of_pointless digit (point_not_mem_pointless digit e),
    isInteger_pointless negative digit other e, noStamp]
  rfl

end Number

/-! ## Values -/

def plainMeaning (cs : List Char) : Except Fault Value :=
  meaningOf (.scalar none (String.ofList cs))

theorem plainMeaning_encodeInt {n : Int} (within : n.natAbs < 10 ^ digitLimit) :
    plainMeaning (Json.encodeInt n) = .ok (.int n) := by
  rw [plainMeaning, meaningOf, effectiveTag, Option.getD_none, kindOf_encodeInt, scalarValue]
  exact integerOf_encodeInt within

theorem plainMeaning_dataText {x : Float} (finite : isFinite x = true) :
    plainMeaning (dataText x) =
      .ok (if '.' ∈ dataText x then .float x else .str (String.ofList (dataText x))) := by
  rw [plainMeaning, meaningOf, effectiveTag, Option.getD_none]
  rcases dataText_cases finite with ⟨negative, t, y, written, read, same⟩ |
    ⟨negative, c, e, digit, other, written⟩
  · have point : '.' ∈ signText negative ++ t.text := by simp [PointedNumeral.text]
    rw [written, kindOf_pointed, if_pos point, ← same]
    exact fractionOf_pointed negative read
  · have pointless : '.' ∉ signText negative ++ c :: 'e' :: exponentText e := by
      rw [List.mem_append, not_or]
      exact ⟨by cases negative <;> decide, point_not_mem_pointless digit e⟩
    rw [written, kindOf_pointless negative digit other, if_neg pointless]
    rfl

end StillMotion.Document
