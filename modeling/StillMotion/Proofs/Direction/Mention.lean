import StillMotion.Direction.Duration
import StillMotion.Proofs.Data.Outcome
import StillMotion.Proofs.Number.Bits
import StillMotion.Proofs.Number.FreeText

/-!
# Durations in prompts

The four patterns of a duration are wordings: sequences of parts, some of which may repeat.  A
wording is matched as such sequences usually are, at the leftmost place where it matches in any
way, each part that may repeat taking as many characters as the rest of the wording lets it.  The
patterns read the same without trying the other ways, because in each wording no part that repeats
can give up a character that the next one could take, and without looking inside runs of digits.

So the number that is read is never a part of a longer one, it stands before a unit or behind the
label, and the first wording whose number is in range decides.
-/

namespace StillMotion.Duration

open StillMotion.Text StillMotion.Number

/-! ## Wordings -/

/-- A part of a wording.  One that may repeat does so as often as the rest of the wording lets
it. -/
inductive Part where
  | one (accepts : Char → Bool)
  /-- One character or none. -/
  | optional (accepts : Char → Bool)
  /-- Any number of characters. -/
  | any (accepts : Char → Bool)
  /-- At least one character. -/
  | some (accepts : Char → Bool)
  /-- At least one digit, which is what the wording is read for. -/
  | number

abbrev Wording := List Part

def word (letters : List Char) : Wording := letters.map fun letter => .one (isLetter letter)

namespace Wording

def seconds : Wording :=
  .number :: .any isBlank :: (word "second".toList ++ [.optional (isLetter 's')])

def sec : Wording := .number :: .any isBlank :: word "sec".toList

def labelled : Wording := word "duration".toList ++ [.some isGap, .number]

def introduced : Wording := word "for".toList ++ .some isBlank :: seconds

end Wording

/-- The wordings of a duration, in the order in which they are looked for. -/
def wordings : List Wording := [.seconds, .sec, .labelled, .introduced]

/-- The ways to take characters of a class off the front of a text, most characters first: what is
taken and what is left. -/
def runs (accepts : Char → Bool) : List Char → List (List Char × List Char)
  | [] => [([], [])]
  | c :: cs =>
      (if accepts c then (runs accepts cs).map fun way => (c :: way.1, way.2) else []) ++
        [([], c :: cs)]

def single (accepts : Char → Bool) : List Char → List (List Char × List Char)
  | [] => []
  | c :: cs => if accepts c then [([c], cs)] else []

/-- The ways to match a part at the front of a text, in the order in which they are tried. -/
def Part.ways : Part → List Char → List (List Char × List Char)
  | one accepts, cs => single accepts cs
  | optional accepts, cs => single accepts cs ++ [([], cs)]
  | any accepts, cs => runs accepts cs
  | some accepts, cs => (runs accepts cs).filter fun way => !way.1.isEmpty
  | number, cs => (runs isDigit cs).filter fun way => !way.1.isEmpty

def Part.reading : Part → List Char → List Char
  | number, taken => taken
  | _, _ => []

/-- What is read in each way to match a wording at the front of a text, in the order in which the
ways are tried. -/
def Wording.ways : Wording → List Char → List (List Char)
  | [], _ => [[]]
  | part :: parts, cs => (part.ways cs).flatMap fun way =>
      (ways parts way.2).map (part.reading way.1 ++ ·)

/-- What is read of a wording at the leftmost place of a text at which it matches. -/
def Wording.leftmost? (wording : Wording) (text : List Char) : Option (List Char) :=
  text.tails.findSome? fun rest => (wording.ways rest).head?

/-! ## Matching at a place -/

section Ways

variable {accepts : Char → Bool} {parts : Wording} {β : Type}

/-- The longest run is the only one when nothing can go on with a character of the class. -/
theorem flatMap_runs {next : List Char × List Char → List β}
    (barred : ∀ taken c cs, accepts c = true → next (taken, c :: cs) = []) (cs : List Char) :
    (runs accepts cs).flatMap next = next (cs.takeWhile accepts, cs.dropWhile accepts) := by
  -- A shorter run leaves a character of the class in front, and nothing goes on with that.
  induction cs generalizing next with
  | nil => simp [runs]
  | cons c cs ih =>
      cases accepted : accepts c with
      | true =>
          have later : (runs accepts cs).flatMap (fun way => next (c :: way.1, way.2)) =
              next (c :: cs.takeWhile accepts, cs.dropWhile accepts) :=
            ih fun taken d ds admitted => barred (c :: taken) d ds admitted
          simp [runs, accepted, List.flatMap_map, later, barred [] c cs accepted]
      | false => simp [runs, accepted]

theorem flatMap_nonempty_runs {next : List Char × List Char → List β}
    (barred : ∀ taken c cs, accepts c = true → next (taken, c :: cs) = []) (cs : List Char) :
    ((runs accepts cs).filter fun way => !way.1.isEmpty).flatMap next =
      if (cs.takeWhile accepts).isEmpty then []
      else next (cs.takeWhile accepts, cs.dropWhile accepts) := by
  have guarded : ((runs accepts cs).filter fun way => !way.1.isEmpty).flatMap next =
      (runs accepts cs).flatMap fun way => if way.1.isEmpty then [] else next way := by
    induction runs accepts cs with
    | nil => rfl
    | cons way ways ih =>
        cases empty : way.1.isEmpty <;>
          simp only [List.filter_cons, empty, Bool.not_true, Bool.not_false, if_true,
            Bool.false_eq_true, if_false, List.flatMap_cons, List.nil_append, ih]
  rw [guarded, flatMap_runs]
  intro taken c cs admitted
  simp [barred taken c cs admitted]

theorem Wording.ways_one (accepts : Char → Bool) (parts : Wording) (cs : List Char) :
    ways (.one accepts :: parts) cs = (single accepts cs).flatMap fun way => ways parts way.2 := by
  simp [ways, Part.ways, Part.reading]

theorem Wording.ways_any
    (barred : ∀ c cs, accepts c = true → ways parts (c :: cs) = []) (cs : List Char) :
    ways (.any accepts :: parts) cs = ways parts (cs.dropWhile accepts) := by
  rw [ways, Part.ways, flatMap_runs fun taken c cs admitted => by rw [barred c cs admitted]; rfl]
  simp [Part.reading]

theorem Wording.ways_some
    (barred : ∀ c cs, accepts c = true → ways parts (c :: cs) = []) (cs : List Char) :
    ways (.some accepts :: parts) cs =
      if (cs.takeWhile accepts).isEmpty then [] else ways parts (cs.dropWhile accepts) := by
  rw [ways, Part.ways,
    flatMap_nonempty_runs fun taken c cs admitted => by rw [barred c cs admitted]; rfl]
  simp [Part.reading]

theorem Wording.ways_number
    (barred : ∀ c cs, isDigit c = true → ways parts (c :: cs) = []) (cs : List Char) :
    ways (.number :: parts) cs =
      if (cs.takeWhile isDigit).isEmpty then []
      else (ways parts (cs.dropWhile isDigit)).map (cs.takeWhile isDigit ++ ·) := by
  rw [ways, Part.ways,
    flatMap_nonempty_runs fun taken c cs admitted => by rw [barred c cs admitted]; rfl]
  rfl

theorem word_cons (letter : Char) (letters : List Char) :
    word (letter :: letters) = .one (isLetter letter) :: word letters := rfl

theorem Wording.ways_word (letters : List Char) (parts : Wording) (cs : List Char) :
    ways (word letters ++ parts) cs = ((dropWord? letters cs).map (ways parts)).getD [] := by
  induction letters generalizing cs with
  | nil => simp [word, dropWord?]
  | cons letter letters ih =>
      rw [word_cons, List.cons_append, ways_one]
      cases cs with
      | nil => simp [single, dropWord?]
      | cons c cs => cases same : isLetter letter c <;> simp [single, dropWord?, same, ih]

theorem Wording.head?_ways_optional (accepts : Char → Bool) (cs : List Char) :
    (ways [.optional accepts] cs).head? = some [] := by
  cases cs with
  | nil => rfl
  | cons c cs =>
      cases accepted : accepts c <;> simp [ways, Part.ways, single, accepted, Part.reading]

end Ways

/-! ## The patterns as wordings -/

section Patterns

variable {c : Char} {cs : List Char}

theorem plain_of_isLetter {letter : Char} (small : ('a' ≤ letter && letter ≤ 'z') = true)
    (h : isLetter letter c = true) : isDigit c = false ∧ isGap c = false := by
  have ascii (same : asciiLower c = letter) : isDigit c = false ∧ isGap c = false := by
    have bound : c.toNat < 128 := by
      rw [Bool.and_eq_true, decide_eq_true_eq, decide_eq_true_eq] at small
      unfold asciiLower at same
      split at same
      next capital =>
          rw [Bool.and_eq_true, decide_eq_true_eq, decide_eq_true_eq] at capital
          exact Nat.lt_of_le_of_lt (show c.toNat ≤ 90 from capital.2) (by decide)
      next => exact Nat.lt_of_le_of_lt (show c.toNat ≤ 122 from same ▸ small.2) (by decide)
    have plain := of_ascii (p := fun c => !('a' ≤ asciiLower c && asciiLower c ≤ 'z') ||
      (!isDigit c && !isGap c)) (by decide) bound
    simpa [same, small] using plain
  have code {n : Nat} (same : c.toNat = n) : Char.ofNat n = c := by rw [← same, Char.ofNat_toNat]
  simp only [isLetter, Bool.or_eq_true, Bool.and_eq_true, beq_iff_eq] at h
  rcases h with (same | ⟨_, same⟩) | ⟨_, same | same⟩
  · exact ascii same
  -- Three characters outside the alphabet count as letters.
  all_goals
    rw [← code same]
    decide

theorem not_isDigit_of_isBlank (blank : isBlank c = true) : isDigit c = false := by
  by_cases small : c.toNat < 128
  · have plain := of_ascii (p := fun c => !isBlank c || !isDigit c) (by decide) small
    simpa [blank] using plain
  · rw [isDigit, digitValue?_of_isBlank blank (by omega)]
    rfl

theorem not_isDigit_of_isGap (gap : isGap c = true) : isDigit c = false := by
  rw [isGap, Bool.or_eq_true, beq_iff_eq] at gap
  rcases gap with rfl | blank
  · decide
  · exact not_isDigit_of_isBlank blank

/-! ### Words -/

def Spells (letters text : List Char) : Prop :=
  List.Forall₂ (fun letter c => isLetter letter c = true) letters text

theorem exists_of_dropWord? {letters rest : List Char} (h : dropWord? letters cs = some rest) :
    ∃ written, cs = written ++ rest ∧ Spells letters written := by
  induction letters generalizing cs with
  | nil =>
      cases h
      exact ⟨[], rfl, .nil⟩
  | cons letter letters ih =>
      cases cs with
      | nil => cases h
      | cons c cs =>
          rw [dropWord?] at h
          split at h
          next same =>
              obtain ⟨written, rfl, spelled⟩ := ih h
              exact ⟨c :: written, rfl, .cons same spelled⟩
          next => cases h

/-- A word does not begin with a digit, a blank or a colon. -/
theorem dropWord?_of_plain {letter : Char} {letters : List Char}
    (small : ('a' ≤ letter && letter ≤ 'z') = true) (plain : isDigit c = true ∨ isGap c = true) :
    dropWord? (letter :: letters) (c :: cs) = none := by
  have other : isLetter letter c = false := by
    by_contra same
    have shown := plain_of_isLetter small (Bool.eq_true_of_not_eq_false same)
    simp [shown] at plain
  simp [dropWord?, other]

/-! ### Patterns -/

section Unit

variable {letter : Char} {letters : List Char} {tail : Wording}

theorem ways_unit_of_plain (small : ('a' ≤ letter && letter ≤ 'z') = true)
    (plain : isDigit c = true ∨ isGap c = true) :
    Wording.ways (word (letter :: letters) ++ tail) (c :: cs) = [] := by
  rw [Wording.ways_word, dropWord?_of_plain small plain]
  rfl

theorem head?_ways_quantity (small : ('a' ≤ letter && letter ≤ 'z') = true)
    (ends : ∀ cs, (tail.ways cs).head? = some []) (cs : List Char) :
    (Wording.ways (.number :: .any isBlank :: (word (letter :: letters) ++ tail)) cs).head? =
      quantity? (letter :: letters) cs := by
  have blank (c : Char) (cs : List Char) (blank : isBlank c = true) :
      Wording.ways (word (letter :: letters) ++ tail) (c :: cs) = [] :=
    ways_unit_of_plain small (.inr (show isGap c = true by simp [isGap, blank]))
  have digit (c : Char) (cs : List Char) (digit : isDigit c = true) :
      Wording.ways (.any isBlank :: (word (letter :: letters) ++ tail)) (c :: cs) = [] := by
    have shown : isBlank c = false := by
      by_contra blank
      rw [not_isDigit_of_isBlank (Bool.eq_true_of_not_eq_false blank)] at digit
      cases digit
    rw [Wording.ways_any blank, List.dropWhile_cons_of_neg (by simp [shown])]
    exact ways_unit_of_plain small (.inl digit)
  rw [Wording.ways_number digit, Wording.ways_any blank, Wording.ways_word]
  unfold quantity? digitRun?
  split
  next none => simp [none]
  next some =>
      simp only [some, Bool.false_eq_true, if_false, Option.bind_eq_bind, Option.bind_some,
        trimLeft]
      cases dropWord? (letter :: letters) ((cs.dropWhile isDigit).dropWhile isBlank) with
      | none => rfl
      | some rest => simp [List.head?_map, ends]

end Unit

theorem head?_ways_seconds (cs : List Char) :
    (Wording.seconds.ways cs).head? = quantity? "second".toList cs :=
  head?_ways_quantity (by decide) (Wording.head?_ways_optional _) cs

theorem head?_ways_number (cs : List Char) :
    (Wording.ways [.number] cs).head? = (digitRun? cs).map (·.1) := by
  have longest : (runs isDigit cs).head? = some (cs.takeWhile isDigit, cs.dropWhile isDigit) := by
    induction cs with
    | nil => rfl
    | cons c cs ih => cases digit : isDigit c <;> simp [runs, digit, ih]
  obtain ⟨shorter, split⟩ := List.head?_eq_some_iff.mp longest
  cases cs with
  | nil => rfl
  | cons c cs =>
      cases digit : isDigit c with
      | false => simp [Wording.ways, Part.ways, runs, digit, digitRun?]
      | true =>
          rw [Wording.ways, Part.ways, split]
          simp [digit, Wording.ways, Part.reading, digitRun?]

theorem ways_number_of_gap (gap : isGap c = true) (parts : Wording) (cs : List Char) :
    Wording.ways (.number :: parts) (c :: cs) = [] := by
  simp [Wording.ways, Part.ways, runs, not_isDigit_of_isGap gap]

theorem takeWhile_isEmpty (accepts : Char → Bool) (cs : List Char) :
    (cs.takeWhile accepts).isEmpty = !cs.head?.any accepts := by
  cases cs with
  | nil => rfl
  | cons c cs => cases accepted : accepts c <;> simp [accepted]

theorem head?_ways_labelled (cs : List Char) : (Wording.labelled.ways cs).head? = labelled? cs := by
  have gap (c : Char) (cs : List Char) (gap : isGap c = true) := ways_number_of_gap gap [] cs
  rw [Wording.labelled, Wording.ways_word]
  unfold labelled?
  cases dropWord? "duration".toList cs with
  | none => rfl
  | some rest =>
      rw [Option.map_some, Option.getD_some, Wording.ways_some gap, takeWhile_isEmpty]
      cases rest with
      | nil => rfl
      | cons c cs =>
          cases here : isGap c with
          | false => simp [here]
          | true => simp [here, head?_ways_number]

theorem head?_ways_introduced (cs : List Char) :
    (Wording.introduced.ways cs).head? = introduced? cs := by
  have blank (c : Char) (cs : List Char) (blank : isBlank c = true) :
      Wording.seconds.ways (c :: cs) = [] :=
    ways_number_of_gap (show isGap c = true by simp [isGap, blank]) _ cs
  rw [Wording.introduced, Wording.ways_word]
  unfold introduced?
  cases dropWord? "for".toList cs with
  | none => rfl
  | some rest =>
      rw [Option.map_some, Option.getD_some, Wording.ways_some blank, takeWhile_isEmpty]
      cases rest with
      | nil => rfl
      | cons c cs =>
          rw [List.head?_cons, Option.any_some]
          cases here : isBlank c with
          | false =>
              simp only [Bool.not_false, if_true, Option.bind_eq_bind, Option.bind_some, here,
                Bool.false_eq_true, if_false, List.head?_nil]
          | true =>
              simp only [Bool.not_true, Bool.false_eq_true, if_false, head?_ways_seconds,
                Option.bind_eq_bind, Option.bind_some, here, if_true, trimLeft]

end Patterns

/-! ## The leftmost place -/

section Leftmost

variable {pattern : List Char → Option (List Char)} {text digits : List Char} {c d : Char}
  {cs unit : List Char}

/-- A pattern that does not match before a digit does not match behind it either, so that places
inside a run of digits need not be looked at. -/
def PassesDigits (pattern : List Char → Option (List Char)) : Prop :=
  ∀ c d cs, isDigit c = true → isDigit d = true → pattern (c :: d :: cs) = none →
    pattern (d :: cs) = none

theorem firstMatch_eq_findSome? (empty : pattern [] = none) (passes : PassesDigits pattern)
    (text : List Char) : firstMatch pattern false text = text.tails.findSome? pattern := by
  have from_ (afterDigit : Bool) (before : afterDigit = true →
      ∃ c, isDigit c = true ∧ pattern (c :: text) = none) :
      firstMatch pattern afterDigit text = text.tails.findSome? pattern := by
    induction text generalizing afterDigit with
    | nil => simp [firstMatch, empty]
    | cons d cs ih =>
        -- Behind a digit this place is passed over, but the one before it has been tried.
        have here : (if afterDigit && isDigit d then none else pattern (d :: cs)) =
            pattern (d :: cs) := by
          split
          next inside =>
              rw [Bool.and_eq_true] at inside
              obtain ⟨c, digit, unmatched⟩ := before inside.1
              exact (passes c d cs digit inside.2 unmatched).symm
          next => rfl
        rw [firstMatch, List.tails, List.findSome?_cons]
        rw [here]
        cases matched : pattern (d :: cs) with
        | some digits => rfl
        | none => exact ih (isDigit d) fun digit => ⟨d, digit, matched⟩
  exact from_ false nofun

theorem quantity?_digit (unit : List Char) (first : isDigit c = true) (second : isDigit d = true) :
    quantity? unit (c :: d :: cs) = (quantity? unit (d :: cs)).map (c :: ·) := by
  simp only [quantity?, digitRun?, List.takeWhile_cons, List.dropWhile_cons, first, second, if_true,
    List.isEmpty_cons, Bool.false_eq_true, if_false, Option.bind_eq_bind, Option.bind_some]
  cases dropWord? unit (trimLeft (cs.dropWhile isDigit)) <;> rfl

theorem passesDigits_quantity? (unit : List Char) : PassesDigits (quantity? unit) := by
  intro c d cs first second unmatched
  rwa [quantity?_digit unit first second, Option.map_eq_none_iff] at unmatched

theorem labelled?_digit (digit : isDigit d = true) : labelled? (d :: cs) = none := by
  have nowhere : dropWord? "duration".toList (d :: cs) = none :=
    dropWord?_of_plain (by decide) (.inl digit)
  rw [labelled?, nowhere]
  rfl

theorem introduced?_digit (digit : isDigit d = true) : introduced? (d :: cs) = none := by
  have nowhere : dropWord? "for".toList (d :: cs) = none :=
    dropWord?_of_plain (by decide) (.inl digit)
  rw [introduced?, nowhere]
  rfl

end Leftmost

/-! ## Mentions -/

/-- A run of digits in a text that stands beside no other digit. -/
structure IsNumber (text before digits after : List Char) : Prop where
  text_eq : text = before ++ (digits ++ after)
  present : digits ≠ []
  digits : digits.all isDigit = true
  left : ∀ c ∈ before.getLast?, isDigit c = false
  right : ∀ c ∈ after.head?, isDigit c = false

def HasUnit (after : List Char) : Prop :=
  ∃ blanks unit rest, after = blanks ++ (unit ++ rest) ∧ blanks.all isBlank = true ∧
    Spells "sec".toList unit

def HasLabel (before : List Char) : Prop :=
  ∃ front label gap, before = front ++ (label ++ gap) ∧ Spells "duration".toList label ∧
    gap ≠ [] ∧ gap.all isGap = true

/-- A number in a text that is mentioned as a duration. -/
structure IsMention (text before digits after : List Char) : Prop extends
    IsNumber text before digits after where
  duration : HasUnit after ∨ HasLabel before

section Mentions

variable {pattern : List Char → Option (List Char)} {text digits cs rest unit : List Char}

theorem findSome?_tails_of_eq_some (h : pattern text = some digits) :
    text.tails.findSome? pattern = some digits := by
  cases text <;> simp [List.tails, h]

theorem exists_of_findSome?_tails (h : text.tails.findSome? pattern = some digits) :
    ∃ before rest, text = before ++ rest ∧ pattern rest = some digits ∧
      ∀ c ∈ before.getLast?, pattern (c :: rest) = none := by
  induction text with
  | nil => exact ⟨[], [], rfl, by simpa using h, nofun⟩
  | cons c cs ih =>
      rw [List.tails, List.findSome?_cons] at h
      split at h
      next matched =>
          cases h
          exact ⟨[], c :: cs, rfl, matched, nofun⟩
      next unmatched =>
          obtain ⟨before, rest, rfl, matched, behind⟩ := ih h
          refine ⟨c :: before, rest, rfl, matched, ?_⟩
          cases before with
          | nil =>
              rintro d ⟨⟩
              exact unmatched
          | cons d before =>
              rw [List.getLast?_cons_cons]
              exact behind

theorem digitRun?_eq_some (h : digitRun? cs = some (digits, rest)) :
    cs = digits ++ rest ∧ digits ≠ [] ∧ digits.all isDigit = true ∧
      ∀ c ∈ rest.head?, isDigit c = false := by
  unfold digitRun? at h
  dsimp only at h
  split at h
  next => cases h
  next present =>
      cases h
      refine ⟨List.takeWhile_append_dropWhile.symm, by simpa using present, List.all_takeWhile, ?_⟩
      intro c first
      have shown := List.head?_dropWhile_not isDigit cs
      rw [Option.mem_def.mp first] at shown
      simpa using shown

theorem quantity?_eq_some (h : quantity? unit cs = some digits) :
    ∃ rest blanks written more, digitRun? cs = some (digits, rest) ∧
      rest = blanks ++ (written ++ more) ∧ blanks.all isBlank = true ∧ Spells unit written := by
  obtain ⟨⟨found, rest⟩, run, h⟩ := Option.bind_eq_some_iff.mp h
  obtain ⟨more, spelled, h⟩ := Option.bind_eq_some_iff.mp h
  cases h
  obtain ⟨written, split, spelled⟩ := exists_of_dropWord? spelled
  refine ⟨rest, rest.takeWhile isBlank, written, more, run, ?_, List.all_takeWhile, spelled⟩
  rw [← split, trimLeft, List.takeWhile_append_dropWhile]

theorem HasUnit.of_quantity {blanks written more : List Char} (unit : List Char)
    (blank : blanks.all isBlank = true) (spelled : Spells ("sec".toList ++ unit) written) :
    HasUnit (blanks ++ (written ++ more)) := by
  refine ⟨blanks, written.take 3, written.drop 3 ++ more, ?_, blank, ?_⟩
  · rw [← List.append_assoc (written.take 3), List.take_append_drop]
  · exact List.forall₂_take 3 spelled

theorem isMention_of_quantity? (unit : List Char)
    (h : text.tails.findSome? (quantity? ("sec".toList ++ unit)) = some digits) :
    ∃ before after, IsMention text before digits after := by
  obtain ⟨before, cs, rfl, matched, behind⟩ := exists_of_findSome?_tails h
  obtain ⟨rest, blanks, written, more, run, rfl, blank, spelled⟩ := quantity?_eq_some matched
  obtain ⟨rfl, present, digit, right⟩ := digitRun?_eq_some run
  refine ⟨before, _, ⟨rfl, present, digit, ?_, right⟩, .inl (.of_quantity unit blank spelled)⟩
  intro c last
  by_contra left
  obtain ⟨d, ds, rfl⟩ := List.exists_cons_of_ne_nil present
  rw [List.all_cons, Bool.and_eq_true] at digit
  have unmatched := behind c last
  rw [List.cons_append, quantity?_digit _ (Bool.eq_true_of_not_eq_false left) digit.1,
    ← List.cons_append, matched] at unmatched
  cases unmatched

theorem not_isDigit_of_getLast?_gap {front gap : List Char} (present : gap ≠ [])
    (gaps : gap.all isGap = true) : ∀ c ∈ (front ++ gap).getLast?, isDigit c = false := by
  intro c last
  rw [List.getLast?_append_of_ne_nil _ present] at last
  exact not_isDigit_of_isGap (List.all_eq_true.mp gaps c (List.mem_of_mem_getLast? last))

theorem labelled?_eq_some (h : labelled? cs = some digits) :
    ∃ label gap rest after, cs = label ++ (gap ++ rest) ∧ Spells "duration".toList label ∧
      gap ≠ [] ∧ gap.all isGap = true ∧ digitRun? rest = some (digits, after) := by
  obtain ⟨rest, dropped, number⟩ := Option.bind_eq_some_iff.mp h
  obtain ⟨label, rfl, spelled⟩ := exists_of_dropWord? dropped
  cases rest with
  | nil => cases number
  | cons c rest =>
      obtain ⟨gap, number⟩ := Option.ite_none_right_eq_some.mp number
      obtain ⟨⟨found, after⟩, run, rfl⟩ := Option.map_eq_some_iff.mp number
      refine ⟨label, (c :: rest).takeWhile isGap, _, after, ?_, spelled, ?_, List.all_takeWhile,
        run⟩
      · rw [List.takeWhile_append_dropWhile]
      · simp [gap]

theorem introduced?_eq_some (h : introduced? cs = some digits) :
    ∃ front gap rest, cs = front ++ (gap ++ rest) ∧ gap ≠ [] ∧ gap.all isBlank = true ∧
      quantity? "second".toList rest = some digits := by
  obtain ⟨rest, dropped, number⟩ := Option.bind_eq_some_iff.mp h
  obtain ⟨front, rfl, -⟩ := exists_of_dropWord? dropped
  cases rest with
  | nil => cases number
  | cons c rest =>
      obtain ⟨blank, number⟩ := Option.ite_none_right_eq_some.mp number
      refine ⟨front, (c :: rest).takeWhile isBlank, _, ?_, ?_, List.all_takeWhile, number⟩
      · rw [trimLeft, List.takeWhile_append_dropWhile]
      · simp [blank]

theorem isMention_of_labelled? (h : text.tails.findSome? labelled? = some digits) :
    ∃ before after, IsMention text before digits after := by
  obtain ⟨front, cs, rfl, matched, -⟩ := exists_of_findSome?_tails h
  obtain ⟨label, gap, rest, after, rfl, spelled, present, gaps, run⟩ := labelled?_eq_some matched
  obtain ⟨rfl, some, digit, right⟩ := digitRun?_eq_some run
  refine ⟨front ++ (label ++ gap), after, ⟨by simp, some, digit, ?_, right⟩,
    .inr ⟨front, label, gap, rfl, spelled, present, gaps⟩⟩
  rw [← List.append_assoc]
  exact not_isDigit_of_getLast?_gap present gaps

theorem isMention_of_introduced? (h : text.tails.findSome? introduced? = some digits) :
    ∃ before after, IsMention text before digits after := by
  obtain ⟨front, cs, rfl, matched, -⟩ := exists_of_findSome?_tails h
  obtain ⟨introduction, gap, rest, rfl, present, blank, matched⟩ := introduced?_eq_some matched
  obtain ⟨after, blanks, written, more, run, rfl, blank', spelled⟩ := quantity?_eq_some matched
  obtain ⟨rfl, some, digit, right⟩ := digitRun?_eq_some run
  have gaps : gap.all isGap = true :=
    List.all_eq_true.mpr fun c member => by simp [isGap, List.all_eq_true.mp blank c member]
  refine ⟨front ++ (introduction ++ gap), _, ⟨by simp, some, digit, ?_, right⟩,
    .inl (.of_quantity "ond".toList blank' spelled)⟩
  rw [← List.append_assoc]
  exact not_isDigit_of_getLast?_gap present gaps

end Mentions

/-! ## Each pattern and its wording -/

/-- A pattern reads what its wording says, wherever it is looked at. -/
structure Renders (pattern : List Char → Option (List Char)) (wording : Wording) : Prop where
  same : ∀ cs, (wording.ways cs).head? = pattern cs
  empty : pattern [] = none
  passes : PassesDigits pattern
  mention : ∀ {text digits}, text.tails.findSome? pattern = some digits →
    ∃ before after, IsMention text before digits after

section Renders

variable {pattern : List Char → Option (List Char)} {wording : Wording} {text digits : List Char}

theorem Renders.leftmost?_eq (renders : Renders pattern wording) (text : List Char) :
    wording.leftmost? text = text.tails.findSome? pattern :=
  congrArg text.tails.findSome? (funext renders.same)

theorem Renders.firstMatch_eq (renders : Renders pattern wording) (text : List Char) :
    firstMatch pattern false text = wording.leftmost? text := by
  rw [firstMatch_eq_findSome? renders.empty renders.passes, renders.leftmost?_eq]

theorem renders_seconds : Renders (quantity? "second".toList) .seconds where
  same := head?_ways_seconds
  empty := rfl
  passes := passesDigits_quantity? _
  mention := isMention_of_quantity? "ond".toList

theorem renders_sec : Renders (quantity? "sec".toList) .sec where
  same cs := by
    have whole : (Wording.ways (.number :: .any isBlank :: (word "sec".toList ++ [])) cs).head? =
        quantity? "sec".toList cs :=
      head?_ways_quantity (by decide) (fun _ => rfl) cs
    rwa [List.append_nil] at whole
  empty := rfl
  passes := passesDigits_quantity? _
  mention := isMention_of_quantity? []

theorem renders_labelled : Renders labelled? .labelled where
  same := head?_ways_labelled
  empty := rfl
  passes _ _ _ _ digit _ := labelled?_digit digit
  mention := isMention_of_labelled?

theorem renders_introduced : Renders introduced? .introduced where
  same := head?_ways_introduced
  empty := rfl
  passes _ _ _ _ digit _ := introduced?_digit digit
  mention := isMention_of_introduced?

theorem patterns_render : List.Forall₂ Renders patterns wordings :=
  .cons renders_seconds (.cons renders_sec (.cons renders_labelled (.cons renders_introduced .nil)))

theorem exists_isMention (member : wording ∈ wordings) (h : wording.leftmost? text = some digits) :
    ∃ before after, IsMention text before digits after := by
  have mentioned {pattern : List Char → Option (List Char)} {wording : Wording}
      (renders : Renders pattern wording) (h : wording.leftmost? text = some digits) :
      ∃ before after, IsMention text before digits after :=
    renders.mention (by rwa [← renders.leftmost?_eq])
  simp only [wordings, List.mem_cons, List.not_mem_nil, or_false] at member
  rcases member with rfl | rfl | rfl | rfl
  · exact mentioned renders_seconds h
  · exact mentioned renders_sec h
  · exact mentioned renders_labelled h
  · exact mentioned renders_introduced h

end Renders

/-! ## Extraction -/

section Extraction

variable {inRange : Nat → Bool} {prompt : List Char}
  {patterns : List (List Char → Option (List Char))} {wordings : List Wording}

/-- A wording asks for a number: it reads it at the leftmost place, and the number is in range and
not zero. -/
def Wording.Asks (fits : Nat → Prop) (prompt : List Char) (wording : Wording) (n : Nat) : Prop :=
  ∃ digits, wording.leftmost? prompt = some digits ∧ digitsValue digits = n ∧ 0 < n ∧ fits n

theorem Wording.Asks.fits {fits : Nat → Prop} {wording : Wording} {n : Nat}
    (asks : wording.Asks fits prompt n) : fits n := by
  obtain ⟨-, -, -, -, bounded⟩ := asks
  exact bounded

def Wording.asked? (inRange : Nat → Bool) (prompt : List Char) (wording : Wording) : Option Nat :=
  ((wording.leftmost? prompt).map digitsValue).filter fun n => n != 0 && inRange n

theorem Wording.asked?_eq_some_iff {wording : Wording} {n : Nat} :
    wording.asked? inRange prompt = some n ↔ wording.Asks (fun n => inRange n = true) prompt n := by
  simp only [asked?, Asks, Option.filter_eq_some_iff, Option.map_eq_some_iff, Bool.and_eq_true,
    bne_iff_ne, ne_eq, ← Nat.pos_iff_ne_zero]
  exact ⟨fun ⟨⟨digits, found, value⟩, fits⟩ => ⟨digits, found, value, fits⟩,
    fun ⟨digits, found, value, fits⟩ => ⟨⟨digits, found, value⟩, fits⟩⟩

theorem Wording.asked?_eq_none_iff {wording : Wording} :
    wording.asked? inRange prompt = none ↔
      ∀ n, ¬ wording.Asks (fun n => inRange n = true) prompt n := by
  simp only [Option.eq_none_iff_forall_ne_some, ne_eq, asked?_eq_some_iff]

/-- The number of a wording can be told at once: it has few digits. -/
def Wording.IsShort (prompt : List Char) (wording : Wording) : Prop :=
  ∀ digits ∈ wording.leftmost? prompt, digits.length ≤ digitLimit

theorem extractWith_cons {pattern : List Char → Option (List Char)} {wording : Wording}
    (renders : Renders pattern wording) (short : wording.IsShort prompt)
    (patterns : List (List Char → Option (List Char))) :
    extractWith (fun n => .ok (inRange n)) prompt (pattern :: patterns) =
      match wording.asked? inRange prompt with
      | some n => .ok (some n)
      | none => extractWith (fun n => .ok (inRange n)) prompt patterns := by
  rw [extractWith, renders.firstMatch_eq]
  cases found : wording.leftmost? prompt with
  | none => simp [Wording.asked?, found]
  | some digits =>
      have few : ¬ digitLimit < digits.length := not_lt.mpr (short digits found)
      simp only [value?, few, if_false, Except.ok_bind, Wording.asked?, found, Option.map_some,
        Option.filter_some]
      cases zero : digitsValue digits == 0 with
      | true => simp [bne, zero]
      | false => cases inRange (digitsValue digits) <;> simp [bne, zero]

theorem extractWith_of_not_isShort {pattern : List Char → Option (List Char)} {wording : Wording}
    (renders : Renders pattern wording) (long : ¬ wording.IsShort prompt)
    (patterns : List (List Char → Option (List Char))) :
    ∃ count, digitLimit < count ∧
      extractWith (fun n => .ok (inRange n)) prompt (pattern :: patterns) =
        .error (.numeralTooLong count) := by
  simp only [Wording.IsShort, not_forall, not_le] at long
  obtain ⟨digits, found, many⟩ := long
  refine ⟨digits.length, many, ?_⟩
  rw [extractWith, renders.firstMatch_eq, Option.mem_def.mp found]
  simp only [value?, if_pos many]
  rfl

/-- Some wording reads a number with too many digits, and none before it asks for anything. -/
def IsStopped (fits : Nat → Prop) (prompt : List Char) (wordings : List Wording) : Prop :=
  ∃ earlier wording later, wordings = earlier ++ wording :: later ∧ ¬ wording.IsShort prompt ∧
    ∀ other ∈ earlier, ∀ n, ¬ other.Asks fits prompt n

theorem isStopped_cons {fits : Nat → Prop} {wording : Wording} :
    IsStopped fits prompt (wording :: wordings) ↔ ¬ wording.IsShort prompt ∨
      (∀ n, ¬ wording.Asks fits prompt n) ∧ IsStopped fits prompt wordings := by
  constructor
  · rintro ⟨earlier, stop, later, split, long, nothing⟩
    cases earlier with
    | nil =>
        cases split
        exact .inl long
    | cons first earlier =>
        cases split
        rw [List.forall_mem_cons] at nothing
        exact .inr ⟨nothing.1, earlier, stop, later, rfl, long, nothing.2⟩
  · rintro (long | ⟨nothing, earlier, stop, later, rfl, long, others⟩)
    · exact ⟨[], wording, wordings, rfl, long, nofun⟩
    · exact ⟨wording :: earlier, stop, later, rfl, long, List.forall_mem_cons.mpr ⟨nothing, others⟩⟩

/-- Extraction fails when it comes to a number with too many digits, whatever its value is.
Otherwise it finds what the first wording that asks for anything asks for. -/
theorem extractWith_outcome (inRange : Nat → Bool) (prompt : List Char)
    (rendered : List.Forall₂ Renders patterns wordings) :
    (¬ IsStopped (fun n => inRange n = true) prompt wordings ∧
      extractWith (fun n => .ok (inRange n)) prompt patterns =
        .ok (wordings.findSome? (Wording.asked? inRange prompt))) ∨
    (IsStopped (fun n => inRange n = true) prompt wordings ∧ ∃ count, digitLimit < count ∧
      extractWith (fun n => .ok (inRange n)) prompt patterns = .error (.numeralTooLong count)) := by
  induction rendered with
  | nil => exact .inl ⟨by simp [IsStopped], rfl⟩
  | @cons pattern wording patterns wordings renders _ ih =>
      rw [isStopped_cons]
      by_cases short : wording.IsShort prompt
      · rw [extractWith_cons renders short, List.findSome?_cons]
        cases asked : wording.asked? inRange prompt with
        | some n =>
            have asks := Wording.asked?_eq_some_iff.mp asked
            exact .inl ⟨by rintro (long | ⟨nothing, -⟩); exacts [long short, nothing n asks], rfl⟩
        | none => simpa [short, Wording.asked?_eq_none_iff.mp asked] using ih
      · exact .inr ⟨.inl short, extractWith_of_not_isShort renders short patterns⟩

theorem not_isStopped_of_short {fits : Nat → Prop}
    (short : ∀ before digits after, IsNumber prompt before digits after →
      digits.length ≤ digitLimit) : ¬ IsStopped fits prompt Duration.wordings := by
  rintro ⟨earlier, wording, later, split, long, -⟩
  refine long fun digits found => ?_
  obtain ⟨before, after, mention⟩ := exists_isMention (by rw [split]; simp) found
  exact short before digits after mention.toIsNumber

/-- What is extracted is what the first wording that asks for anything asks for. -/
theorem findSome?_asked?_eq_some_iff (inRange : Nat → Bool) (prompt : List Char)
    (wordings : List Wording) {n : Nat} :
    wordings.findSome? (Wording.asked? inRange prompt) = some n ↔
      ∃ earlier wording later, wordings = earlier ++ wording :: later ∧
        wording.Asks (fun n => inRange n = true) prompt n ∧
        ∀ other ∈ earlier, ∀ m, ¬ other.Asks (fun n => inRange n = true) prompt m := by
  simp only [List.findSome?_eq_some_iff, Wording.asked?_eq_some_iff, Wording.asked?_eq_none_iff]

end Extraction

/-! ## Durations up to a limit -/

def IsUpTo (limit : Numeric) (n : Nat) : Prop :=
  match limit with
  | .int m => (n : Int) ≤ m
  | .float x => match classify x with
      | .finite p => (n : Rat) ≤ p.value
      | .infinite negative => negative = false
      | .nan => False

theorem compareInt?_admits_iff (n : Nat) (x : Float) :
    (compareInt? n x).any Comparison.atMost.admits = true ↔ IsUpTo (.float x) n := by
  have admits (o : Ordering) : Comparison.atMost.admits o = true ↔ o ≠ .gt := bne_iff_ne
  cases parts : classify x with
  | nan => simp [IsUpTo, compareInt?, parts]
  | infinite negative => cases negative <;> simp [IsUpTo, compareInt?, parts, admits]
  | finite p =>
      have above := compareInt?_eq_gt_iff parts n
      obtain ⟨o, order⟩ : ∃ o, compareInt? n x = some o := by simp [compareInt?, parts]
      rw [order, Option.some.injEq] at above
      rw [order, Option.any_some, admits, Ne, above, not_lt]
      simp [IsUpTo, parts]

theorem compare?_admits_iff (limit : Numeric) (n : Nat) :
    ((Numeric.int n).compare? limit).any Comparison.atMost.admits = true ↔ IsUpTo limit n := by
  cases limit with
  | int m =>
      change (Comparison.atMost.admits (compare (n : Int) m)) = true ↔ (n : Int) ≤ m
      rw [Comparison.admits, bne_iff_ne, Ne, Int.compare_eq_gt, not_lt]
  | float x => exact compareInt?_admits_iff n x

theorem extractUpTo_eq (limit : Numeric) (prompt : String) :
    extractUpTo limit.toValue prompt =
      extract (fun n => ((Numeric.int n).compare? limit).any Comparison.atMost.admits) prompt := by
  cases limit <;> rfl

/-- A prompt without overlong numbers has the duration that the first wording asks for which asks
for one: a whole number in range that is mentioned as a duration.  It has none exactly when no
wording asks for one at the leftmost place at which it matches. -/
theorem extractUpTo_isFirstAsked {prompt : String} (limit : Numeric)
    (short : ∀ before digits after, IsNumber prompt.toList before digits after →
      digits.length ≤ digitLimit) :
    ∃ found, extractUpTo limit.toValue prompt = .ok found ∧
      (∀ n, found = some n ↔ ∃ earlier wording later, wordings = earlier ++ wording :: later ∧
        wording.Asks (IsUpTo limit) prompt.toList n ∧
        ∀ other ∈ earlier, ∀ m, ¬ other.Asks (IsUpTo limit) prompt.toList m) ∧
      (found = none ↔ ∀ wording ∈ wordings, ∀ n, ¬ wording.Asks (IsUpTo limit) prompt.toList n) ∧
      ∀ n, found = some n → 0 < n ∧ IsUpTo limit n ∧
        ∃ before digits after, IsMention prompt.toList before digits after ∧
          digitsValue digits = n := by
  have outcome := extractWith_outcome
    (fun n => ((Numeric.int n).compare? limit).any Comparison.atMost.admits) prompt.toList
    patterns_render
  have first {n : Nat} := findSome?_asked?_eq_some_iff (n := n)
    (fun n => ((Numeric.int n).compare? limit).any Comparison.atMost.admits) prompt.toList wordings
  simp only [compare?_admits_iff] at outcome first
  obtain ⟨-, extracted⟩ :=
    outcome.resolve_right fun stopped => not_isStopped_of_short short stopped.1
  refine ⟨_, (extractUpTo_eq limit prompt).trans extracted, fun n => first, ?_, ?_⟩
  · simp only [List.findSome?_eq_none_iff, Wording.asked?_eq_none_iff, compare?_admits_iff]
  · intro n found
    obtain ⟨earlier, wording, later, split, ⟨digits, read, value, positive, fits⟩, -⟩ :=
      first.mp found
    obtain ⟨before, after, mention⟩ := exists_isMention (by rw [split]; simp) read
    exact ⟨positive, fits, before, digits, after, mention, value⟩

theorem IsNumber.length_le {text before digits after : List Char}
    (number : IsNumber text before digits after) : digits.length ≤ text.length := by
  rw [number.text_eq, List.length_append, List.length_append]
  omega

def lateMention : String := "99 seconds at most, DURATION: 7"

theorem lateMention_isShort : ∀ before digits after,
    IsNumber lateMention.toList before digits after → digits.length ≤ digitLimit := by
  intro before digits after number
  have size : lateMention.toList.length = 31 := rfl
  have limit : digitLimit = 4300 := rfl
  have bound := number.length_le
  omega

theorem lateMention_isFirstAsked :
    (∀ before digits after, IsNumber lateMention.toList before digits after →
      digits.length ≤ digitLimit) ∧
    extractUpTo (Numeric.int 30).toValue lateMention = .ok (some 7) ∧
    ∃ before digits after, IsMention lateMention.toList before digits after ∧
      digitsValue digits = 7 := by
  obtain ⟨found, extracted, -, -, mentioned⟩ :=
    extractUpTo_isFirstAsked (.int 30) lateMention_isShort
  have computed : extractUpTo (Numeric.int 30).toValue lateMention = .ok (some 7) := by rfl
  rw [computed] at extracted
  cases extracted
  exact ⟨lateMention_isShort, computed, (mentioned 7 rfl).2.2⟩

end StillMotion.Duration
