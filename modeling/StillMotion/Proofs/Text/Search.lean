import Mathlib.Data.List.DropRight
import StillMotion.Text.Blank
import StillMotion.Text.Case
import StillMotion.Text.Digit
import StillMotion.Text.Search

/-!
# Occurrences and words

A needle that lacks a character occurs in a text before that character or after it, so what a
text mentions can be told part by part.  The pieces of a text and the text without the blanks at its
ends have no other characters than the text.  Written numbers and the words for truth values and for
nothing consist of a few characters of the ASCII alphabet, and whatever a reader asks about one of
these can be told by going over the alphabet.
-/

namespace StillMotion.Text

variable {cs needle before after : List Char} {separator : Char}

theorem dropLead?_eq_some_iff {lead rest : List Char} :
    dropLead? lead cs = some rest ↔ cs = lead ++ rest := by
  induction lead generalizing cs with
  | nil => simp [dropLead?]
  | cons a lead ih =>
      cases cs with
      | nil => simp [dropLead?]
      | cons c cs =>
          rw [dropLead?, Option.ite_none_right_eq_some, beq_iff_eq, ih, List.cons_append,
            List.cons.injEq, eq_comm]

theorem startsWith_iff : startsWith cs needle = true ↔ needle <+: cs := by
  rw [startsWith, Option.isSome_iff_exists]
  exact exists_congr fun rest => dropLead?_eq_some_iff.trans eq_comm

theorem contains_iff : contains needle cs = true ↔ needle <:+: cs := by
  induction cs with
  | nil => rw [contains, List.isEmpty_iff, List.infix_nil]
  | cons c cs ih => rw [contains, Bool.or_eq_true, startsWith_iff, ih, List.infix_cons_iff]

theorem startsWith_append_separator (absent : separator ∉ needle) :
    startsWith (before ++ separator :: after) needle = startsWith before needle := by
  induction before generalizing needle with
  | nil =>
      cases needle with
      | nil => rfl
      | cons a needle =>
          have other : a ≠ separator := fun same => absent (by simp [same])
          simp [startsWith, dropLead?, other]
  | cons c before ih =>
      cases needle with
      | nil => rfl
      | cons a needle =>
          have rest : separator ∉ needle := fun member => absent (List.mem_cons_of_mem a member)
          by_cases same : a = c
          · simpa [startsWith, dropLead?, same] using ih rest
          · simp [startsWith, dropLead?, same]

theorem contains_cons (needle : List Char) (c : Char) (cs : List Char) :
    contains needle (c :: cs) = (startsWith (c :: cs) needle || contains needle cs) := rfl

theorem contains_append_separator (absent : separator ∉ needle) (present : needle ≠ []) :
    contains needle (before ++ separator :: after) =
      (contains needle before || contains needle (separator :: after)) := by
  induction before with
  | nil =>
      have nowhere : contains needle [] = false := by simp [contains, present]
      rw [List.nil_append, nowhere, Bool.false_or]
  | cons c before ih =>
      rw [List.cons_append, contains_cons, contains_cons, ih, ← List.cons_append,
        startsWith_append_separator absent, Bool.or_assoc]

theorem mentions_append_separator {needles : List String}
    (absent : ∀ needle ∈ needles, separator ∉ needle.toList)
    (present : ∀ needle ∈ needles, needle.toList ≠ []) :
    mentions needles (before ++ separator :: after) =
      (mentions needles before || mentions needles (separator :: after)) := by
  have each (needle : String) (member : needle ∈ needles) :
      contains needle.toList (before ++ separator :: after) =
        (contains needle.toList before || contains needle.toList (separator :: after)) :=
    contains_append_separator (absent needle member) (present needle member)
  rw [Bool.eq_iff_iff]
  simp only [mentions, Bool.or_eq_true, List.any_eq_true]
  constructor
  · rintro ⟨needle, member, found⟩
    rw [each needle member, Bool.or_eq_true] at found
    exact found.imp (fun early => ⟨needle, member, early⟩) fun late => ⟨needle, member, late⟩
  · rintro (⟨needle, member, found⟩ | ⟨needle, member, found⟩)
    · exact ⟨needle, member, by rw [each needle member, found, Bool.true_or]⟩
    · exact ⟨needle, member, by rw [each needle member, found, Bool.or_true]⟩

/-! ## Cutting -/

theorem cut?_append (absent : separator ∉ before) :
    cut? separator (before ++ separator :: after) = some (before, after) := by
  induction before with
  | nil => simp [cut?]
  | cons c before ih =>
      rw [List.mem_cons, not_or] at absent
      simp [cut?, Ne.symm absent.1, ih absent.2]

theorem cut?_eq_none (absent : separator ∉ before) : cut? separator before = none := by
  induction before with
  | nil => rfl
  | cons c before ih =>
      rw [List.mem_cons, not_or] at absent
      simp [cut?, Ne.symm absent.1, ih absent.2]

theorem splitChar_eq_singleton (absent : separator ∉ before) :
    splitChar separator before = [before] := by
  induction before with
  | nil => rfl
  | cons c before ih =>
      rw [List.mem_cons, not_or] at absent
      simp [splitChar, Ne.symm absent.1, ih absent.2]

theorem splitChar_append (absent : separator ∉ before) :
    splitChar separator (before ++ separator :: after) = before :: splitChar separator after := by
  induction before with
  | nil => simp [splitChar]
  | cons c before ih =>
      rw [List.mem_cons, not_or] at absent
      simp [splitChar, Ne.symm absent.1, ih absent.2]

theorem splitChar_eq_splitOn (separator : Char) (cs : List Char) :
    splitChar separator cs = cs.splitOn separator := by
  induction cs with
  | nil => rfl
  | cons c cs ih =>
      rw [List.splitOn_eq_splitOnP, List.splitOnP_cons_eq_if_modifyHead,
        ← List.splitOn_eq_splitOnP, splitChar, ih]
      split
      next => rfl
      next =>
          obtain ⟨piece, pieces, cut⟩ := List.exists_cons_of_ne_nil
            (List.splitOnP_ne_nil (· == separator) cs)
          rw [List.splitOn_eq_splitOnP, cut]
          rfl

theorem splitChar_ne_nil (separator : Char) (cs : List Char) : splitChar separator cs ≠ [] := by
  rw [splitChar_eq_splitOn]
  exact List.splitOnP_ne_nil _ cs

theorem not_mem_of_mem_splitChar {piece : List Char} (member : piece ∈ splitChar separator cs) :
    separator ∉ piece := by
  induction cs generalizing piece with
  | nil =>
      rw [splitChar, List.mem_singleton] at member
      rw [member]
      exact List.not_mem_nil
  | cons c cs ih =>
      obtain ⟨first, rest, cut⟩ := List.exists_cons_of_ne_nil (splitChar_ne_nil separator cs)
      rw [splitChar, cut] at member
      rw [cut] at ih
      split at member
      next =>
          rcases List.mem_cons.mp member with rfl | later
          · exact List.not_mem_nil
          · exact ih later
      next other =>
          rcases List.mem_cons.mp member with rfl | later
          · rw [List.mem_cons, not_or]
            exact ⟨fun same => other (beq_iff_eq.mpr same.symm), ih List.mem_cons_self⟩
          · exact ih (List.mem_cons_of_mem first later)

theorem mem_of_mem_splitChar {piece : List Char} (member : piece ∈ splitChar separator cs) {c : Char}
    (here : c ∈ piece) : c ∈ cs := by
  induction cs generalizing piece with
  | nil =>
      rw [splitChar, List.mem_singleton] at member
      rw [member] at here
      exact here
  | cons first rest ih =>
      rw [splitChar] at member
      split at member
      next =>
          rcases List.mem_cons.mp member with rfl | later
          · cases here
          · exact List.mem_cons_of_mem first (ih later here)
      next =>
          split at member
          next nothing =>
              rw [List.mem_singleton] at member
              rw [member] at here
              rw [List.mem_singleton.mp here]
              exact List.mem_cons_self
          next front pieces whole =>
              rw [whole] at ih
              rcases List.mem_cons.mp member with rfl | later
              · rcases List.mem_cons.mp here with rfl | further
                · exact List.mem_cons_self
                · exact List.mem_cons_of_mem first (ih List.mem_cons_self further)
              · exact List.mem_cons_of_mem first (ih (List.mem_cons_of_mem front later) here)

/-! ## Trimming -/

theorem trimRight_eq_nil : trimRight cs = [] ↔ ∀ c ∈ cs, isBlank c = true := List.rdropWhile_eq_nil_iff

theorem trimChars_eq_nil : trimChars cs = [] ↔ ∀ c ∈ cs, isBlank c = true := by
  rw [trimChars, trimRight_eq_nil, trimLeft]
  constructor
  · intro all
    rw [← List.dropWhile_eq_nil_iff, ← List.dropWhile_idempotent, List.dropWhile_eq_nil_iff]
    exact all
  · intro all c member
    exact all c ((List.dropWhile_sublist _).mem member)

theorem trim_eq_empty {s : String} : trim s = "" ↔ ∀ c ∈ s.toList, isBlank c = true := by
  rw [trim, ← String.toList_inj, String.toList_ofList]
  exact trimChars_eq_nil

theorem trimLeft_trimChars (cs : List Char) : trimLeft (trimChars cs) = trimChars cs := by
  obtain ⟨rest, whole⟩ : trimChars cs <+: trimLeft cs := List.rdropWhile_prefix isBlank _
  have settled : trimLeft (trimLeft cs) = trimLeft cs :=
    List.dropWhile_idempotent isBlank _
  rw [← whole] at settled
  cases trimmed : trimChars cs with
  | nil => rfl
  | cons c front =>
      rw [trimmed] at settled
      have shown : isBlank c = false := by
        by_contra blank
        rw [Bool.not_eq_false] at blank
        have shorter := List.length_dropWhile_le isBlank (front ++ rest)
        rw [trimLeft, List.cons_append, List.dropWhile_cons_of_pos blank] at settled
        rw [settled, List.length_cons] at shorter
        omega
      exact List.dropWhile_cons_of_neg (by simp [shown])

theorem trimChars_trimChars (cs : List Char) : trimChars (trimChars cs) = trimChars cs := by
  rw [trimChars, trimLeft_trimChars]
  exact List.rdropWhile_idempotent isBlank (trimLeft cs)

theorem trimRight_append (blank : ∀ c ∈ after, isBlank c = true) :
    trimRight (cs ++ after) = trimRight cs := by
  rw [trimRight, List.reverse_append,
    List.dropWhile_append_of_pos fun c member => blank c (List.mem_reverse.mp member), trimRight]

theorem trimLeft_append (shown : trimLeft cs = cs) (present : cs ≠ []) :
    trimLeft (cs ++ after) = cs ++ after := by
  rw [trimLeft] at shown ⊢
  rw [List.dropWhile_append, shown, if_neg (by simpa using present)]

theorem trimRight_append_self (shown : trimRight cs = cs) (present : cs ≠ []) :
    trimRight (before ++ cs) = before ++ cs := by
  have reversed : trimLeft cs.reverse = cs.reverse := by
    rw [← List.reverse_reverse (trimLeft cs.reverse)]
    exact congrArg List.reverse shown
  have kept : trimLeft (cs.reverse ++ before.reverse) = cs.reverse ++ before.reverse :=
    trimLeft_append reversed (by simpa using present)
  rw [trimLeft] at kept
  rw [trimRight, List.reverse_append, kept, List.reverse_append, List.reverse_reverse,
    List.reverse_reverse]

theorem trimChars_padded (blankBefore : ∀ c ∈ before, isBlank c = true)
    (blankAfter : ∀ c ∈ after, isBlank c = true) :
    trimChars (before ++ cs ++ after) = trimChars cs := by
  rw [trimChars, trimLeft, List.append_assoc, List.dropWhile_append_of_pos blankBefore,
    List.dropWhile_append]
  split
  next nothing =>
      rw [List.isEmpty_iff] at nothing
      rw [List.dropWhile_eq_nil_iff.mpr blankAfter, trimChars, trimLeft, nothing]
  next => rw [trimRight_append blankAfter, trimChars, trimLeft]

theorem trimChars_of_forall (shown : ∀ c ∈ cs, isBlank c = false) : trimChars cs = cs := by
  have kept {ds : List Char} (shown : ∀ c ∈ ds, isBlank c = false) : ds.dropWhile isBlank = ds := by
    cases ds with
    | nil => rfl
    | cons c rest => exact List.dropWhile_cons_of_neg (by simp [shown c (by simp)])
  rw [trimChars, trimRight, trimLeft, kept shown, kept (by simpa using shown), List.reverse_reverse]

theorem trim_trim (s : String) : trim (trim s) = trim s := by
  rw [trim, trim, String.toList_ofList, trimChars_trimChars]

/-! ## Case -/

theorem fold_append (s t : String) : fold (s ++ t) = fold s ++ fold t := by
  rw [fold, String.toList_append, List.flatMap_append]
  rfl

theorem unified_of_notMem {s : String} (absent : '\r' ∉ s.toList) : unified s = s := by
  rw [unified, String.contains_char_eq, decide_eq_false absent, if_neg Bool.false_ne_true]

/-! ## Words -/

section Words

variable {c : Char}

def isWordChar (c : Char) : Bool :=
  isAsciiDigit c || ('a' ≤ c && c ≤ 'z') || c == '.' || c == '+' || c == '-'

theorem toNat_of_isWordChar (h : isWordChar c = true) : c.toNat < 128 := by
  simp only [isWordChar, isAsciiDigit, Bool.or_eq_true, Bool.and_eq_true, decide_eq_true_eq,
    beq_iff_eq] at h
  rcases h with (((⟨-, most⟩ | ⟨-, most⟩) | rfl) | rfl) | rfl
  · exact Nat.lt_of_le_of_lt (show c.toNat ≤ 57 from most) (by decide)
  · exact Nat.lt_of_le_of_lt (show c.toNat ≤ 122 from most) (by decide)
  all_goals decide

theorem of_ascii {p : Char → Bool} (each : ((List.range 128).map Char.ofNat).all p = true)
    (small : c.toNat < 128) : p c = true := by
  have here := List.all_eq_true.mp each (Char.ofNat c.toNat)
    (List.mem_map_of_mem (List.mem_range.mpr small))
  rwa [Char.ofNat_toNat] at here

theorem asciiLower_of_large (large : ¬ c.toNat < 128) : asciiLower c = c := by
  have beyond : ¬ c ≤ 'Z' := fun most => large (Nat.lt_of_le_of_lt most (by decide))
  simp [asciiLower, beyond]

theorem apply_asciiLower {β : Type} [DecidableEq β] {f : Char → β}
    (each : ((List.range 128).map Char.ofNat).all (fun c => f (asciiLower c) = f c) = true)
    (c : Char) : f (asciiLower c) = f c := by
  by_cases small : c.toNat < 128
  · exact of_decide_eq_true (of_ascii each small)
  · rw [asciiLower_of_large small]

theorem asciiLower_of_isDigit (digit : isDigit c = true) : asciiLower c = c := by
  by_cases small : c.toNat < 128
  · have here := of_ascii (p := fun c => !isDigit c || asciiLower c == c) (by decide) small
    simpa [digit] using here
  · exact asciiLower_of_large small

theorem fold_lowerAscii (s : String) : fold (lowerAscii s) = fold s := by
  have folded (c : Char) : foldChar (asciiLower c) = foldChar c := apply_asciiLower (by decide) c
  rw [fold, lowerAscii, String.toList_ofList, List.flatMap_map, funext folded, fold]

theorem of_isWordChar {p : Char → Bool}
    (each : ((List.range 128).map Char.ofNat).all (fun c => !isWordChar c || p c) = true)
    (h : isWordChar c = true) : p c = true := by
  have here := of_ascii each (toNat_of_isWordChar h)
  simpa [h] using here

theorem isWordChar_of_isAsciiDigit (h : isAsciiDigit c = true) : isWordChar c = true := by
  simp [isWordChar, h]

theorem all_isWordChar_of_isAsciiDigit (h : cs.all isAsciiDigit = true) :
    cs.all isWordChar = true :=
  List.all_eq_true.mpr fun c member => isWordChar_of_isAsciiDigit (List.all_eq_true.mp h c member)

theorem lowerChars_of_word (h : cs.all isWordChar = true) : lowerChars cs = cs := by
  have lowered (before : List Char) : lowerFrom before cs = cs := by
    induction cs generalizing before with
    | nil => rfl
    | cons c cs ih =>
        rw [List.all_cons, Bool.and_eq_true] at h
        have plain := of_isWordChar (p := fun c => c.toNat != 0x3A3 && lowerChar c == [c])
          (by decide) h.1
        rw [Bool.and_eq_true, bne_iff_ne, beq_iff_eq] at plain
        rw [lowerFrom, ih h.2]
        simp [plain.1, plain.2]
  exact lowered []

theorem hexValue?_hexDigit {n : Nat} (h : n < 16) : hexValue? (hexDigit n) = some n := by
  have each : ∀ k : Fin 16, hexValue? (hexDigit k) = some k.val := by decide
  exact each ⟨n, h⟩

end Words

end StillMotion.Text
