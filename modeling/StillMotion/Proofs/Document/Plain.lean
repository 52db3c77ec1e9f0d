import StillMotion.Document.ScalarText
import StillMotion.Proofs.Document.Cursor
import StillMotion.Proofs.Text.Search

/-!
# Plain words in brackets

A plain scalar in brackets ends at a comma, or at the bracket that stands on a line of its own; the
line break before the bracket is read with the scalar and left out of its text.
-/

namespace StillMotion.Document

open StillMotion.Text

variable {c : Cursor} {run tail more : List Char} {ch : Char}

def isGapChar (ch : Char) : Bool := ch == ' ' || ch == '\n'

def bare (cs : List Char) : List Char := cs.dropWhile isGapChar

def isClosing (ch : Char) : Bool := ch == ']' || ch == '\x7d'

/-- What follows the items of a written collection: a comma, or the closing bracket on a line of
its own. -/
inductive Follows : List Char → Prop
  | comma (more : List Char) : Follows (',' :: more)
  | line (width : Nat) (ch : Char) (more : List Char) (closing : isClosing ch = true) :
      Follows ('\n' :: (List.replicate width ' ' ++ ch :: more))

theorem of_isClosing {p : Char → Bool} (square : p ']' = true) (curly : p '\x7d' = true)
    (closing : isClosing ch = true) : p ch = true := by
  rw [isClosing, Bool.or_eq_true, beq_iff_eq, beq_iff_eq] at closing
  rcases closing with rfl | rfl
  · exact square
  · exact curly

theorem bare_replicate (width : Nat) (closing : isClosing ch = true) :
    bare (List.replicate width ' ' ++ ch :: more) = ch :: more := by
  have solid := of_isClosing (p := fun ch => !isGapChar ch) rfl rfl closing
  rw [bare, List.dropWhile_append_of_pos fun d member => by
    rw [List.eq_of_mem_replicate member]; rfl]
  rw [List.dropWhile_cons, if_neg (by simpa using solid)]

/-! ## Runs -/

theorem plainRun_word (word : run.all isWordChar = true) (follows : Follows tail) :
    plainRun true (run ++ tail) = run := by
  induction run with
  | nil => cases follows <;> rfl
  | cons ch run ih =>
      rw [List.all_cons, Bool.and_eq_true] at word
      have solid := of_isWordChar (p := fun ch => !(isSpaceOrTab ch || isBreak ch || ch == ':' ||
        [',', '?', '[', ']', '\x7b', '\x7d'].contains ch)) (by decide) word.1
      have open' : endsPlain true ch (run ++ tail).head? = false := by
        simp only [Bool.not_or, Bool.and_eq_true, Bool.not_eq_true'] at solid
        obtain ⟨⟨⟨blank, unbroken⟩, colon⟩, indicator⟩ := solid
        rw [endsPlain, blank, unbroken, colon, indicator]
        rfl
      rw [List.cons_append, plainRun, open', if_neg Bool.false_ne_true, ih word.2]

/-! ## Gaps -/

theorem span_of_none {p : Char → Bool} (here : c.rest = ch :: more) (none : p ch = false) :
    c.span p = ([], c) := by
  rw [Cursor.span, here, List.takeWhile_cons, if_neg (by simp [none])]
  rfl

theorem lineBreak?_eq_none (here : c.rest = ch :: more) (unbroken : isBreak ch = false) :
    c.lineBreak? = none := by
  simp [Cursor.lineBreak?, Cursor.here_of_rest here, unbroken]

theorem plainGap_comma (here : c.rest = ',' :: more) : plainGap c = ([], false, c) := by
  rw [plainGap, span_of_none here rfl]
  simp only [lineBreak?_eq_none here rfl]

theorem isBoundary_eq_false {d : Char} (here : c.rest = d :: more) (dash : d ≠ '-')
    (point : d ≠ '.') : c.isBoundary = false := by
  simp [Cursor.isBoundary, Cursor.isMarker, Cursor.peek, here, dash, point]

theorem skipWhile_spaces {width : Nat} (closing : isClosing ch = true)
    (here : c.rest = List.replicate width ' ' ++ ch :: more) :
    (c.skipWhile isSpace).rest = ch :: more := by
  have solid := of_isClosing (p := fun ch => !isSpace ch) rfl rfl closing
  have run : c.rest.takeWhile isSpace = List.replicate width ' ' := by
    rw [here, List.takeWhile_append_of_pos fun d member => by
      rw [List.eq_of_mem_replicate member]; rfl]
    rw [List.takeWhile_cons, if_neg (by simpa using solid), List.append_nil]
  rw [Cursor.skipWhile, Cursor.span, run, Cursor.rest_skip, here, List.drop_left]

theorem plainBreaks_closing {width fuel : Nat} (closing : isClosing ch = true)
    (here : c.rest = List.replicate width ' ' ++ ch :: more) :
    plainBreaks (fuel + 1) c = (some [], c.skipWhile isSpace) := by
  have unbroken := of_isClosing (p := fun ch => !isBreak ch) rfl rfl closing
  rw [plainBreaks]
  simp only [lineBreak?_eq_none (skipWhile_spaces closing here) (by simpa using unbroken)]

theorem plainGap_line {width : Nat} (closing : isClosing ch = true)
    (here : c.rest = '\n' :: (List.replicate width ' ' ++ ch :: more)) :
    ∃ c', plainGap c = ([' '], true, c') ∧ c'.rest = ch :: more := by
  have rest : c.next.rest = List.replicate width ' ' ++ ch :: more := by
    rw [Cursor.rest_next, here]
    rfl
  have break' : c.lineBreak? = some ('\n', c.next) := by
    simp only [Cursor.lineBreak?, Cursor.here_of_rest here]
    rfl
  have boundary : c.next.isBoundary = false := by
    cases width with
    | zero =>
        exact isBoundary_eq_false rest (by rintro rfl; cases closing)
          (by rintro rfl; cases closing)
    | succ width => exact isBoundary_eq_false rest (by decide) (by decide)
  refine ⟨c.next.skipWhile isSpace, ?_, skipWhile_spaces closing rest⟩
  rw [plainGap, span_of_none here rfl]
  simp only [break', boundary, Nat.succ_eq_add_one, plainBreaks_closing closing rest]
  rfl

/-! ## Scalars -/

theorem here_ne_comment {d : Char} (here : c.rest = d :: more) (other : d ≠ '#') :
    (c.here == some '#') = false := by
  rw [Cursor.here_of_rest here, beq_eq_false_iff_ne]
  exact fun same => other (Option.some.inj same)

theorem plainBody_closing (outer : Int) (broken : Bool) (gap : List Char)
    (closing : isClosing ch = true) (here : c.rest = ch :: more) (fuel : Nat) :
    plainBody true outer fuel broken gap c = ([], broken, c) := by
  cases fuel with
  | zero => rfl
  | succ fuel =>
      have comment := here_ne_comment here (by rintro rfl; cases closing)
      have stop : plainRun true (ch :: more) = [] := by
        have ends := of_isClosing (p := fun ch => [',', '?', '[', ']', '\x7b', '\x7d'].contains ch)
          rfl rfl closing
        rw [plainRun, endsPlain, ends, Bool.and_self, Bool.or_true, if_pos rfl]
      rw [plainBody]
      simp only [comment, here, stop]
      rfl

theorem plainScalar_word (outer : Int) (word : run.all isWordChar = true) (present : run ≠ [])
    (follows : Follows tail) (here : c.rest = run ++ tail) :
    ∃ broken c', plainScalar true outer c = (String.ofList run, broken, c') ∧
      bare c'.rest = bare tail ∧ c'.rest.length ≤ tail.length := by
  have taken : plainRun true (run ++ tail) = run := plainRun_word word follows
  have after : (c.skip run.length).rest = tail := by rw [Cursor.rest_skip, here, List.drop_left]
  have comment : (c.here == some '#') = false := by
    cases run with
    | nil => exact absurd rfl present
    | cons d rest =>
        refine here_ne_comment here ?_
        rintro rfl
        cases word
  unfold plainScalar
  rw [plainBody, here]
  simp only [comment, taken, List.isEmpty_eq_false_iff.mpr present, Bool.false_eq_true, if_false]
  cases follows with
  | comma more =>
      refine ⟨false, c.skip run.length, ?_, by rw [after], after ▸ Nat.le_refl _⟩
      simp only [plainGap_comma after]
      rfl
  | line width ch more closing =>
      obtain ⟨c', gap, rest⟩ := plainGap_line closing after
      refine ⟨true, c', ?_, ?_, ?_⟩
      · have comment' := here_ne_comment rest (by rintro rfl; cases closing)
        simp only [gap, comment', plainBody_closing outer true [' '] closing rest]
        simp
      · exact (congrArg bare rest).trans
          ((bare_replicate 0 closing).trans (bare_replicate width closing).symm)
      · simp [rest]
        omega

end StillMotion.Document
