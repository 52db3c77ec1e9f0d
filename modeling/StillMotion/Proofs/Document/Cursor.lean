import StillMotion.Document.Cursor

/-!
# Going over a text

A cursor that goes over a text without line breaks stays on its line, and its index grows by the
length of the text.
-/

namespace StillMotion.Document.Cursor

variable {c c' c'' : Cursor} {text more : List Char} {ch : Char}

@[simp] theorem rest_next (c : Cursor) : c.next.rest = c.rest.tail := by
  unfold next
  split
  next empty => rw [empty, List.tail_nil]
  next ch rest here =>
      rw [here, List.tail_cons]
      split
      · rfl
      · split <;> rfl

@[simp] theorem rest_skip (n : Nat) (c : Cursor) : (c.skip n).rest = c.rest.drop n := by
  induction n generalizing c with
  | zero => rfl
  | succ n ih => rw [skip, ih, rest_next, List.drop_tail]

theorem index_next (here : c.rest = ch :: more) : c.next.index = c.index + 1 := by
  unfold next
  rw [here]
  dsimp only
  split
  · rfl
  · split <;> rfl

theorem line_next (here : c.rest = ch :: more) (unbroken : isBreak ch = false) :
    c.next.line = c.line := by
  unfold next
  rw [here]
  dsimp only
  rw [unbroken, if_neg Bool.false_ne_true]
  split <;> rfl

/-- One cursor stands behind a text that the other stands before, on the same line. -/
structure Passes (c : Cursor) (text : List Char) (c' : Cursor) : Prop where
  rest : c.rest = text ++ c'.rest
  index : c'.index = c.index + text.length
  line : c'.line = c.line

theorem Passes.trans {text' : List Char} (first : c.Passes text c') (second : c'.Passes text' c'') :
    c.Passes (text ++ text') c'' where
  rest := by rw [first.rest, second.rest, List.append_assoc]
  index := by rw [second.index, first.index, List.length_append, Nat.add_assoc]
  line := second.line.trans first.line

theorem passes_next (here : c.rest = ch :: more) (unbroken : isBreak ch = false) :
    c.Passes [ch] c.next where
  rest := by rw [rest_next, here]; rfl
  index := index_next here
  line := line_next here unbroken

theorem passes_skip (here : c.rest = text ++ more) (unbroken : ∀ ch ∈ text, isBreak ch = false) :
    c.Passes text (c.skip text.length) := by
  induction text generalizing c with
  | nil => exact ⟨rfl, rfl, rfl⟩
  | cons ch text ih =>
      have rest : c.next.rest = text ++ more := by rw [rest_next, here]; rfl
      exact (passes_next here (unbroken ch (by simp))).trans
        (ih rest fun ch member => unbroken ch (by simp [member]))

theorem Passes.rest_eq (h : c.Passes text c') (here : c.rest = text ++ more) : c'.rest = more :=
  List.append_cancel_left (h.rest.symm.trans here)

theorem here_of_rest (here : c.rest = ch :: more) : c.here = some ch := by
  rw [Cursor.here, here, List.head?_cons]

end StillMotion.Document.Cursor
