import StillMotion.Console.Markup

/-!
# Escaped texts

An escaped text is shown whatever it says: no tag in it is looked at.  The backslashes before
something like a tag are made odd in number, and nothing that was no tag becomes one.
-/

namespace StillMotion.Markup

variable {opened opened' : List OpenTag} {c : Char} {cs rest inside after tail : List Char}
  {fuel : Nat}

/-! ## Tags ahead -/

def slashes (cs : List Char) : Nat := (cs.takeWhile (· == '\\')).length

def tagAhead? (cs : List Char) : Option (List Char × List Char) := tag? (cs.drop (slashes cs))

theorem tagAhead?_slash (rest : List Char) : tagAhead? ('\\' :: rest) = tagAhead? rest := by
  simp [tagAhead?, slashes]

theorem tagAhead?_of_ne (h : c ≠ '\\') : tagAhead? (c :: rest) = tag? (c :: rest) := by
  simp [tagAhead?, slashes, h]

theorem tag?_of_ne (h : c ≠ '[') : tag? (c :: rest) = none := by
  unfold tag?
  split
  next same => simp_all
  next => rfl

theorem tagAhead?_append (plain : '[' ∉ cs) (none_after : tagAhead? rest = none) :
    tagAhead? (cs ++ rest) = none := by
  induction cs with
  | nil => exact none_after
  | cons c cs ih =>
      rw [List.mem_cons, not_or] at plain
      by_cases slash : c = '\\'
      · rw [slash, List.cons_append, tagAhead?_slash]
        exact ih plain.2
      · rw [List.cons_append, tagAhead?_of_ne slash, tag?_of_ne (Ne.symm plain.1)]

theorem piecesFrom_plain (h : tagAhead? (c :: rest) = none) (fuel position : Nat)
    (reversed : List Char) :
    piecesFrom (fuel + 1) position reversed (c :: rest) =
      piecesFrom fuel (position + 1) (c :: reversed) rest := by
  rw [tagAhead?, slashes] at h
  rw [piecesFrom, h]

theorem piecesFrom_tag (h : tagAhead? (c :: rest) = some (inside, after)) (fuel position : Nat)
    (reversed : List Char) :
    piecesFrom (fuel + 1) position reversed (c :: rest) =
      plainPiece reversed ++ tagPieces position (slashes (c :: rest)) inside ++
        piecesFrom fuel (position + slashes (c :: rest) + inside.length + 2) [] after := by
  rw [tagAhead?, slashes] at h
  rw [piecesFrom, h]
  rfl

/-- A text is shown where some tags are open, whatever plain text stands before it. -/
def Shows (opened : List OpenTag) (cs : List Char) : Prop :=
  ∀ fuel position reversed, ∃ shown,
    showPieces opened (piecesFrom fuel position reversed cs) = .ok shown

theorem exists_showPieces_text {pieces : List Piece} (content : List Char)
    (h : ∃ shown, showPieces opened pieces = .ok shown) :
    ∃ shown, showPieces opened (.text content :: pieces) = .ok shown := by
  obtain ⟨shown, h⟩ := h
  exact ⟨_, by rw [showPieces, h]; rfl⟩

theorem exists_showPieces_plain {pieces : List Piece} (reversed : List Char)
    (h : ∃ shown, showPieces opened pieces = .ok shown) :
    ∃ shown, showPieces opened (plainPiece reversed ++ pieces) = .ok shown := by
  unfold plainPiece
  split
  · exact h
  · exact exists_showPieces_text _ h

theorem exists_showPieces_nil (opened : List OpenTag) :
    ∃ shown, showPieces opened [] = .ok shown := ⟨[], rfl⟩

theorem shows_of_succ (h : ∀ fuel position reversed, ∃ shown,
    showPieces opened (piecesFrom (fuel + 1) position reversed cs) = .ok shown) :
    Shows opened cs := by
  intro fuel position reversed
  cases fuel with
  | zero =>
      have plain := exists_showPieces_plain reversed (exists_showPieces_nil opened)
      simpa [piecesFrom] using plain
  | succ fuel => exact h fuel position reversed

theorem Shows.plain (shows_rest : Shows opened rest) (h : tagAhead? (c :: rest) = none) :
    Shows opened (c :: rest) := by
  refine shows_of_succ fun fuel position reversed => ?_
  rw [piecesFrom_plain h]
  exact shows_rest fuel _ _

theorem Shows.tag (shows_after : Shows opened' after)
    (h : tag? ('[' :: rest) = some (inside, after))
    (moves : ∀ position, afterTag position inside opened = .ok opened') :
    Shows opened ('[' :: rest) := by
  have ahead : tagAhead? ('[' :: rest) = some (inside, after) := by
    rw [tagAhead?_of_ne (by decide), h]
  have bare : slashes ('[' :: rest) = 0 := by simp [slashes]
  refine shows_of_succ fun fuel position reversed => ?_
  rw [piecesFrom_tag ahead, bare, List.append_assoc]
  refine exists_showPieces_plain reversed ?_
  obtain ⟨shown, h⟩ := shows_after fuel (position + 0 + inside.length + 2) []
  refine ⟨shown, ?_⟩
  change showPieces opened (.tag (position + 2 * 0) inside :: _) = _
  rw [showPieces, moves]
  exact h

theorem Shows.append (shows_rest : Shows opened rest) (plain : '[' ∉ cs)
    (none_after : tagAhead? rest = none) : Shows opened (cs ++ rest) := by
  induction cs with
  | nil => exact shows_rest
  | cons c cs ih =>
      have others : '[' ∉ cs := fun member => plain (List.mem_cons_of_mem c member)
      exact (ih others).plain (tagAhead?_append plain none_after)

section Tail

variable (tail_open : untilBracket tail = none)

include tail_open

end Tail

end StillMotion.Markup
