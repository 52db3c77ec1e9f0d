import StillMotion.Failure.Fault
import StillMotion.Text.Digit

/-!
# A place in a document

Documents are read character by character.  What a character means depends on its column, on
its line and on the characters after it; a cursor keeps all of these.
-/

namespace StillMotion.Document

structure Cursor where
  rest : List Char
  index : Nat
  line : Nat
  column : Nat
deriving DecidableEq, Repr

def isBreak (c : Char) : Bool :=
  c == '\n' || c.toNat == 0x85 || c.toNat == 0x2028 || c.toNat == 0x2029

def isSpace (c : Char) : Bool := c == ' '

def isSpaceOrTab (c : Char) : Bool := c == ' ' || c == '\t'

def endOr (p : Char → Bool) : Option Char → Bool
  | none => true
  | some c => p c

def isBreakOrEnd : Option Char → Bool := endOr isBreak

def isSpaceBreakOrEnd : Option Char → Bool := endOr fun c => c == ' ' || isBreak c

def isBlankOrEnd : Option Char → Bool := endOr fun c => isSpaceOrTab c || isBreak c

def isNameChar (c : Char) : Bool :=
  ('0' ≤ c && c ≤ '9') || ('A' ≤ c && c ≤ 'Z') || ('a' ≤ c && c ≤ 'z') || c == '-' || c == '_'

/-- The mark of byte order, which has no width. -/
def orderMark : Char := Char.ofNat 0xFEFF

def malformed {α : Type} : Except Fault α := .error .document

namespace Cursor

def start (cs : List Char) : Cursor := ⟨cs, 0, 0, 0⟩

/-- The character `n` places ahead, when the text goes on so far. -/
def peek (c : Cursor) (n : Nat) : Option Char := c.rest[n]?

def here (c : Cursor) : Option Char := c.rest.head?

def next (c : Cursor) : Cursor :=
  match c.rest with
  | [] => c
  | ch :: rest =>
      if isBreak ch then ⟨rest, c.index + 1, c.line + 1, 0⟩
      else if ch == orderMark then ⟨rest, c.index + 1, c.line, c.column⟩
      else ⟨rest, c.index + 1, c.line, c.column + 1⟩

def skip : Nat → Cursor → Cursor
  | 0, c => c
  | n + 1, c => skip n c.next

def span (p : Char → Bool) (c : Cursor) : List Char × Cursor :=
  let run := c.rest.takeWhile p
  (run, c.skip run.length)

def skipWhile (p : Char → Bool) (c : Cursor) : Cursor := (c.span p).2

/-- Go over spaces, but not beyond a column. -/
def skipSpacesTo (column : Nat) (c : Cursor) : Cursor :=
  let run := c.rest.takeWhile isSpace
  c.skip (min run.length (column - c.column))

/-- Go over a line break.  The separators of lines and paragraphs stand for themselves, every
other break for a line feed. -/
def lineBreak? (c : Cursor) : Option (Char × Cursor) :=
  match c.here with
  | some ch =>
      if isBreak ch then
        some (if ch.toNat == 0x2028 || ch.toNat == 0x2029 then ch else '\n', c.next)
      else none
  | none => none

/-- The rest of a line that may hold nothing but a comment. -/
def skipComment (c : Cursor) : Cursor :=
  if c.here == some '#' then c.skipWhile fun ch => !isBreak ch else c

def isMarker (ch : Char) (c : Cursor) : Bool :=
  c.peek 0 == some ch && c.peek 1 == some ch && c.peek 2 == some ch && isBlankOrEnd (c.peek 3)

def isBoundary (c : Cursor) : Bool := c.isMarker '-' || c.isMarker '.'

def ignoredLine (c : Cursor) : Except Fault Cursor :=
  let c := (c.skipWhile isSpace).skipComment
  if !isBreakOrEnd c.here then malformed
  else match c.lineBreak? with
    | some (_, c) => .ok c
    | none => .ok c

end Cursor

end StillMotion.Document
