import StillMotion.Instruction.Method

/-!
# Lines of a width

A text is cut into pieces, which are words and the blanks between them, and the pieces are put on
lines as long as they fit.  A word that is longer than any line is broken, or has a line of its
own.  A word with hyphens between letters, and one before a longer dash, makes several pieces.
-/

namespace StillMotion.Instruction.Wrapping

open StillMotion.Text

/-! ## Pieces -/

def isGap (c : Char) : Bool := c == ' ' || (9 ≤ c.toNat && c.toNat ≤ 13)

def isLetter (c : Char) : Bool := isWordChar c && !isDigit c

def endsWord (c : Char) : Bool := isWordChar c || "!\"'&.,?".toList.contains c

/-- Whether a dash of at least two characters begins here, with a word after it. -/
def startsDash (cs : List Char) : Bool :=
  let dash := cs.takeWhile (· == '-')
  2 ≤ dash.length && (cs.drop dash.length).head?.any isWordChar

/-- Whether a word can be cut after a hyphen; `before` is the text up to the hyphen, backwards, and
`after` what follows it. -/
def isBreakable (before after : List Char) : Bool :=
  let fits := match before with
    | b :: '-' :: a :: _ => isLetter b && isLetter a
    | _ => false
  let isLong := match before with
    | b :: a :: _ => isLetter b && isLetter a
    | _ => false
  let goesOn := match after with
    | a :: '-' :: b :: _ => isLetter a && isLetter b
    | a :: b :: _ => isLetter a && isLetter b
    | _ => false
  (isLong || fits) && goesOn

/-- The length of the piece of a word, of which `taken` characters are in it and stand backwards
at the start of `before`. -/
def wordLength (taken : Nat) (before : List Char) : List Char → Nat
  | [] => taken
  | c :: rest =>
      if 0 < taken && isGap c then taken
      else if 0 < taken && c == '-' && isBreakable before rest then taken + 1
      else if 0 < taken && before.head?.any endsWord && startsDash (c :: rest) then taken
      else wordLength (taken + 1) (c :: before) rest

def pieceLength (hyphens : Bool) (before cs : List Char) : Nat :=
  let gap := cs.takeWhile isGap
  if !gap.isEmpty then gap.length
  else if !hyphens then (cs.takeWhile fun c => !isGap c).length
  else if before.head?.any endsWord && startsDash cs then (cs.takeWhile (· == '-')).length
  else wordLength 0 before cs

/-- The pieces of a text; `before` is the text before it, backwards, and `fuel` bounds its
length. -/
def piecesFrom (hyphens : Bool) : Nat → (before cs : List Char) → List (List Char)
  | 0, _, _ => []
  | _, _, [] => []
  | fuel + 1, before, c :: rest =>
      let cs := c :: rest
      let piece := cs.take (max 1 (pieceLength hyphens before cs))
      piece :: piecesFrom hyphens fuel (piece.reverse ++ before) (cs.drop piece.length)

/-! ## Lines -/

structure Rule where
  width : Nat
  /-- Words that are too long are broken. -/
  breaks : Bool
  /-- Words are cut at hyphens. -/
  hyphens : Bool

/-- The pieces that fit on a line of which `used` columns are taken, and the others. -/
def fitting (width : Nat) (used : Nat) : List (List Char) → List (List Char) × List (List Char)
  | [] => ([], [])
  | piece :: rest =>
      if used + piece.length ≤ width then
        let (line, others) := fitting width (used + piece.length) rest
        (piece :: line, others)
      else ([], piece :: rest)

/-- Where a word that is too long is broken, with `space` columns left. -/
def breakAt (rule : Rule) (space : Nat) (word : List Char) : Nat :=
  match if rule.hyphens then findLast? ['-'] (word.take space) else none with
  | some n => if 0 < n && (word.take n).any (· != '-') then n + 1 else space
  | none => space

def lineOf (rule : Rule) (pieces : List (List Char)) : List (List Char) × List (List Char) :=
  let (line, others) := fitting rule.width 0 pieces
  match others with
  | [] => (line, [])
  | word :: rest =>
      if word.length ≤ rule.width then (line, others)
      else if rule.breaks then
        let used := line.foldl (fun sum piece => sum + piece.length) 0
        let n := breakAt rule (rule.width - used) word
        (line ++ [word.take n], word.drop n :: rest)
      else if line.isEmpty then ([word], rest)
      else (line, others)

def withoutGap (line : List (List Char)) : List (List Char) :=
  if line.getLast?.any (·.all isBlank) then line.dropLast else line

/-- The lines of pieces; the blanks before a line are left out, except before the first one.
`fuel` bounds the number of lines. -/
def linesFrom (rule : Rule) (isFirst : Bool) : Nat → List (List Char) → List (List Char)
  | 0, _ => []
  | _, [] => []
  | fuel + 1, piece :: rest =>
      let pieces := if !isFirst && piece.all isBlank then rest else piece :: rest
      let (line, others) := lineOf rule pieces
      match withoutGap line with
      | [] => linesFrom rule isFirst fuel others
      | line => line.flatten :: linesFrom rule false fuel others

def lines (rule : Rule) (cs : List Char) : List (List Char) :=
  linesFrom rule true (2 * cs.length + 2) (piecesFrom rule.hyphens (cs.length + 1) [] cs)

end StillMotion.Instruction.Wrapping
