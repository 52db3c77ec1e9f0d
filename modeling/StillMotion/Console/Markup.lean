import StillMotion.Console.Action
import StillMotion.Console.Emoji
import StillMotion.Console.Style
import StillMotion.Failure.Fault
import StillMotion.Text.Blank
import StillMotion.Text.Search

/-!
# Console markup

A tag in square brackets changes the style of the text that follows it.  This console has no
styles, so a text is shown without its tags.  Backslashes before a tag make it plain text, two of
them standing for one.  A closing tag has to close an open one, by any way to write its style; an
action is looked at when its tag closes.  Names of emoji between colons are replaced.
-/

namespace StillMotion.Markup

open StillMotion.Text

/-! ## Tags -/

def startsTag (c : Char) : Bool := ('a' ≤ c && c ≤ 'z') || c == '#' || c == '/' || c == '@'

/-- The text up to the closing bracket, and what follows it; there is none across an opening
bracket. -/
def untilBracket : List Char → Option (List Char × List Char)
  | [] => none
  | c :: rest =>
      if c == ']' then some ([], rest)
      else if c == '[' then none
      else (untilBracket rest).map fun (inside, after) => (c :: inside, after)

def tag? : List Char → Option (List Char × List Char)
  | '[' :: c :: rest => if startsTag c then untilBracket (c :: rest) else none
  | _ => none

/-- A piece of markup; a tag knows its position in the text. -/
inductive Piece where
  | text (content : List Char)
  | tag (position : Nat) (inside : List Char)
deriving DecidableEq, Repr

def plainPiece (reversed : List Char) : List Piece :=
  if reversed.isEmpty then [] else [.text reversed.reverse]

def tagPieces (position slashes : Nat) (inside : List Char) : List Piece :=
  let kept := slashes / 2
  let literal : List Piece := if kept == 0 then [] else [.text (List.replicate kept '\\')]
  literal ++ if slashes % 2 == 1 then [.text ('[' :: (inside ++ [']']))]
    else [.tag (position + 2 * kept) inside]

/-- The pieces of a text; `reversed` is the plain text before it, and `fuel` bounds its length. -/
def piecesFrom : (fuel position : Nat) → (reversed rest : List Char) → List Piece
  | 0, _, reversed, _ => plainPiece reversed
  | _, _, reversed, [] => plainPiece reversed
  | fuel + 1, position, reversed, c :: rest =>
      let all := c :: rest
      let slashes := (all.takeWhile (· == '\\')).length
      match tag? (all.drop slashes) with
      | some (inside, after) =>
          plainPiece reversed ++ tagPieces position slashes inside ++
            piecesFrom fuel (position + slashes + inside.length + 2) [] after
      | none => piecesFrom fuel (position + 1) (c :: reversed) rest

def pieces (cs : List Char) : List Piece := piecesFrom (cs.length + 1) 0 [] cs

/-! ## Showing -/

def unescaped : List Char → List Char
  | '\\' :: '[' :: rest => '[' :: unescaped rest
  | c :: rest => c :: unescaped rest
  | [] => []

structure OpenTag where
  name : List Char
  parameters : List Char

def nameOf (inside : List Char) : List Char := inside.takeWhile (· != '=')

def parametersOf (inside : List Char) : List Char := inside.drop ((nameOf inside).length + 1)

/-- Take the innermost open tag of a name away. -/
def close? (name : List Char) : List OpenTag → Option (OpenTag × List OpenTag)
  | [] => none
  | tag :: outer =>
      if tag.name == name then some (tag, outer)
      else (close? name outer).map fun (found, rest) => (found, tag :: rest)

def checkAction (tag : OpenTag) : Except Fault Unit :=
  if tag.name.head? != some '@' || tag.parameters.isEmpty then .ok ()
  else match Console.actionFault? tag.parameters with
    | some message => .error (.external "MarkupError" (some message))
    | none => .ok ()

def unmatchedFault (inside : List Char) (position : Nat) : Fault :=
  .external "MarkupError" (some (s!"closing tag '[{String.ofList inside}]' at position " ++
    s!"{position} doesn't match any open tag"))

def nothingToClose (position : Nat) : Fault :=
  .external "MarkupError" (some s!"closing tag '[/]' at position {position} has nothing to close")

/-- The open tags after a tag, the innermost first. -/
def afterTag (position : Nat) (inside : List Char) (opened : List OpenTag) :
    Except Fault (List OpenTag) := do
  match nameOf inside with
  | '/' :: closing =>
      let (tag, rest) ← if (trimChars closing).isEmpty then
          match opened with
          | [] => .error (nothingToClose position)
          | tag :: outer => .ok (tag, outer)
        else do
          let name ← Console.styleName (trimChars closing)
          match close? name opened with
          | some found => .ok found
          | none => .error (unmatchedFault inside position)
      checkAction tag
      return rest
  | name => return ⟨← Console.styleName name, parametersOf inside⟩ :: opened

def showPieces : List OpenTag → List Piece → Except Fault (List Char)
  | _, [] => .ok []
  | opened, .text content :: rest => do
      let shown ← showPieces opened rest
      .ok (Console.withEmoji (unescaped content) ++ shown)
  | opened, .tag position inside :: rest => do
      let opened ← afterTag position inside opened
      showPieces opened rest

def render (cs : List Char) : Except Fault (List Char) :=
  if cs.contains '[' then showPieces [] (pieces cs) else .ok (Console.withEmoji cs)

/-! ## Escaping -/

/-- Double the backslashes before tags and add one; `fuel` bounds the length of the text. -/
def escapeFrom : Nat → List Char → List Char
  | 0, cs => cs
  | _, [] => []
  | fuel + 1, c :: rest =>
      let all := c :: rest
      let slashes := (all.takeWhile (· == '\\')).length
      match tag? (all.drop slashes) with
      | some (inside, after) =>
          List.replicate (2 * slashes + 1) '\\' ++ '[' :: (inside ++ ']' :: escapeFrom fuel after)
      | none => c :: escapeFrom fuel rest

def closedEnd (cs : List Char) : List Char :=
  match cs.reverse with
  | '\\' :: '\\' :: _ => cs
  | '\\' :: _ => cs ++ ['\\']
  | _ => cs

def escape (s : String) : String :=
  let cs := s.toList
  String.ofList (closedEnd (escapeFrom (cs.length + 1) cs))

end StillMotion.Markup
