import StillMotion.Instruction.Method

/-!
# Data over several lines

A datum is shown on one line where that fits, and otherwise with each of its items on a line of
its own.  The entries of a mapping come in the order of their keys.  A text that is too long is
shown in pieces, one below the other.
-/

namespace StillMotion.Instruction.Spread

open StillMotion.Text

def lineWidth : Nat := 80

/-! ## Order -/

/-- Whether a key comes before another one; keys that cannot be compared go by their kinds. -/
def comesBefore (a b : Datum × Datum) : Bool :=
  match Datum.compareBy .less a.1 b.1 with
  | .ok answer => answer
  | .error _ => a.1.kindName < b.1.kindName

mutual

def arranged : Datum → Datum
  | .list items => .list (arrangedItems items)
  | .tuple items => .tuple (arrangedItems items)
  | .mapping entries =>
      let before (a b : Datum × Datum) : Id Bool := comesBefore a b
      .mapping (Ordering.byInsertion before (arrangedEntries entries)).run
  | d => d

def arrangedItems : List Datum → List Datum
  | [] => []
  | d :: rest => arranged d :: arrangedItems rest

def arrangedEntries : List (Datum × Datum) → List (Datum × Datum)
  | [] => []
  | (key, d) :: rest => (key, arranged d) :: arrangedEntries rest

end

/-! ## Texts -/

def wordsWithGaps : Nat → List Char → List (List Char)
  | 0, _ => []
  | _, [] => []
  | fuel + 1, cs =>
      let word := cs.takeWhile fun c => !isBlank c
      let gap := (cs.drop word.length).takeWhile isBlank
      (word ++ gap) :: wordsWithGaps fuel (cs.drop (word.length + gap.length))

def fits (columns : Int) (cs : List Char) : Bool := (quoted (String.ofList cs)).length ≤ columns

/-- Words put together as long as they fit; the last one of all has fewer columns. -/
def joinWords (columns lastColumns : Int) (current : List Char) :
    List (List Char) → List (List Char)
  | [] => if current.isEmpty then [] else [current]
  | word :: rest =>
      let candidate := current ++ word
      if fits (if rest.isEmpty then lastColumns else columns) candidate then
        joinWords columns lastColumns candidate rest
      else if current.isEmpty then joinWords columns lastColumns word rest
      else current :: joinWords columns lastColumns word rest

def textPieces (columns lastColumns : Int) : List (List Char) → List (List Char)
  | [] => []
  | line :: rest =>
      let last := if rest.isEmpty then lastColumns else columns
      let pieces := if fits last line then [line]
        else joinWords columns last [] (wordsWithGaps line.length line)
      pieces ++ textPieces columns lastColumns rest

def lineBreak (indent : Nat) : String := "\n" ++ String.ofList (List.replicate indent ' ')

def spreadText (isAlone : Bool) (indent allowance : Nat) (s : String) : String :=
  let (indent, allowance) := if isAlone then (indent + 1, allowance + 1) else (indent, allowance)
  let columns : Int := lineWidth - indent
  let pieces := textPieces columns (columns - allowance) (linesOf true s.toList)
  let shown := (lineBreak indent).intercalate (pieces.map fun cs => quoted (String.ofList cs))
  if isAlone && pieces.length != 1 then s!"({shown})" else shown

/-! ## Data -/

mutual

/-- Show a datum that begins after `indent` columns, with `allowance` columns left for what
follows it. -/
def spread (isAlone : Bool) (indent allowance : Nat) (d : Datum) : Except Misfit String := do
  let whole ← d.quotedForm
  if whole.length + indent + allowance ≤ lineWidth then return whole
  match d with
  | .str s false => return spreadText isAlone indent allowance s
  | .list items => do
      let shown ← spreadItems (indent + 1) (allowance + 1) items
      return "[" ++ (",".append (lineBreak (indent + 1))).intercalate shown ++ "]"
  | .tuple items => do
      let ending := if items.length == 1 then ",)" else ")"
      let shown ← spreadItems (indent + 1) (allowance + ending.length) items
      return "(" ++ (",".append (lineBreak (indent + 1))).intercalate shown ++ ending
  | .mapping entries => do
      let shown ← spreadEntries (indent + 1) (allowance + 1) entries
      return "\x7b" ++ (",".append (lineBreak (indent + 1))).intercalate shown ++ "\x7d"
  | _ => return whole

def spreadItems (indent allowance : Nat) : List Datum → Except Misfit (List String)
  | [] => return []
  | d :: rest => do
      let shown ← spread false indent (if rest.isEmpty then allowance else 1) d
      return shown :: (← spreadItems indent allowance rest)

def spreadEntries (indent allowance : Nat) :
    List (Datum × Datum) → Except Misfit (List String)
  | [] => return []
  | (key, d) :: rest => do
      let left := (← key.quotedForm) ++ ": "
      let shown ← spread false (indent + left.length) (if rest.isEmpty then allowance else 1) d
      return (left ++ shown) :: (← spreadEntries indent allowance rest)

end

def text (d : Datum) : Except Misfit String := spread true 0 0 (arranged d)

end StillMotion.Instruction.Spread
