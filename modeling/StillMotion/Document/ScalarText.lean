import StillMotion.Document.Cursor
import StillMotion.Text.Code

/-!
# The text of scalars

A scalar is plain, in quotes, or a block of lines.  Line breaks inside plain and quoted scalars
are folded: a single one counts as a space, of several the first is dropped.
-/

namespace StillMotion.Document

open StillMotion.Text

def folded (first : Char) (breaks : List Char) : List Char :=
  if first != '\n' then first :: breaks
  else if breaks.isEmpty then [' ']
  else breaks

/-! ## Quoted scalars -/

def letterEscapes : List (Char × Nat) :=
  [('0', 0), ('a', 7), ('b', 8), ('t', 9), ('\t', 9), ('n', 10), ('v', 11), ('f', 12), ('r', 13),
   ('e', 27), (' ', 32), ('"', 34), ('\\', 92), ('/', 47), ('N', 0x85), ('_', 0xA0),
   ('L', 0x2028), ('P', 0x2029)]

def codeEscapes : List (Char × Nat) := [('x', 2), ('u', 4), ('U', 8)]

def codeTooLarge : Fault := .external "ValueError" (some "chr() arg not in range(0x110000)")

def codeBeyondWord : Fault :=
  .external "OverflowError" (some "Python int too large to convert to C int")

def codeOf? (count : Nat) (c : Cursor) : Option Nat :=
  let digits := c.rest.take count
  if digits.length == count && digits.all fun d => (hexValue? d).isSome then
    some (baseValue 16 digits)
  else none

/-- An escape stands for its own code, also for a surrogate. -/
def codePoint (code : Nat) : Except Fault Code :=
  if 0x7FFFFFFF < code then .error codeBeyondWord
  else if 0x10FFFF < code then .error codeTooLarge
  else .ok (.ofNat code)

def quotedBreaks : Nat → Cursor → Except Fault (List Char × Cursor)
  | 0, c => .ok ([], c)
  | fuel + 1, c =>
      if c.isBoundary then malformed
      else
        let c := c.skipWhile isSpaceOrTab
        match c.lineBreak? with
        | none => .ok ([], c)
        | some (br, c) => do
            let (breaks, c) ← quotedBreaks fuel c
            .ok (br :: breaks, c)

def quotedBody (double : Bool) : Nat → Cursor → Except Fault (List Code × Cursor)
  | 0, _ => malformed
  | fuel + 1, c => do
      let more (codes : List Code) (c : Cursor) : Except Fault (List Code × Cursor) := do
        let (rest, c) ← quotedBody double fuel c
        .ok (codes ++ rest, c)
      match c.here with
      | none => malformed
      | some ch =>
          if isSpaceOrTab ch || isBreak ch then
            let (blanks, c) := c.span isSpaceOrTab
            match c.here with
            | none => malformed
            | some _ =>
                match c.lineBreak? with
                | none => more (blanks.map .char) c
                | some (br, c) => do
                    let (breaks, c) ← quotedBreaks c.rest.length.succ c
                    more ((folded br breaks).map .char) c
          else if double then
            if ch == '"' then .ok ([], c.next)
            else if ch == '\\' then
              let c := c.next
              match c.here with
              | none => malformed
              | some e =>
                  match letterEscapes.find? fun entry => entry.1 == e with
                  | some (_, code) => more [.char (Char.ofNat code)] c.next
                  | none =>
                      match codeEscapes.find? fun entry => entry.1 == e with
                      | some (_, count) =>
                          let c := c.next
                          match codeOf? count c with
                          | none => malformed
                          | some code => do
                              more [← codePoint code] (c.skip count)
                      | none =>
                          match c.lineBreak? with
                          | none => malformed
                          | some (_, c) => do
                              let (breaks, c) ← quotedBreaks c.rest.length.succ c
                              more (breaks.map .char) c
            else more [.char ch] c.next
          else if ch.toNat == 39 then
            if (c.peek 1).any fun d => d.toNat == 39 then more [.char ch] (c.skip 2)
            else .ok ([], c.next)
          else more [.char ch] c.next

/-- A scalar in quotes of either kind; the cursor is at the quote.  Only the whole scalar is a text
of characters. -/
def quotedScalar (c : Cursor) : Except Fault (String × Cursor) := do
  let (codes, after) ← quotedBody (c.here == some '"') c.rest.length c.next
  .ok (Code.string codes, after)

/-! ## Block scalars -/

inductive Chomping where
  | clip
  | strip
  | keep
deriving DecidableEq, Repr

def chomping? : Option Char → Option Chomping
  | some '+' => some .keep
  | some '-' => some .strip
  | _ => none

def increment? : Option Char → Option Nat
  | some ch => if isAsciiDigit ch then some (ch.toNat - 48) else none
  | none => none

def blockHeader (c : Cursor) : Except Fault (Chomping × Option Nat × Cursor) :=
  let (chomping, increment, c) := match chomping? c.here with
    | some chomping =>
        let c := c.next
        match increment? c.here with
        | some n => (chomping, some n, c.next)
        | none => (chomping, none, c)
    | none =>
        match increment? c.here with
        | some n =>
            let c := c.next
            match chomping? c.here with
            | some chomping => (chomping, some n, c.next)
            | none => (.clip, some n, c)
        | none => (.clip, none, c)
  if increment == some 0 || !isSpaceBreakOrEnd c.here then malformed
  else .ok (chomping, increment, c)

def leadingBreaks : Nat → Nat → Cursor → List Char × Nat × Cursor
  | 0, deepest, c => ([], deepest, c)
  | fuel + 1, deepest, c =>
      let c := c.skipWhile isSpace
      let deepest := max deepest c.column
      match c.lineBreak? with
      | none => ([], deepest, c)
      | some (br, c) =>
          let (breaks, deepest, c) := leadingBreaks fuel deepest c
          (br :: breaks, deepest, c)

def blockBreaks (indent : Nat) : Nat → Cursor → List Char × Cursor
  | 0, c => ([], c)
  | fuel + 1, c =>
      let c := c.skipSpacesTo indent
      match c.lineBreak? with
      | none => ([], c)
      | some (br, c) =>
          let (breaks, c) := blockBreaks indent fuel c
          (br :: breaks, c)

def isBlockLine (indent : Nat) (c : Cursor) : Bool := c.column == indent && c.here.isSome

def startsBlank (c : Cursor) : Bool := c.here.any isSpaceOrTab

def blockLines (foldsLines : Bool) (indent : Nat) :
    Nat → List Char → Cursor → List Char × Option Char × List Char × Cursor
  | 0, breaks, c => ([], none, breaks, c)
  | fuel + 1, breaks, c =>
      if isBlockLine indent c then
        let isText := !startsBlank c
        let (line, c) := c.span fun ch => !isBreak ch
        let (br?, c) := match c.lineBreak? with
          | some (br, c) => (some br, c)
          | none => (none, c)
        let (following, c) := blockBreaks indent c.rest.length.succ c
        if isBlockLine indent c then
          let joint : List Char :=
            if foldsLines && br? == some '\n' && isText && !startsBlank c then
              if following.isEmpty then [' '] else []
            else br?.toList
          let (text, last, trailing, c) := blockLines foldsLines indent fuel following c
          (breaks ++ line ++ joint ++ text, last, trailing, c)
        else (breaks ++ line, br?, following, c)
      else ([], none, breaks, c)

/-- A block scalar inside a collection of some indentation; the cursor is at its mark. -/
def blockScalar (outer : Int) (c : Cursor) : Except Fault (String × Cursor) := do
  let foldsLines := c.here == some '>'
  let (chomping, increment, c) ← blockHeader c.next
  let c ← c.ignoredLine
  let least := (max 1 (outer + 1)).toNat
  let (indent, breaks, c) := match increment with
    | none =>
        let (breaks, deepest, c) := leadingBreaks c.rest.length.succ 0 c
        (max least deepest, breaks, c)
    | some n =>
        let indent := least + n - 1
        let (breaks, c) := blockBreaks indent c.rest.length.succ c
        (indent, breaks, c)
  let (text, last, trailing, c) := blockLines foldsLines indent c.rest.length.succ breaks c
  let ending := match chomping with
    | .clip => last.toList
    | .strip => []
    | .keep => last.toList ++ trailing
  .ok (String.ofList (text ++ ending), c)

/-! ## Plain scalars -/

def endsPlain (inFlow : Bool) (ch : Char) (following : Option Char) : Bool :=
  isSpaceOrTab ch || isBreak ch ||
    (ch == ':' && (isBlankOrEnd following ||
      (inFlow && following.any fun d => [',', '[', ']', '\x7b', '\x7d'].contains d))) ||
    (inFlow && [',', '?', '[', ']', '\x7b', '\x7d'].contains ch)

def plainRun (inFlow : Bool) : List Char → List Char
  | [] => []
  | ch :: rest => if endsPlain inFlow ch rest.head? then [] else ch :: plainRun inFlow rest

/-- Empty lines inside a plain scalar and the blanks at the start of the next line; nothing when
the document ends there. -/
def plainBreaks : Nat → Cursor → Option (List Char) × Cursor
  | 0, c => (some [], c)
  | fuel + 1, c =>
      let c := c.skipWhile isSpace
      match c.lineBreak? with
      | none => (some [], c)
      | some (br, c) =>
          if c.isBoundary then (none, c)
          else
            let (breaks?, c) := plainBreaks fuel c
            (breaks?.map (br :: ·), c)

def plainGap (c : Cursor) : List Char × Bool × Cursor :=
  let (blanks, c) := c.span isSpace
  match c.lineBreak? with
  | none => (blanks, false, c)
  | some (br, c) =>
      if c.isBoundary then ([], true, c)
      else
        let (breaks?, c) := plainBreaks c.rest.length.succ c
        match breaks? with
        | some breaks => (folded br breaks, true, c)
        | none => ([], true, c)

/-- The runs of a plain scalar from here on; `broken` tells whether a line break came last. -/
def plainBody (inFlow : Bool) (outer : Int) :
    Nat → Bool → List Char → Cursor → List Char × Bool × Cursor
  | 0, broken, _, c => ([], broken, c)
  | fuel + 1, broken, gap, c =>
      if c.here == some '#' then ([], broken, c)
      else
        let run := plainRun inFlow c.rest
        if run.isEmpty then ([], broken, c)
        else
          let (nextGap, newLine, c) := plainGap (c.skip run.length)
          if nextGap.isEmpty || c.here == some '#' || (!inFlow && (c.column : Int) < outer + 1) then
            (gap ++ run, newLine, c)
          else
            let (text, broken, c) := plainBody inFlow outer fuel newLine nextGap c
            (gap ++ run ++ text, broken, c)

/-- A plain scalar inside a collection of some indentation, and whether a line break came after
its last run. -/
def plainScalar (inFlow : Bool) (outer : Int) (c : Cursor) : String × Bool × Cursor :=
  let (text, broken, c) := plainBody inFlow outer c.rest.length.succ false [] c
  (String.ofList text, broken, c)

end StillMotion.Document
