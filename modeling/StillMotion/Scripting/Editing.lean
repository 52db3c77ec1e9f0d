import StillMotion.Scripting.Escape
import StillMotion.Scripting.Expression
import StillMotion.Text.Search

/-!
# Editing lines

A small editor for streams of lines.  A script is a list of commands, each for the lines that its
address selects; the lines go through the script one after the other.
-/

namespace StillMotion.Scripting

open StillMotion.Text

namespace Editing

/-! ## Scripts -/

inductive Spot where
  | line (number : Nat)
  /-- Each so many lines from a number on. -/
  | steps (first step : Nat)
  | lastLine
  | fitting (expression : Regular)
  /-- So many lines after the start of a range. -/
  | further (count : Nat)

inductive Address where
  | every
  | at (spot : Spot)
  | between (first last : Spot)

inductive Insert where
  | text (c : Char)
  | group (number : Nat)

inductive Deed where
  | substitute (expression : Regular) (inserts : List Insert) (nth : Nat) (everywhere prints : Bool)
  | delete
  | print
  /-- Print the first one of joined lines. -/
  | printFirst
  /-- Print a line in a form without doubt. -/
  | printPlainly
  | quit (prints : Bool) (status : Nat)
  | number
  | exchange (pairs : List (Char × Char))
  | after (text : List Char)
  | before (text : List Char)
  | instead (text : List Char)
  | next
  | join
  | clear
  | hold (appends : Bool)
  | fetch (appends : Bool)
  | swap
  /-- Leave out the next commands. -/
  | skip (count : Nat)

structure Command where
  address : Address
  negated : Bool
  deed : Deed

structure Fault where
  position : Nat
  words : String

/-! ### Pieces -/

def skipBlanks (cs : List Char) : List Char := cs.dropWhile fun c => c == ' ' || c == '\t'

def upTo (separator : Char) : List Char → Option (List Char × List Char)
  | [] => none
  | '\\' :: c :: rest =>
      (upTo separator rest).map fun (more, rest) =>
        (if c == separator then c :: more else '\\' :: c :: more, rest)
  | c :: rest =>
      if c == separator then some ([], rest)
      else (upTo separator rest).map fun (more, rest) => (c :: more, rest)

def bracketed (cs : List Char) : List Char :=
  let lead := cs.take (if cs.drop 1 |>.head? |>.any (· == '^') then 2 else 1)
  let rest := cs.drop lead.length
  let first := if rest.head? == some ']' then [']'] else []
  let inside := (rest.drop first.length).takeWhile fun c => c != ']' && c != '\n'
  let closing := (rest.drop (first.length + inside.length)).take 1
  lead ++ first ++ inside ++ closing

/-- The pattern up to a separator, which may stand in a set of characters; `fuel` bounds its
length. -/
def patternUpTo (separator : Char) : Nat → List Char → Option (List Char × List Char)
  | 0, _ => none
  | _, [] => none
  | fuel + 1, '\\' :: c :: rest =>
      (patternUpTo separator fuel rest).map fun (more, rest) =>
        (if c == separator then c :: more else '\\' :: c :: more, rest)
  | fuel + 1, c :: rest =>
      if c == separator then some ([], rest)
      else
        let taken := if c == '[' then bracketed (c :: rest) else [c]
        (patternUpTo separator fuel ((c :: rest).drop (max 1 taken.length))).map
          fun (more, rest) => (taken ++ more, rest)

def inserts : List Char → List Insert
  | '\\' :: 'n' :: rest => .text '\n' :: inserts rest
  | '\\' :: 't' :: rest => .text '\t' :: inserts rest
  | '\\' :: c :: rest =>
      (if isAsciiDigit c then .group (c.toNat - 48) else .text c) :: inserts rest
  | '&' :: rest => .group 0 :: inserts rest
  | c :: rest => .text c :: inserts rest
  | [] => []

def plainText : List Char → List Char
  | '\\' :: c :: rest => c :: plainText rest
  | c :: rest => c :: plainText rest
  | [] => []

def groupCount (form : Regular.Form) : List Char → Nat
  | '\\' :: c :: rest => groupCount form rest + (if c == '(' && !form.extended then 1 else 0)
  | c :: rest => groupCount form rest + (if c == '(' && form.extended then 1 else 0)
  | [] => 0

def lineText (cs : List Char) : List Char × List Char :=
  let cs := match skipBlanks cs with
    | '\\' :: '\n' :: rest => rest
    | '\\' :: rest => skipBlanks rest
    | rest => rest
  (plainText (cs.takeWhile (· != '\n')), cs.dropWhile (· != '\n'))

/-! ### Addresses -/

def faultAt {α : Type} (total : Nat) (rest : List Char) (words : String) : Except Fault α :=
  .error ⟨total - rest.length, words⟩

/-- One end of an address; nothing when there is none. -/
def spot (form : Regular.Form) (total : Nat) (cs : List Char) : Except Fault (Option Spot × List Char) :=
  let fitting (separator : Char) (rest : List Char) : Except Fault (Option Spot × List Char) :=
    match patternUpTo separator (rest.length + 1) rest with
    | none => faultAt total [] "unterminated address regex"
    | some (text, rest) =>
        let folds := rest.head? == some 'I'
        match Regular.ofText? { form with folds } text with
        | none => faultAt total rest "Unmatched ( or \\("
        | some expression => .ok (some (.fitting expression), if folds then rest.drop 1 else rest)
  match cs with
  | '$' :: rest => .ok (some .lastLine, rest)
  | '/' :: rest => fitting '/' rest
  | '\\' :: separator :: rest => fitting separator rest
  | cs =>
      let digits := cs.takeWhile isAsciiDigit
      if digits.isEmpty then .ok (none, cs)
      else match cs.drop digits.length with
        | '~' :: rest =>
            let step := rest.takeWhile isAsciiDigit
            .ok (some (.steps (digitsValue digits) (digitsValue step)), rest.drop step.length)
        | rest => .ok (some (.line (digitsValue digits)), rest)

def secondSpot (form : Regular.Form) (total : Nat) (cs : List Char) : Except Fault (Spot × List Char) := do
  match skipBlanks cs with
  | '+' :: rest =>
      let digits := rest.takeWhile isAsciiDigit
      .ok (.further (digitsValue digits), rest.drop digits.length)
  | cs =>
      match ← spot form total cs with
      | (some last, rest) => .ok (last, rest)
      | (none, _) => faultAt total cs "unexpected `,'"

def address (form : Regular.Form) (total : Nat) (cs : List Char) : Except Fault (Address × List Char) := do
  match ← spot form total cs with
  | (none, _) => .ok (.every, cs)
  | (some first, rest) =>
      match skipBlanks rest with
      | ',' :: rest => do
          let (last, rest) ← secondSpot form total rest
          .ok (.between first last, rest)
      | rest => .ok (.at first, rest)

/-! ### Commands -/

structure Flags where
  everywhere : Bool := false
  prints : Bool := false
  folds : Bool := false
  nth : Option Nat := none

def isGap (c : Char) : Bool := c == ' ' || c == '\t' || c == '\n' || c == ';'

def isClosing (c : Char) : Bool := c == '\n' || c == ';' || c == '\x7d' || c == '#'

/-- The flags of a substitution; `fuel` bounds their number. -/
def flagsOf (total : Nat) : Nat → Flags → List Char → Except Fault (Flags × List Char)
  | 0, flags, cs => .ok (flags, cs)
  | _, flags, [] => .ok (flags, [])
  | fuel + 1, flags, c :: rest =>
      if c == 'g' then
        if flags.everywhere then faultAt total rest "multiple `g' options to `s' command"
        else flagsOf total fuel { flags with everywhere := true } rest
      else if c == 'p' then
        if flags.prints then faultAt total rest "multiple `p' options to `s' command"
        else flagsOf total fuel { flags with prints := true } rest
      else if c == 'i' || c == 'I' then flagsOf total fuel { flags with folds := true } rest
      else if isAsciiDigit c then
        let digits := (c :: rest).takeWhile isAsciiDigit
        let after := (c :: rest).drop digits.length
        if digitsValue digits == 0 then
          faultAt total after "number option to `s' command may not be zero"
        else if flags.nth.isSome then
          faultAt total after "multiple number options to `s' command"
        else flagsOf total fuel { flags with nth := some (digitsValue digits) } after
      else if isClosing c then .ok (flags, c :: rest)
      else if c == ' ' then .ok (flags, c :: rest)
      else faultAt total rest "unknown option to `s'"

def greatestGroup (inserts : List Insert) : Nat :=
  (inserts.map fun
    | .group number => number
    | .text _ => 0).foldl max 0

def substitution (form : Regular.Form) (total : Nat) (cs : List Char) : Except Fault (Deed × List Char) := do
  let read? : Option (List Char × List Char × List Char) := do
    match cs with
    | separator :: rest => do
        let (pattern, rest) ← patternUpTo separator (rest.length + 1) rest
        let (replacement, rest) ← upTo separator rest
        some (pattern, replacement, rest)
    | [] => none
  match read? with
  | none => faultAt total [] "unterminated `s' command"
  | some (pattern, replacement, rest) => do
      let (flags, rest) ← flagsOf total (rest.length + 1) {} rest
      let inserted := inserts replacement
      let greatest := greatestGroup inserted
      match Regular.ofText? { form with folds := flags.folds } pattern with
      | none => faultAt total rest "Unmatched ( or \\("
      | some expression =>
          if groupCount form pattern < greatest then
            faultAt total rest s!"invalid reference \\{greatest} on `s' command's RHS"
          else .ok (.substitute expression inserted (flags.nth.getD 1) flags.everywhere
            flags.prints, rest)

def exchange (total : Nat) (cs : List Char) : Except Fault (Deed × List Char) :=
  let read? : Option (List Char × List Char × List Char) := do
    match cs with
    | separator :: rest => do
        let (source, rest) ← upTo separator rest
        let (target, rest) ← upTo separator rest
        some (plainText source, plainText target, rest)
    | [] => none
  match read? with
  | none => faultAt total [] "unterminated `y' command"
  | some (source, target, rest) =>
      if source.length != target.length then
        faultAt total rest "strings for `y' command are different lengths"
      else .ok (.exchange (source.zip target), rest)

def deed (form : Regular.Form) (total : Nat) (cs : List Char) : Except Fault (Deed × List Char) :=
  let added (make : List Char → Deed) (rest : List Char) : Except Fault (Deed × List Char) :=
    if (skipBlanks rest).isEmpty then
      faultAt total rest "expected \\ after `a', `c' or `i'"
    else
      let (text, rest) := lineText rest
      .ok (make text, rest)
  let quitting (prints : Bool) (rest : List Char) : Except Fault (Deed × List Char) :=
    let digits := (skipBlanks rest).takeWhile isAsciiDigit
    .ok (.quit prints (digitsValue digits), (skipBlanks rest).drop digits.length)
  match cs with
  | 's' :: rest => substitution form total rest
  | 'y' :: rest => exchange total rest
  | 'd' :: rest => .ok (.delete, rest)
  | 'p' :: rest => .ok (.print, rest)
  | 'P' :: rest => .ok (.printFirst, rest)
  | 'l' :: rest => .ok (.printPlainly, rest)
  | 'q' :: rest => quitting true rest
  | 'Q' :: rest => quitting false rest
  | '=' :: rest => .ok (.number, rest)
  | 'n' :: rest => .ok (.next, rest)
  | 'N' :: rest => .ok (.join, rest)
  | 'z' :: rest => .ok (.clear, rest)
  | 'h' :: rest => .ok (.hold false, rest)
  | 'H' :: rest => .ok (.hold true, rest)
  | 'g' :: rest => .ok (.fetch false, rest)
  | 'G' :: rest => .ok (.fetch true, rest)
  | 'x' :: rest => .ok (.swap, rest)
  | 'a' :: rest => added .after rest
  | 'i' :: rest => added .before rest
  | 'c' :: rest => added .instead rest
  | [] => faultAt total [] "missing command"
  | c :: rest => faultAt total rest s!"unknown command: `{c}'"

def commandsOf (form : Regular.Form) (total : Nat) : Nat → Bool → List Char → Except Fault (List Command × List Char)
  | 0, _, cs => .ok ([], cs)
  | fuel + 1, isBlock, cs => do
      match cs.dropWhile isGap with
      | [] => if isBlock then .error ⟨0, "unmatched `\x7b'"⟩ else .ok ([], [])
      | '\x7d' :: rest =>
          if isBlock then .ok ([], rest) else faultAt total rest "unexpected `\x7d'"
      | '#' :: rest => commandsOf form total fuel isBlock (rest.dropWhile (· != '\n'))
      | cs => do
          let (address, rest) ← address form total cs
          let (negated, rest) := match skipBlanks rest with
            | '!' :: rest => (true, skipBlanks rest)
            | rest => (false, rest)
          let (here, rest) ← match rest with
            | '\x7b' :: rest => do
                let (inner, rest) ← commandsOf form total fuel true rest
                .ok (⟨address, !negated, .skip inner.length⟩ :: inner, rest)
            | rest => do
                let (deed, rest) ← deed form total rest
                .ok ([⟨address, negated, deed⟩], rest)
          match skipBlanks rest with
          | c :: after =>
              if !isClosing c then faultAt total after "extra characters after command"
          | [] => pure ()
          let (more, rest) ← commandsOf form total fuel isBlock rest
          .ok (here ++ more, rest)

def commands (form : Regular.Form) (script : List Char) : Except Fault (List Command) :=
  (commandsOf form script.length (script.length + 1) false script).map (·.1)

/-! ## Runs -/

/-- What a run has come to: the current line and its number, the lines that come after it, what
is kept aside, which ranges are open, with the lines where they end if these are known, what has
been written, the latest first, and the status in the end. -/
structure State where
  line : List Char
  number : Nat
  ahead : List (List Char)
  aside : List Char
  opened : List (Nat × Option Nat)
  written : List (List Char)
  following : List (List Char)
  status : Nat := 0

def State.write (line : List Char) (state : State) : State :=
  { state with written := line :: state.written }

def hits (state : State) : Spot → Bool
  | .line number => state.number == number
  | .steps first step =>
      first ≤ state.number && (state.number == first || (state.number - first) % step == 0)
  | .lastLine => state.ahead.isEmpty
  | .fitting expression => (expression.find? state.line.toArray 0).isSome
  | .further _ => false

def selects (state : State) (index : Nat) :
    Address → Bool × List (Nat × Option Nat)
  | .every => (true, state.opened)
  | .at spot => (hits state spot, state.opened)
  | .between first last =>
      let others := state.opened.filter fun range => range.1 != index
      match state.opened.find? fun range => range.1 == index with
      | some (_, some number) =>
          (state.number ≤ number, if number ≤ state.number then others else state.opened)
      | some (_, none) => (true, if hits state last then others else state.opened)
      | none =>
          if hits state first then
            let finish? : Option Nat := match last with
              | .line number => some number
              | .further count => some (state.number + count)
              | _ => none
            let closes := match finish? with
              | some number => decide (number ≤ state.number)
              | none => (last matches .lastLine) && state.ahead.isEmpty
            (true, if closes then state.opened else (index, finish?) :: state.opened)
          else (false, state.opened)

def openedAtStart (commands : List Command) : List (Nat × Option Nat) :=
  commands.zipIdx.filterMap fun (command, index) =>
    match command.address with
    | .between (.line 0) (.fitting _) => some (index, none)
    | _ => none

def plainWidth : Nat := 69

def plainByte (b : UInt8) : List Char :=
  if b == 92 then ['\\', '\\']
  else if 32 ≤ b && b < 127 then [Char.ofNat b.toNat]
  else match letterCodes.find? fun entry => entry.2 == b.toNat with
    | some (c, _) => ['\\', c]
    | none =>
        let digits := Nat.toDigits 8 b.toNat
        '\\' :: (List.replicate (3 - digits.length) '0' ++ digits)

def plainLines (line : List Char) : List (List Char) :=
  let (last, done) := (textBytes line).toList.foldl (fun (piece, done) b =>
    let text := plainByte b
    if plainWidth < piece.length + text.length then (text, (piece ++ ['\\']) :: done)
    else (piece ++ text, done)) (([] : List Char), ([] : List (List Char)))
  (last ++ ['$']) :: done

def inserted (found : Regular.Found) (text : Array Char) (inserts : List Insert) : List Char :=
  inserts.flatMap fun
    | .text c => [c]
    | .group number => found.group text number

/-- Replace what is found from a position on: from the `nth` place, once or everywhere.  Where
something was found before, nothing of no length is found. -/
def replaced (expression : Regular) (inserts : List Insert) (everywhere : Bool)
    (text : Array Char) : Nat → Nat → Bool → Nat → List Char × Bool
  | 0, start, _, _ => (Regular.part text start text.size, false)
  | fuel + 1, start, isAfter, nth =>
      match expression.find? text start with
      | none => (Regular.part text start text.size, false)
      | some found =>
          if isAfter && found.last == start then
            if text.size ≤ start then ([], false)
            else
              let (rest, more) :=
                replaced expression inserts everywhere text fuel (start + 1) false nth
              (Regular.part text start (start + 1) ++ rest, more)
          else
            let before := Regular.part text start found.first
            let isDue := nth ≤ 1
            let here := if isDue then inserted found text inserts
              else Regular.part text found.first found.last
            if isDue && !everywhere then
              (before ++ here ++ Regular.part text found.last text.size, true)
            else
              let (rest, more) :=
                replaced expression inserts everywhere text fuel found.last true (nth - 1)
              (before ++ here ++ rest, isDue || more)

inductive Going where
  | on
  | nextLine
  | done
deriving DecidableEq

def perform (quiet : Bool) (deed : Deed) (state : State) : Going × State :=
  match deed with
  | .substitute expression inserts nth everywhere prints =>
      let text := state.line.toArray
      let fuel := 2 * text.size + 3
      let (line, hit) := replaced expression inserts everywhere text fuel 0 false nth
      let state := { state with line }
      (.on, if hit && prints then { state with written := line :: state.written } else state)
  | .delete => (.nextLine, state)
  | .print => (.on, state.write state.line)
  | .printFirst => (.on, state.write (state.line.takeWhile (· != '\n')))
  | .printPlainly => (.on, { state with written := plainLines state.line ++ state.written })
  | .quit prints status =>
      (.done, { (if quiet || !prints then state else state.write state.line) with status })
  | .clear => (.on, { state with line := [] })
  | .skip _ => (.on, state)
  | .number =>
      (.on, { state with written := (toString state.number).toList :: state.written })
  | .exchange pairs =>
      (.on, { state with line := state.line.map fun c =>
        ((pairs.find? fun pair => pair.1 == c).map (·.2)).getD c })
  | .after text => (.on, { state with following := state.following ++ [text] })
  | .before text => (.on, { state with written := text :: state.written })
  | .instead text => (.nextLine, { state with written := text :: state.written })
  | .next =>
      let state := if quiet then state else { state with written := state.line :: state.written }
      match state.ahead with
      | [] => (.done, state)
      | line :: ahead => (.on, { state with line, ahead, number := state.number + 1 })
  | .join =>
      match state.ahead with
      | [] => (.done, if quiet then state
          else { state with written := state.line :: state.written })
      | line :: ahead =>
          (.on, { state with
            line := state.line ++ '\n' :: line, ahead, number := state.number + 1 })
  | .hold appends =>
      let aside := if appends then state.aside ++ '\n' :: state.line else state.line
      (.on, { state with aside })
  | .fetch appends =>
      let line := if appends then state.line ++ '\n' :: state.aside else state.aside
      (.on, { state with line })
  | .swap => (.on, { state with line := state.aside, aside := state.line })

def Deed.skipped : Deed → Nat
  | .skip count => count
  | _ => 0

/-- Run the commands on the current line; so many of them are left out. -/
def onLine (quiet : Bool) : Nat → Nat → List Command → State → Going × State
  | _, _, [], state => (.on, state)
  | skipped + 1, index, _ :: rest, state => onLine quiet skipped (index + 1) rest state
  | 0, index, command :: rest, state =>
      let (selected, opened) := selects state index command.address
      let state := { state with opened }
      if selected != command.negated then
        match perform quiet command.deed state with
        | (.on, state) => onLine quiet command.deed.skipped (index + 1) rest state
        | outcome => outcome
      else onLine quiet 0 (index + 1) rest state

def flushed (state : State) : State :=
  { state with written := state.following.reverse ++ state.written, following := [] }

def onLines (quiet : Bool) (commands : List Command) : Nat → State → State
  | 0, state => state
  | fuel + 1, state =>
      match state.ahead with
      | [] => state
      | line :: ahead =>
          let state := { state with line, ahead, number := state.number + 1 }
          match onLine quiet 0 0 commands state with
          | (.on, state) =>
              let state := if quiet then state
                else { state with written := state.line :: state.written }
              onLines quiet commands fuel (flushed state)
          | (.nextLine, state) => onLines quiet commands fuel (flushed state)
          | (.done, state) => flushed state

def edited (quiet : Bool) (commands : List Command) (lines : List (List Char)) :
    List (List Char) × Nat :=
  let start : State := ⟨[], 0, lines, [], openedAtStart commands, [], [], 0⟩
  let finish := onLines quiet commands (lines.length + 1) start
  (finish.written.reverse, finish.status)

end Editing

end StillMotion.Scripting
