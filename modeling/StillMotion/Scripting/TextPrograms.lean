import StillMotion.Scripting.Condition
import StillMotion.Scripting.Format
import StillMotion.Scripting.Options
import StillMotion.Text.Utf8

/-!
# Programs for text

Programs that write text, and programs that take text and give it on whole, in part, counted or
with other characters.  A program gets its arguments and the streams that it writes to, and
answers with its status, zero for success.
-/

namespace StillMotion.Scripting

open StillMotion.Text StillMotion.Number Run

def complain (streams : Streams) (program subject : String) (cause : FileCause) : Run Unit :=
  say streams.err s!"{program}: {subject}: {cause.words}\n"

/-! ## Writing -/

/-- Write the arguments, separated by blanks, with their escapes unless there are none. -/
def writeArguments (streams : Streams) (style : Option EscapeStyle) (hasLineEnd : Bool)
    (args : List String) : Run Nat := do
  let text := " ".intercalate args
  let (bytes, ended) := match style with
    | some style => escaped style text
    | none => (text.toUTF8, false)
  write streams.out (if hasLineEnd && !ended then bytes ++ charBytes '\n' else bytes)
  return 0

def shellEcho (streams : Streams) : List String → Run Nat
  | "-n" :: rest => writeArguments streams (some .text) false rest
  | args => writeArguments streams (some .text) true args

def echo (streams : Streams) (args : List String) : Run Nat :=
  let isOption (arg : String) : Bool :=
    match arg.toList with
    | '-' :: c :: more => (c :: more).all fun c => c == 'n' || c == 'e' || c == 'E'
    | _ => false
  let letters := (args.takeWhile isOption).flatMap String.toList
  let readsEscapes := letters.reverse.find? fun c => c == 'e' || c == 'E'
  writeArguments streams (if readsEscapes == some 'e' then some ⟨true, true⟩ else none)
    (!letters.contains 'n') (args.dropWhile isOption)

/-- Write arguments in a format.  `line` is where the command stands in a script, if the script
itself writes them. -/
def formatText (streams : Streams) (line : Option Nat) (args : List String) : Run Nat := do
  let complain (words : String) : Run Unit :=
    match line with
    | some line => report streams line s!"printf: {words}"
    | none => say streams.err s!"printf: {words}\n"
  match if args.head? == some "--" then args.drop 1 else args with
  | [] =>
      if line.isNone then misuse streams "printf" "missing operand"
      else do
        complain "usage: printf format [arg ...]"
        return 2
  | format :: args => do
      let made := Formatted.ofFormat line.isNone format args
      for fault in made.faults do complain (fault.words line.isNone)
      if line.isNone && !made.ended then
        for arg in made.left.take 1 do
          complain s!"warning: ignoring excess arguments, starting with ‘{arg}’"
      write streams.out made.bytes
      return made.status line.isNone

/-- Write a line over and over; only a reader that has seen enough ends it. -/
def repeatLine (streams : Streams) (args : List String) : Run Nat := do
  let text := (if args.isEmpty then "y" else " ".intercalate args) ++ "\n"
  say streams.out (String.join (List.replicate (plenty / text.utf8ByteSize + 1) text))
  match streams.out with
  | .buffer _ => return 141
  | _ => stop .expired

/-! ## Reading -/

def openNamed (name : String) : Run (Except FileCause Input) := do
  if name != "-" then openInput name
  else do
    let input := (← shell).input
    change fun s => { s with input := .bytes ByteArray.empty }
    return .ok input

def throughInputs {σ : Type} (streams : Streams) (names : List String)
    (failure : String → FileCause → String) (start : σ)
    (use : String → Input → σ → Run σ) : Run (Nat × σ) := do
  let mut status := 0
  let mut state := start
  for name in if names.isEmpty then ["-"] else names do
    match ← openNamed name with
    | .ok input => state ← use name input state
    | .error cause => do
        say streams.err (failure name cause ++ "\n")
        status := 1
  return (status, state)

def eachInput (streams : Streams) (names : List String) (failure : String → FileCause → String)
    (use : String → Input → Run Unit) : Run Nat := do
  return (← throughInputs streams names failure () fun name input _ => use name input).1

def splitLines (bytes : ByteArray) : List (List UInt8) :=
  let rec go : List UInt8 → List UInt8 → List (List UInt8)
    | seen, [] => if seen.isEmpty then [] else [seen.reverse]
    | seen, b :: rest => if b == 10 then (b :: seen).reverse :: go [] rest else go (b :: seen) rest
  go [] bytes.toList

def joinLines (lines : List (List UInt8)) : ByteArray := ⟨lines.flatten.toArray⟩

def padLeft (width : Nat) (s : String) : String :=
  String.ofList (List.replicate (width - s.length) ' ') ++ s

/-! ## Whole files -/

def visibleByte (b : UInt8) : List UInt8 :=
  let low (b : UInt8) : List UInt8 :=
    if b < 32 then [94, b + 64] else if b == 127 then [94, 63] else [b]
  if b < 128 then low b else [77, 45] ++ low (b - 128)

structure Showing where
  numbersAll : Bool
  numbersFull : Bool
  squeezes : Bool
  marksEnds : Bool
  marksTabs : Bool
  marksOthers : Bool

namespace Showing

def ofOptions (given : Given) : Showing :=
  let all := given.has 'A'
  { numbersAll := given.has 'n' && !given.has 'b'
    numbersFull := given.has 'b'
    squeezes := given.has 's'
    marksEnds := all || given.has 'E' || given.has 'e'
    marksTabs := all || given.has 'T' || given.has 't'
    marksOthers := all || given.has 'v' || given.has 'e' || given.has 't' }

def byte (showing : Showing) (b : UInt8) : List UInt8 :=
  if b == 9 then if showing.marksTabs then [94, 73] else [b]
  else if b != 10 && showing.marksOthers then visibleByte b
  else [b]

/-- How far showing has come: the lines that have a number, the empty lines in a row before, and
whether a line begins. -/
structure Progress where
  numbered : Nat
  empty : Nat
  isFresh : Bool

def line (showing : Showing) (progress : Progress) (bytes : List UInt8) :
    List UInt8 × Progress :=
  let isEmpty := progress.isFresh && bytes == [10]
  let isComplete := bytes.getLast? == some 10
  if isEmpty && showing.squeezes && 0 < progress.empty then
    ([], { progress with empty := progress.empty + 1 })
  else
    let counts := progress.isFresh && (showing.numbersAll || (showing.numbersFull && !isEmpty))
    let number := if counts then progress.numbered + 1 else progress.numbered
    let lead := if counts then (padLeft 6 (toString number) ++ "\t").toUTF8.toList else []
    let body := (if isComplete then bytes.dropLast else bytes).flatMap showing.byte
    let finish : List UInt8 :=
      if isComplete then (if showing.marksEnds then [36, 10] else [10]) else []
    (lead ++ body ++ finish, ⟨number, if isEmpty then progress.empty + 1 else 0, isComplete⟩)

def lines (showing : Showing) (progress : Progress) :
    List (List UInt8) → List (List UInt8) × Progress
  | [] => ([], progress)
  | first :: rest =>
      let (here, progress) := showing.line progress first
      let (more, progress) := lines showing progress rest
      (here :: more, progress)

end Showing

def cat (streams : Streams) (args : List String) : Run Nat :=
  let failure (name : String) (cause : FileCause) : String := s!"cat: {name}: {cause.words}"
  withOptions streams "cat" { plain := "AbeEnstTuv" } args 1 fun given => do
    if given.options.isEmpty then
      eachInput streams given.others failure fun _ input => do
        write streams.out (← allBytes input)
    else do
      let showing := Showing.ofOptions given
      let (status, _) ← throughInputs streams given.others failure ⟨0, 0, true⟩
        fun _ input progress => do
          let (shown, progress) := showing.lines progress (splitLines (← allBytes input))
          write streams.out (joinLines shown)
          return progress
      return status

/-! ## Counting -/

def wordCount (bytes : ByteArray) : Nat :=
  let step (state : Nat × Bool) (b : UInt8) : Nat × Bool :=
    let isGap := b == 32 || (9 ≤ b && b ≤ 13)
    if isGap then (state.1, false) else (if state.2 then state.1 else state.1 + 1, true)
  (bytes.toList.foldl step (0, false)).1

def countersOf (given : Given) : List (ByteArray → Nat) :=
  let wanted (c : Char) : Bool := given.options.isEmpty || given.has c
  let characters (bytes : ByteArray) : Nat := (Utf8.decodeLossy bytes).length
  let widest (bytes : ByteArray) : Nat :=
    (((Utf8.decodeLossy bytes).splitOn "\n").map String.length).foldl max 0
  (if wanted 'l' then [fun bytes => bytes.toList.countP (· == 10)] else []) ++
    (if wanted 'w' then [wordCount] else []) ++
    (if given.has 'm' then [characters] else []) ++
    (if wanted 'c' then [ByteArray.size] else []) ++
    (if given.has 'L' then [widest] else [])

def count (streams : Streams) (args : List String) : Run Nat :=
  withOptions streams "wc" { plain := "clLmw" } args 1 fun given => do
    let counters := countersOf given
    let names := given.others
    let sizes ← names.mapM fun name => do
      match ← openInput name with
      | .ok (.bytes content) => return if name == "-" then 0 else content.size
      | _ => return 0
    let least := if names.isEmpty || names.contains "-" then 7 else 1
    let width := if names.length ≤ 1 && counters.length == 1 then 1
      else max least (toString (sizes.foldl (· + ·) 0)).length
    let tell (numbers : List Nat) (name : String) : Run Unit :=
      let text := " ".intercalate (numbers.map fun n => padLeft width (toString n))
      say streams.out (if name.isEmpty then text ++ "\n" else text ++ " " ++ name ++ "\n")
    let (status, rows) ← throughInputs streams names
      (fun name cause => s!"wc: {name}: {cause.words}") [] fun name input rows => do
        let bytes ← allBytes input
        let numbers := counters.map fun counter => counter bytes
        tell numbers (if names.isEmpty then "" else name)
        return numbers :: rows
    if 1 < names.length then
      let isGreatest (i : Nat) : Bool := given.has 'L' && i + 1 == counters.length
      let totals := (List.range counters.length).map fun i =>
        (rows.map fun row => row.getD i 0).foldl (if isGreatest i then max else (· + ·)) 0
      tell totals "total"
    return status

/-! ## Parts -/

/-- How much of its input a program is to take: what is counted, from which end, and whether the
count tells what to leave. -/
structure Portion where
  countsBytes : Bool
  count : Nat
  isTurned : Bool

def portion? (countsBytes : Bool) (turning : Char) (text : String) : Option Portion :=
  let (isTurned, digits) := match text.toList with
    | '-' :: rest => (turning == '-', rest)
    | '+' :: rest => (turning == '+', rest)
    | cs => (false, cs)
  let number := digits.takeWhile isAsciiDigit
  let factor? := match String.ofList (digits.drop number.length) with
    | "" => some 1
    | "b" => some 512
    | "K" | "k" | "KiB" => some 1024
    | "M" | "MiB" => some 1048576
    | _ => none
  if number.isEmpty then none
  else factor?.map fun factor => ⟨countsBytes, digitsValue number * factor, isTurned⟩

def withCountLetter (turning : Char) : List String → List String
  | [] => []
  | first :: rest =>
      match first.toList with
      | '-' :: c :: more =>
          if isAsciiDigit c && (c :: more).all isAsciiDigit then
            "-n" :: String.ofList (c :: more) :: rest
          else first :: rest
      | '+' :: c :: more =>
          if turning == '+' && isAsciiDigit c && (c :: more).all isAsciiDigit then "-n" :: first :: rest
          else first :: rest
      | _ => first :: rest

def openingFailure (program name : String) (cause : FileCause) : String :=
  s!"{program}: cannot open '{name}' for reading: {cause.words}"

def partly (streams : Streams) (program : String) (turning : Char) (args : List String)
    (take : Portion → Input → Run ByteArray) : Run Nat :=
  let table : OptionTable :=
    { plain := "qvzfF", valued := "cn"
      names := [("lines", 'n'), ("bytes", 'c'), ("quiet", 'q'), ("silent", 'q'), ("verbose", 'v')] }
  withOptions streams program table (withCountLetter turning args) 1 fun given => do
    let asked := (given.options.filter fun option => option.1 == 'n' || option.1 == 'c').getLast?
    let (letter, text) := asked.getD ('n', "10")
    match portion? (letter == 'c') turning text with
    | none => do
        let units := if letter == 'c' then "bytes" else "lines"
        say streams.err s!"{program}: invalid number of {units}: ‘{text}’\n"
        return 1
    | some portion => do
        let hasHeadings := given.has 'v' || (1 < given.others.length && !given.has 'q')
        let (status, _) ← throughInputs streams given.others (openingFailure program) true
          fun name input isFirst => do
            if hasHeadings then
              let shown := if name == "-" then "standard input" else name
              say streams.out ((if isFirst then "" else "\n") ++ s!"==> {shown} <==\n")
            write streams.out (← take portion input)
            return false
        return status

/-- The first lines or bytes of the input, or all but the last ones. -/
def firstPart (streams : Streams) (args : List String) : Run Nat :=
  partly streams "head" '-' args fun portion input => do
    if portion.countsBytes then
      if portion.isTurned then
        let bytes ← allBytes input
        return bytes.extract 0 (bytes.size - portion.count)
      else return firstBytes portion.count input
    else do
      let lines := splitLines (← allBytes input)
      let taken := if portion.isTurned then lines.length - portion.count else portion.count
      return joinLines (lines.take taken)

def lastPart (streams : Streams) (args : List String) : Run Nat :=
  partly streams "tail" '+' args fun portion input => do
    let bytes ← allBytes input
    let lines := splitLines bytes
    let size := if portion.countsBytes then bytes.size else lines.length
    let left := if portion.isTurned then portion.count - 1 else size - portion.count
    return if portion.countsBytes then bytes.extract left bytes.size else joinLines (lines.drop left)

def tee (streams : Streams) (args : List String) : Run Nat := do
  let (options, names) := optionsOf [] args
  let mut targets : List Target := [streams.out]
  let mut status := 0
  for name in names do
    match ← openFile (hasOption options 'a') name with
    | .ok target => targets := targets ++ [target]
    | .error cause => do
        complain streams "tee" name cause
        status := 1
  let bytes ← takeInput
  for target in targets do write target bytes
  return status

/-! ## Characters -/

def narrowCharacters : List Char := (List.range 128).map Char.ofNat

def characterClass? (name : String) : Option (Char → Bool) :=
  let isControl (c : Char) : Bool := c.toNat < 32 || c.toNat == 127
  let isMark (c : Char) : Bool := !isControl c && c != ' ' && !c.isAlphanum
  match name with
  | "alnum" => some Char.isAlphanum
  | "alpha" => some Char.isAlpha
  | "digit" => some Char.isDigit
  | "lower" => some Char.isLower
  | "upper" => some Char.isUpper
  | "space" => some fun c => c == ' ' || (9 ≤ c.toNat && c.toNat ≤ 13)
  | "blank" => some fun c => c == ' ' || c == '\t'
  | "cntrl" => some isControl
  | "punct" => some isMark
  | "graph" => some fun c => !isControl c && c != ' '
  | "print" => some fun c => !isControl c
  | "xdigit" => some isHex
  | _ => none

def leadingClass? (cs : List Char) : Option (List Char × List Char) := do
  match cs with
  | '[' :: ':' :: rest =>
      let name := rest.takeWhile Char.isLower
      match rest.drop name.length with
      | ':' :: ']' :: rest => do
          let isMember ← characterClass? (String.ofList name)
          some (narrowCharacters.filter isMember, rest)
      | _ => none
  | _ => none

/-- The characters of a set, in which a dash between two of them stands for all from the one to
the other; `fuel` bounds its length. -/
def charactersOf : Nat → List Char → List Char
  | 0, _ => []
  | fuel + 1, cs =>
      match leadingClass? cs with
      | some (members, rest) => members ++ charactersOf fuel rest
      | none =>
          match cs with
          | a :: '-' :: b :: rest =>
              (List.range (b.toNat + 1 - a.toNat)).map (fun i => Char.ofNat (a.toNat + i)) ++
                charactersOf fuel rest
          | c :: rest => c :: charactersOf fuel rest
          | [] => []

def setOf (arg : String) : List Char :=
  let cs := (Utf8.decodeLossy (escaped .format arg).1).toList
  charactersOf (cs.length + 1) cs

def squeezed (set : Char → Bool) : List Char → List Char
  | a :: b :: rest =>
      if a == b && set a then squeezed set (b :: rest) else a :: squeezed set (b :: rest)
  | cs => cs

def translate (streams : Streams) (args : List String) : Run Nat := do
  let text := (Utf8.decodeLossy (← takeInput)).toList
  let letters := (args.filter fun a => a.startsWith "-" && a != "-").flatMap String.toList
  let sets := args.filter fun a => !a.startsWith "-" || a == "-"
  let isOutside := letters.contains 'c' || letters.contains 'C'
  let member (set : String) : Char → Bool :=
    let members := setOf set
    fun c => members.contains c != isOutside
  let squeezes := letters.contains 's'
  match letters.contains 'd', sets with
  | true, set :: more => do
      let isDropped := member set
      let kept := text.filter fun c => !isDropped c
      let kept := match squeezes, more with
        | true, other :: _ => squeezed (setOf other).contains kept
        | _, _ => kept
      write streams.out (textBytes kept)
      return 0
  | false, [set] => do
      if !squeezes then
        let complaint := s!"tr: missing operand after ‘{set}’\n"
        say streams.err (complaint ++
          "Two strings must be given when translating.\nTry 'tr --help' for more information.\n")
        return 1
      write streams.out (textBytes (squeezed (member set) text))
      return 0
  | false, [source, target] => do
      let sources := setOf source
      let targets := setOf target
      let replaced (c : Char) : Char :=
        if isOutside then
          if sources.contains c then c else targets.getLast?.getD c
        else match sources.reverse.findIdx? (· == c) with
          | some i =>
              let i := sources.length - 1 - i
              (targets[i]?).getD (targets.getLast?.getD c)
          | none => c
      let text := text.map replaced
      write streams.out (textBytes (if squeezes then squeezed targets.contains text else text))
      return 0
  | _, [] => misuse streams "tr" "missing operand"
  | _, _ :: _ :: extra :: _ => misuse streams "tr" s!"extra operand ‘{extra}’"

end StillMotion.Scripting
