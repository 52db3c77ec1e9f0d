import StillMotion.Digest.Base64
import StillMotion.Digest.Sha256
import StillMotion.Scripting.Editing
import StillMotion.Scripting.Programs

/-!
# Programs for lines

Programs that take their input line by line: they search, cut, edit, compare and turn it around.
There is also the one that computes with its arguments.
-/

namespace StillMotion.Scripting

open StillMotion.Text Run

/-! ## Lines -/

def linesOf (bytes : ByteArray) : List (List Char) × Bool :=
  let pieces := splitOn (Utf8.decodeLossy bytes).toList
  match pieces.reverse with
  | [] :: rest => (rest.reverse, true)
  | _ => (pieces, false)
where
  splitOn (cs : List Char) : List (List Char) := (split '\n' (String.ofList cs)).map String.toList

/-- Write lines; the last one is complete if it was so in the input. -/
def sayLines (target : Target) (isComplete : Bool) (lines : List (List Char)) : Run Unit :=
  let text := List.intercalate ['\n'] lines
  say target (String.ofList (if isComplete && !lines.isEmpty then text ++ ['\n'] else text))

def openComplaint (program name : String) (cause : FileCause) : String :=
  s!"{program}: {name}: {cause.words}"

/-! ## Cutting -/

def rangesOf (list : String) (n : Nat) : Bool :=
  (split ',' list).any fun range =>
    match split '-' range with
    | [one] => n == digitsValue one.toList
    | [low, high] =>
        (low.isEmpty || digitsValue low.toList ≤ n) && (high.isEmpty || n ≤ digitsValue high.toList)
    | _ => false

def selected {α : Type} (isTurned : Bool) (list : String) (items : List α) : List α :=
  (items.zipIdx.filter fun entry => rangesOf list (entry.2 + 1) != isTurned).map (·.1)

/-- What is left of a line; nothing when it is dropped. -/
def cutLine (given : Given) (line : List Char) : Option (List Char) :=
  let isTurned := given.has 'C'
  match given.value? 'f' with
  | some list =>
      let mark := ((given.value? 'd').bind fun s => s.toList.head?).getD '\t'
      if line.contains mark then
        let fields := selected isTurned list (split mark (String.ofList line))
        some (((given.value? 'o').getD (String.singleton mark)).intercalate fields).toList
      else if given.has 's' then none else some line
  | none => match given.value? 'c' <|> given.value? 'b' with
      | some list => some (selected isTurned list line)
      | none => some line

/-- The options of the program that cuts lines; two of them have names only. -/
def cutTable : OptionTable :=
  { plain := "ns", valued := "bcdf"
    names := [("complement", 'C'), ("output-delimiter", 'o'), ("delimiter", 'd'), ("fields", 'f'),
      ("characters", 'c'), ("bytes", 'b'), ("only-delimited", 's')] }

def cut (streams : Streams) (args : List String) : Run Nat :=
  withOptions streams "cut" cutTable args 1 fun given => do
    if !(['c', 'b', 'f'].any given.has) then
      misuse streams "cut" "you must specify a list of bytes, characters, or fields"
    else if given.has 'd' && !given.has 'f' then
      misuse streams "cut"
        "an input delimiter may be specified only when operating on fields"
    else if (given.value? 'd').any fun s => s.length != 1 then
      misuse streams "cut" "the delimiter must be a single character"
    else eachInput streams given.others (openComplaint "cut") fun _ input => do
      let (lines, _) := linesOf (← allBytes input)
      sayLines streams.out true (lines.filterMap (cutLine given))

/-! ## Comparing -/

def runsOf (folds : Bool) (lines : List (List Char)) : List (List Char × Nat) :=
  let same (a b : List Char) : Bool :=
    if folds then a.map Char.toLower == b.map Char.toLower else a == b
  (lines.foldl (fun runs line =>
    match runs with
    | (first, count) :: rest =>
        if same first line then (first, count + 1) :: rest else (line, 1) :: runs
    | [] => [(line, 1)]) []).reverse

def unique (streams : Streams) (args : List String) : Run Nat := do
  let (options, names) := optionsOf ['f', 's', 'w'] args
  eachInput streams (names.take 1) (openComplaint "uniq") fun _ input => do
    let (lines, _) := linesOf (← allBytes input)
    let runs := (runsOf (hasOption options 'i') lines).filter fun run =>
      (!hasOption options 'd' || 1 < run.2) && (!hasOption options 'u' || run.2 == 1)
    sayLines streams.out true <| runs.map fun (line, count) =>
      if hasOption options 'c' then (padLeft 7 (toString count) ++ " ").toList ++ line else line

def backwards (streams : Streams) (args : List String) : Run Nat :=
  eachInput streams args (fun name cause =>
      s!"tac: failed to open '{name}' for reading: {cause.words}") fun _ input => do
    write streams.out (joinLines (splitLines (← allBytes input)).reverse)

def turned (streams : Streams) (args : List String) : Run Nat :=
  eachInput streams args (fun name cause => s!"rev: cannot open {name}: {cause.words}")
    fun _ input => do
      let (lines, isComplete) := linesOf (← allBytes input)
      sayLines streams.out isComplete (lines.map List.reverse)

def numbered (streams : Streams) (args : List String) : Run Nat := do
  let (options, names) := optionsOf ['b', 'w', 's'] args
  let all := (optionValues options 'b').contains "a"
  eachInput streams names (openComplaint "nl") fun _ input => do
    let (lines, _) := linesOf (← allBytes input)
    let (written, _) := lines.foldl (fun (written, n) line =>
      if line.isEmpty && !all then ("       ".toList :: written, n)
      else (((padLeft 6 (toString n) ++ "\t").toList ++ line) :: written, n + 1)) ([], 1)
    sayLines streams.out true written.reverse

/-! ## Searching -/

structure Search where
  options : List (Char × String)
  expressions : List Regular

namespace Search

def has (search : Search) (c : Char) : Bool := hasOption search.options c

/-- Where a line fits; whole lines or whole words on demand. -/
def find? (search : Search) (text : Array Char) (start : Nat) : Option Regular.Found :=
  let isWhole (found : Regular.Found) : Bool :=
    let free (c? : Option Char) : Bool := !(c?.map Regular.isWordChar).getD false
    (!search.has 'x' || (found.first == 0 && found.last == text.size)) &&
      (!search.has 'w' || (free text[found.last]? &&
        (found.first == 0 || free text[found.first - 1]?)))
  (search.expressions.filterMap fun expression => expression.find? text start).foldl
    (fun best found =>
      if !isWhole found then best
      else match best with
        | some (b : Regular.Found) => if found.first < b.first then some found else best
        | none => some found) none

def fits (search : Search) (line : List Char) : Bool :=
  (search.find? line.toArray 0).isSome != search.has 'v'

def parts (search : Search) (line : Array Char) : Nat → Nat → List (List Char)
  | 0, _ => []
  | fuel + 1, start =>
      match search.find? line start with
      | none => []
      | some found =>
          let rest := parts search line fuel (max found.last (found.first + 1))
          if found.first == found.last then rest
          else Regular.part line found.first found.last :: rest

end Search

def literally (folds : Bool) (text : List Char) : Regular :=
  text.foldl (fun seen c => .both seen (.one (Regular.same ⟨false, folds⟩ c))) .nothing

def search (program : String) (streams : Streams) (args : List String) : Run Nat := do
  let (options, others) := optionsOf ['e', 'm', 'A', 'B', 'C'] args
  let (patterns, names) := match optionValues options 'e', others with
    | [], pattern :: names => ([pattern], names)
    | patterns, names => (patterns, names)
  let folds := hasOption options 'i' || hasOption options 'y'
  let form : Regular.Form := ⟨hasOption options 'E' || program == "egrep", folds⟩
  let read? (pattern : String) : Option Regular :=
    if hasOption options 'F' || program == "fgrep" then some (literally folds pattern.toList)
    else Regular.ofText? form pattern.toList
  let expressions := (patterns.flatMap (split '\n')).filterMap read?
  if patterns.isEmpty then
    say streams.err
      "Usage: grep [OPTION]... PATTERNS [FILE]...\nTry 'grep --help' for more information.\n"
    return 2
  let search : Search := ⟨options, expressions⟩
  let mut found := false
  let mut failed := false
  for name in if names.isEmpty then ["-"] else names do
    let input ← if name == "-" then pure (.ok (← shell).input) else openInput name
    match input with
    | .error cause => do
        failed := true
        if !search.has 's' then
          let words := match cause with
            | .isDirectory => s!"grep: {name}: Is a directory\n"
            | cause => openComplaint "grep" name cause ++ "\n"
          say streams.err words
    | .ok input => do
        let (lines, _) := linesOf (← allBytes input)
        let fitting := lines.zipIdx.filter fun entry => search.fits entry.1
        let fitting := match optionValues options 'm' with
          | most :: _ => fitting.take (digitsValue most.toList)
          | [] => fitting
        if !fitting.isEmpty then found := true
        let shown := if name == "-" then "(standard input)" else name
        let lead := if (1 < names.length && !search.has 'h') || search.has 'H' then shown ++ ":"
          else ""
        if search.has 'q' then pure ()
        else if search.has 'l' then
          if !fitting.isEmpty then say streams.out (shown ++ "\n")
        else if search.has 'c' then say streams.out s!"{lead}{fitting.length}\n"
        else for (line, index) in fitting do
          let lead := if search.has 'n' then s!"{lead}{index + 1}:" else lead
          let texts := if search.has 'o' then
            search.parts line.toArray (line.length + 1) 0 else [line]
          for text in texts do say streams.out (lead ++ String.ofList text ++ "\n")
  return if failed && !(found && search.has 'q') then 2 else if found then 0 else 1

/-! ## Editing -/

def partAt (position number : Nat) : List Nat → Nat × Nat
  | [] | [_] => (number, position)
  | length :: rest =>
      if position ≤ length then (number, position)
      else partAt (position - length - 1) (number + 1) rest

def edit (streams : Streams) (args : List String) : Run Nat := do
  let (options, others) := optionsOf ['e', 'f'] args
  let (scripts, names) := match optionValues options 'e', others with
    | [], script :: names => ([script], names)
    | scripts, names => (scripts, names)
  let script := ("\n".intercalate scripts).toList
  let form : Regular.Form := ⟨hasOption options 'E' || hasOption options 'r', false⟩
  let quiet := hasOption options 'n'
  match Editing.commands form script with
  | .error fault => do
      let (number, position) := partAt fault.position 1 (scripts.map String.length)
      say streams.err s!"sed: -e expression #{number}, char {position}: {fault.words}\n"
      return 1
  | .ok commands =>
      if hasOption options 'i' then
        let mut status := 0
        for name in names do
          match ← openInput name with
          | .error cause => do
              say streams.err s!"sed: can't read {name}: {cause.words}\n"
              status := 2
          | .ok input => do
              let (lines, isComplete) := linesOf (← allBytes input)
              match ← openFile false name with
              | .ok target => sayLines target isComplete (Editing.edited quiet commands lines).1
              | .error _ => status := 4
        return status
      else do
        let (_, bytes) ← collected fun target => do
          eachInput ⟨target, streams.err⟩ names
            (fun name cause => s!"sed: can't read {name}: {cause.words}") fun _ input => do
              write target (← allBytes input)
        let readable ← names.allM fun name => do
          return name == "-" || (← openInput name).toOption.isSome
        let (lines, isComplete) := linesOf bytes
        let (written, status) := Editing.edited quiet commands lines
        sayLines streams.out isComplete written
        return if status != 0 then status else if readable then 0 else 2

/-! ## Joining and encoding -/

def paste (streams : Streams) (args : List String) : Run Nat := do
  let (options, names) := optionsOf ['d'] args
  let mark := ((optionValues options 'd').head?).getD "\t"
  let mut columns : List (List (List Char)) := []
  for name in if names.isEmpty then ["-"] else names do
    let input ← if name == "-" then pure (.ok (← shell).input) else openInput name
    match input with
    | .ok input => columns := columns ++ [(linesOf (← allBytes input)).1]
    | .error cause => do
        say streams.err (openComplaint "paste" name cause ++ "\n")
        return 1
  let rows := if hasOption options 's' then columns
    else
      let height := (columns.map List.length).foldl max 0
      (List.range height).map fun i => columns.map fun column => (column[i]?).getD []
  sayLines streams.out true (rows.map fun row => List.intercalate mark.toList row)
  return 0

def wrapped (width : Nat) : Nat → List Char → List (List Char)
  | 0, cs => [cs]
  | fuel + 1, cs =>
      if cs.length ≤ width then [cs] else cs.take width :: wrapped width fuel (cs.drop width)

def encoded (streams : Streams) (args : List String) : Run Nat :=
  let table : OptionTable :=
    { plain := "di", valued := "w"
      names := [("decode", 'd'), ("wrap", 'w'), ("ignore-garbage", 'i')] }
  withOptions streams "base64" table args 1 fun given => do
    let width := match given.value? 'w' with
      | some width => digitsValue width.toList
      | none => 76
    eachInput streams (given.others.take 1) (openComplaint "base64") fun _ input => do
      let bytes ← allBytes input
      if given.has 'd' then
        write streams.out ((Base64.decode? (Utf8.decodeLossy bytes)).getD ByteArray.empty)
      else do
        let text := (Base64.encode bytes).toList
        if width == 0 then say streams.out (String.ofList text)
        else if !text.isEmpty then sayLines streams.out true (wrapped width text.length text)

def digests (streams : Streams) (args : List String) : Run Nat :=
  eachInput streams args (openComplaint "sha256sum") fun name input => do
    say streams.out (Sha256.hex (← allBytes input) ++ "  " ++ name ++ "\n")

/-! ## Ordering -/

def leadingNumber (line : List Char) : Float :=
  let (negative, rest) := Number.takeSign (line.dropWhile fun c => c == ' ' || c == '\t')
  let whole := rest.takeWhile isAsciiDigit
  let fraction := match rest.drop whole.length with
    | '.' :: more => more.takeWhile isAsciiDigit
    | _ => []
  Number.ofDecimal negative (whole ++ fraction) (-fraction.length)

def orderKey (options : List (Char × String)) (line : List Char) : List Char :=
  match optionValues options 'k' with
  | [] => line
  | place :: _ =>
      let number := digitsValue (place.toList.takeWhile isAsciiDigit)
      match optionValues options 't' with
      | mark :: _ =>
          let c := (mark.toList.head?).getD ' '
          ((String.singleton c).intercalate
            ((split c (String.ofList line)).drop (number - 1))).toList
      | [] => (List.range (number - 1)).foldl (fun rest _ =>
          (rest.dropWhile (· == ' ')).dropWhile (· != ' ')) line

def sortLines (streams : Streams) (args : List String) : Run Nat := do
  let (options, names) := optionsOf ['k', 't', 'o'] args
  let (status, bytes) ← collected fun target =>
    eachInput ⟨target, streams.err⟩ names
      (fun name cause => s!"sort: cannot read: {name}: {cause.words}") fun _ input => do
        let bytes ← allBytes input
        write target bytes
        if bytes.size != 0 && bytes[bytes.size - 1]? != some 10 then write target (charBytes '\n')
  if (← resume status) != 0 then return 2
  let (lines, _) := linesOf bytes
  let byNumber := hasOption options 'n' ||
    (optionValues options 'k').any fun place => place.contains 'n'
  let folds := hasOption options 'f'
  let before (a b : List Char) : Bool :=
    let (a, b) := (orderKey options a, orderKey options b)
    if byNumber then decide (leadingNumber a < leadingNumber b)
    else if folds then decide (a.map Char.toUpper < b.map Char.toUpper)
    else decide (a < b)
  let turned (a b : List Char) : Bool := if hasOption options 'r' then before b a else before a b
  let ordered := lines.mergeSort fun a b =>
    !(turned b a || (!before a b && !before b a && !hasOption options 's' &&
      (if hasOption options 'r' then decide (a < b) else decide (b < a))))
  let kept := if hasOption options 'u' then
      (ordered.foldl (fun kept line => match kept with
        | last :: _ => if !before last line && !before line last then kept else line :: kept
        | [] => [line]) []).reverse
    else ordered
  match optionValues options 'o' with
  | name :: _ => match ← openFile false name with
      | .ok target => sayLines target true kept
      | .error _ => return 2
  | [] => sayLines streams.out true kept
  return 0

def compareFiles (streams : Streams) (args : List String) : Run Nat := do
  let (options, names) := optionsOf [] args
  match names with
  | [first, second] => do
      match ← openInput first, ← openInput second with
      | .ok a, .ok b => do
          let (a, b) := ((← allBytes a).toList, (← allBytes b).toList)
          if a == b then return 0
          let quiet := hasOption options 's'
          let same := ((a.zip b).takeWhile fun pair => pair.1 == pair.2).length
          if !quiet then
            if same == a.length || same == b.length then
              let short := if same == a.length then first else second
              let line := (a.take same).countP (· == 10)
              let place := if same == 0 then " which is empty"
                else s!" after byte {same}, " ++
                  (if line == 0 then "in line 1" else s!"line {line}")
              say streams.err s!"cmp: EOF on {short}{place}\n"
            else
              let line := (a.take same).countP (· == 10) + 1
              say streams.out s!"{first} {second} differ: byte {same + 1}, line {line}\n"
          return 1
      | .error cause, _ => do
          say streams.err (openComplaint "cmp" first cause ++ "\n")
          return 2
      | _, .error cause => do
          say streams.err (openComplaint "cmp" second cause ++ "\n")
          return 2
  | _ => misuse streams "cmp" "missing operand"

/-- Break lines so that none is longer than a width. -/
def folded (streams : Streams) (args : List String) : Run Nat := do
  let (options, names) := optionsOf ['w'] args
  let width := match optionValues options 'w' with
    | width :: _ => digitsValue width.toList
    | [] => 80
  eachInput streams names (openComplaint "fold") fun _ input => do
    let (lines, isComplete) := linesOf (← allBytes input)
    sayLines streams.out isComplete (lines.flatMap fun line => wrapped width line.length line)

/-! ## Computing -/

namespace Term

def number? (s : String) : Option Int :=
  let (negative, ds) := match s.toList with
    | '-' :: rest => (true, rest)
    | cs => (false, cs)
  if ds.isEmpty || !ds.all isAsciiDigit then none
  else
    let n : Int := digitsValue ds
    some (if negative then -n else n)

def isTrue (s : String) : Bool := s != "" && number? s != some 0

def comparisons : List (String × (Ordering → Bool)) :=
  [("<", (· == .lt)), ("<=", (· != .gt)), ("=", (· == .eq)), ("==", (· == .eq)),
   ("!=", (· != .eq)), (">=", (· != .lt)), (">", (· == .gt))]

def compared (a b : String) : Ordering :=
  match number? a, number? b with
  | some m, some n => compare m n
  | _, _ => compare a b

def fitted (text pattern : String) : Option String := do
  let expression ← Regular.ofText? ⟨false, false⟩ pattern.toList
  let cs := text.toList.toArray
  let hasGroup := contains ['\\', '('] pattern.toList
  let fitted := Regular.fit cs (Regular.fitLimit cs) expression 0 [] fun last taken =>
    some (last, taken)
  match fitted with
  | some (last, taken) =>
      let found : Regular.Found := ⟨0, last, taken⟩
      some (if hasGroup then String.ofList (found.group cs 1) else toString last)
  | none => some (if hasGroup then "" else "0")

inductive Fault where
  | notNumber
  | divisor
  | form

abbrev Outcome := Except Fault (String × List String)

def calculated (f : Int → Int → Except Fault Int) (a b : String) : Except Fault String :=
  match number? a, number? b with
  | some m, some n => (f m n).map toString
  | _, _ => .error .notNumber

def operator? (word : String) : Option (Nat × (String → String → Except Fault String)) :=
  let truth (b : Bool) : Except Fault String := .ok (if b then "1" else "0")
  match word with
  | "|" => some (1, fun a b => .ok (if isTrue a then a else if isTrue b then b else "0"))
  | "&" => some (2, fun a b => .ok (if isTrue a && isTrue b then a else "0"))
  | "+" => some (4, calculated fun m n => .ok (m + n))
  | "-" => some (4, calculated fun m n => .ok (m - n))
  | "*" => some (5, calculated fun m n => .ok (m * n))
  | "/" => some (5, calculated fun m n => if n == 0 then .error .divisor else .ok (m.tdiv n))
  | "%" => some (5, calculated fun m n => if n == 0 then .error .divisor else .ok (m.tmod n))
  | ":" => some (6, fun a b => match fitted a b with
      | some s => .ok s
      | none => .error .form)
  | word => (comparisons.find? fun entry => entry.1 == word).map fun entry =>
      (3, fun a b => truth (entry.2 (compared a b)))

mutual

def value : Nat → List String → Outcome
  | 0, _ => .error .form
  | _, [] => .error .form
  | fuel + 1, word :: rest =>
      match word, rest with
      | "(", rest => do
          let (inner, rest) ← climb fuel 1 rest
          match rest with
          | ")" :: rest => .ok (inner, rest)
          | _ => .error .form
      | "length", text :: rest => .ok (toString text.length, rest)
      | "substr", text :: first :: count :: rest =>
          match number? first, number? count with
          | some first, some count =>
              if first ≤ 0 || count ≤ 0 then .ok ("", rest)
              else .ok (String.ofList ((text.toList.drop (first.toNat - 1)).take count.toNat), rest)
          | _, _ => .ok ("", rest)
      | "index", text :: set :: rest =>
          .ok (toString (((text.toList.findIdx? fun c => set.toList.contains c).map
            (· + 1)).getD 0), rest)
      | word, rest => .ok (word, rest)
termination_by structural fuel => fuel

/-- A term whose operators bind at least so strongly. -/
def climb : Nat → Nat → List String → Outcome
  | 0, _, _ => .error .form
  | fuel + 1, least, words => do
      let (first, rest) ← value fuel words
      joined fuel least first rest
termination_by structural fuel => fuel

def joined : Nat → Nat → String → List String → Outcome
  | 0, _, _, _ => .error .form
  | _, _, first, [] => .ok (first, [])
  | fuel + 1, least, first, word :: rest =>
      match operator? word with
      | none => .ok (first, word :: rest)
      | some (strength, apply) =>
          if strength < least then .ok (first, word :: rest)
          else do
            let (second, rest) ← climb fuel (strength + 1) rest
            let result ← apply first second
            joined fuel least result rest
termination_by structural fuel => fuel

end

end Term

def compute (streams : Streams) (args : List String) : Run Nat := do
  let complain (words : String) : Run Nat := do
    say streams.err s!"expr: {words}\n"
    return 2
  if args.isEmpty then
    say streams.err "expr: missing operand\nTry 'expr --help' for more information.\n"
    return 2
  match Term.climb (2 * args.length + 2) 1 args with
  | .ok (result, []) => do
      say streams.out (result ++ "\n")
      return if Term.isTrue result then 0 else 1
  | .ok (_, word :: _) => complain s!"syntax error: unexpected argument ‘{word}’"
  | .error .notNumber => complain "non-integer argument"
  | .error .divisor => complain "division by zero"
  | .error .form => do
      let last := args.getLast?.getD ""
      complain s!"syntax error: missing argument after ‘{last}’"

/-! ## All programs for lines -/

def lineProgramNames : List String :=
  ["sort", "cmp", "fold", "cut", "uniq", "tac", "rev", "nl", "grep", "egrep", "fgrep", "sed",
   "paste", "base64", "sha256sum", "expr"]

def lineProgram? (streams : Streams) (name : String) (args : List String) : Option (Run Nat) :=
  match name with
  | "sort" => some (sortLines streams args)
  | "cmp" => some (compareFiles streams args)
  | "fold" => some (folded streams args)
  | "cut" => some (cut streams args)
  | "uniq" => some (unique streams args)
  | "tac" => some (backwards streams args)
  | "rev" => some (turned streams args)
  | "nl" => some (numbered streams args)
  | "grep" | "egrep" | "fgrep" => some (search name streams args)
  | "sed" => some (edit streams args)
  | "paste" => some (paste streams args)
  | "base64" => some (encoded streams args)
  | "sha256sum" => some (digests streams args)
  | "expr" => some (compute streams args)
  | _ => none

end StillMotion.Scripting
