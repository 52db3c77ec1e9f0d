import StillMotion.Scripting.FilePrograms

/-!
# Programs by their names

Programs that wait, count, take names apart and tell variables, and the table of all programs that
work on whole texts and on files.
-/

namespace StillMotion.Scripting

open StillMotion.Text StillMotion.Number Run

/-! ## Numbers and names -/

def duration? (s : String) : Option Float :=
  let cs := s.toList
  let (factor, cs) := match cs.reverse with
    | 's' :: rest => (1.0, rest.reverse)
    | 'm' :: rest => (60.0, rest.reverse)
    | 'h' :: rest => (3600.0, rest.reverse)
    | 'd' :: rest => (86400.0, rest.reverse)
    | _ => (1.0, cs)
  (real? cs).map fun x => factor * x

def sleepProgram (streams : Streams) (args : List String) : Run Nat := do
  if args.isEmpty then misuse streams "sleep" "missing operand"
  else match args.find? fun a => (duration? a).isNone with
    | some wrong => misuse streams "sleep" s!"invalid time interval ‘{wrong}’"
    | none => do
        wait ((args.filterMap duration?).foldl (· + ·) 0.0)
        return 0

structure Decimal where
  digits : Int
  places : Nat

namespace Decimal

def ofText? (s : String) : Option Decimal :=
  let (isNegative, cs) := takeSign (trimLeft s.toList)
  let whole := cs.takeWhile isAsciiDigit
  let fraction? := match cs.drop whole.length with
    | [] => some []
    | '.' :: rest => if rest.all isAsciiDigit then some rest else none
    | _ => none
  fraction?.bind fun fraction =>
    if whole.isEmpty && fraction.isEmpty then none
    else
      let n : Int := digitsValue (whole ++ fraction)
      some ⟨if isNegative then -n else n, fraction.length⟩

def scaled (places : Nat) (d : Decimal) : Int := d.digits * Int.pow 10 (places - d.places)

def text (d : Decimal) : String :=
  let digits := Nat.toDigits 10 d.digits.natAbs
  let digits := List.replicate (d.places + 1 - digits.length) '0' ++ digits
  let whole := digits.take (digits.length - d.places)
  let fraction := digits.drop (digits.length - d.places)
  String.ofList ((if d.digits < 0 then ['-'] else []) ++ whole ++
    (if fraction.isEmpty then [] else '.' :: fraction))

end Decimal

def numbersFrom (first step last : Int) : List Int :=
  if step == 0 then []
  else
    let steps := Int.fdiv (last - first) step
    (List.range (steps + 1).toNat).map fun (n : Nat) => first + step * n

def decimalsFrom (first step last : Decimal) : List Decimal :=
  let places := max first.places step.places
  let scale := max places last.places
  (numbersFrom (first.scaled scale) (step.scaled scale) (last.scaled scale)).map fun n =>
    ⟨n / Int.pow 10 (scale - places), places⟩

def zeroFilled (width : Nat) (text : String) : String :=
  let (sign, digits) := if text.startsWith "-" then ("-", (text.drop 1).toString) else ("", text)
  sign ++ String.ofList (List.replicate (width - text.length) '0') ++ digits

structure CountOptions where
  separator : String := "\n"
  hasSameWidth : Bool := false

def countOptions : CountOptions → List String → CountOptions × List String
  | options, "-w" :: rest => countOptions { options with hasSameWidth := true } rest
  | options, "-s" :: separator :: rest => countOptions { options with separator } rest
  | options, arg :: rest =>
      if arg.startsWith "-s" then
        countOptions { options with separator := (arg.drop 2).toString } rest
      else (options, arg :: rest)
  | options, [] => (options, [])

def countUp (streams : Streams) (args : List String) : Run Nat := do
  let (options, args) := countOptions {} args
  match args.find? fun a => (Decimal.ofText? a).isNone with
  | some wrong => misuse streams "seq" s!"invalid floating point argument: ‘{wrong}’"
  | none => do
      let one : Decimal := ⟨1, 0⟩
      let tell (numbers : List Decimal) : Run Nat := do
        let texts := numbers.map Decimal.text
        let width := (texts.map String.length).foldl max 0
        let texts := if options.hasSameWidth then texts.map (zeroFilled width) else texts
        if !texts.isEmpty then
          say streams.out (options.separator.intercalate texts ++ "\n")
        return 0
      match args.filterMap Decimal.ofText? with
      | [] => misuse streams "seq" "missing operand"
      | [last] => tell (decimalsFrom one one last)
      | [first, last] => tell (decimalsFrom first one last)
      | [first, step, last] =>
          if step.digits == 0 then
            let wrong := args.getD 1 ""
            misuse streams "seq" s!"invalid Zero increment value: ‘{wrong}’"
          else tell (decimalsFrom first step last)
      | _ =>
          let extra := args.getD 3 ""
          misuse streams "seq" s!"extra operand ‘{extra}’"

def lastName (ending : String) (arg : String) : String :=
  let path := Path.ofText arg
  let names := (split '/' arg).filter (!·.isEmpty)
  let name := names.getLast?.getD (if path.isAbsolute then "/" else "")
  if !ending.isEmpty && name != ending && name.endsWith ending then
    (name.dropEnd ending.length).toString
  else name

def baseName (streams : Streams) (args : List String) : Run Nat :=
  let table : OptionTable :=
    { plain := "az", valued := "s", names := [("multiple", 'a'), ("suffix", 's')] }
  withOptions streams "basename" table args 1 fun given => do
    let ending? := given.value? 's'
    match given.others with
    | [] => misuse streams "basename" "missing operand"
    | names =>
        if given.has 'a' || ending?.isSome then
          for name in names do say streams.out (lastName (ending?.getD "") name ++ "\n")
          return 0
        else match names with
          | _ :: _ :: extra :: _ => misuse streams "basename" s!"extra operand ‘{extra}’"
          | name :: more => do
              say streams.out (lastName (more.head?.getD "") name ++ "\n")
              return 0
          | [] => return 0

def leadingPath (arg : String) : String :=
  let cs := arg.toList.reverse.dropWhile (· == '/')
  let before := (cs.dropWhile (· != '/')).dropWhile (· == '/')
  if !before.isEmpty then String.ofList before.reverse
  else if arg.startsWith "/" then "/" else "."

def directoryName (streams : Streams) (args : List String) : Run Nat :=
  withOptions streams "dirname" { plain := "z" } args 1 fun given => do
    if given.others.isEmpty then misuse streams "dirname" "missing operand"
    else do
      for name in given.others do say streams.out (leadingPath name ++ "\n")
      return 0

def printVariables (streams : Streams) : Run Nat := do
  let s ← shell
  let seen := s.environment.filter fun entry => s.exported.contains entry.1
  say streams.out (String.join (seen.map fun (k, v) => k ++ "=" ++ v ++ "\n"))
  return 0

def printValues (streams : Streams) (args : List String) : Run Nat := do
  if args.isEmpty then printVariables streams
  else do
    let mut status := 0
    for name in args do
      match ← valueOf name with
      | some text => say streams.out (text ++ "\n")
      | none => status := 1
    return status

def placeText (place : Place) : String := "/" ++ "/".intercalate place

def printDirectory (streams : Streams) : Run Nat := do
  say streams.out (placeText (← shell).directory ++ "\n")
  return 0

/-! ## All programs -/

def shellNames : List String := ["sh", "dash", "bash"]

def programNames : List String :=
  ["true", "false", "echo", "printf", "test", "[", "cat", "wc", "head", "tail", "tee", "tr",
   "yes", "dd", "truncate", "ls", "mkdir", "rm", "rmdir", "touch", "cp", "mv", "chmod",
   "sleep", "seq", "basename", "dirname", "pwd", "printenv"]

def program? (streams : Streams) (name : String) (args : List String) : Option (Run Nat) :=
  match name with
  | "true" => some (pure 0)
  | "false" => some (pure 1)
  | "echo" => some (echo streams args)
  | "printf" => some (formatText streams none args)
  | "test" | "[" => some (test streams none name args)
  | "cat" => some (cat streams args)
  | "wc" => some (count streams args)
  | "head" => some (firstPart streams args)
  | "tail" => some (lastPart streams args)
  | "tee" => some (tee streams args)
  | "tr" => some (translate streams args)
  | "yes" => some (repeatLine streams args)
  | "dd" => some (copyBlocks streams args)
  | "truncate" => some (truncate streams args)
  | "ls" => some (list streams args)
  | "mkdir" => some (makeDirectories streams args)
  | "rm" => some (removeFiles streams args)
  | "rmdir" => some (removeDirectories streams args)
  | "touch" => some (touch streams args)
  | "cp" => some (copy false name streams args)
  | "mv" => some (copy true name streams args)
  | "chmod" => some (changeMode streams args)
  | "sleep" => some (sleepProgram streams args)
  | "seq" => some (countUp streams args)
  | "basename" => some (baseName streams args)
  | "dirname" => some (directoryName streams args)
  | "pwd" => some (printDirectory streams)
  | "env" => some (printVariables streams)
  | "printenv" => some (printValues streams args)
  | _ => none

def includedProgram? (streams : Streams) (line : Nat) (name : String) (args : List String) :
    Option (Run Nat) :=
  match name with
  | "true" => some (pure 0)
  | "false" => some (pure 1)
  | "echo" => some (shellEcho streams args)
  | "printf" => some (formatText streams (some line) args)
  | "test" | "[" => some (test streams (some line) name args)
  | "pwd" => some (printDirectory streams)
  | _ => none

end StillMotion.Scripting
