import StillMotion.Scripting.Arithmetic
import StillMotion.Scripting.Field
import StillMotion.Scripting.Search
import StillMotion.Scripting.Signal

/-!
# Commands of the shell

The commands that change what only the shell itself can change: its directory, its variables,
its arguments and its options.  A special one of them ends the script when it is misused.
-/

namespace StillMotion.Scripting

open StillMotion.Text Run

/-! ## Names -/

def specialNames : List String :=
  [":", ".", "break", "continue", "eval", "exec", "exit", "export", "local", "readonly", "return",
   "set", "shift", "times", "trap", "unset"]

def includedPrograms : List String :=
  ["echo", "printf", "test", "[", "true", "false", "pwd"]

def regularNames : List String :=
  ["cd", "command", "kill", "read", "wait", "getopts", "umask", "ulimit", "hash", "alias",
   "unalias", "jobs", "fg", "bg", "type"]

def isBuiltIn (name : String) : Bool :=
  specialNames.contains name || includedPrograms.contains name || regularNames.contains name

/-! ## Reports -/

def misused : Nat := 2

def refuse {α : Type} (streams : Streams) (line : Nat) (message : String) : Run α := do
  report streams line message
  stop (.exit misused)

def refuseHere {α : Type} (streams : Streams) (line : Nat) (message : String) : Run α := do
  refuse streams line ((← shell).context ++ message)

def reject (streams : Streams) (line : Nat) (message : String) : Run Nat := do
  report streams line message
  return misused

def openWords : FileCause → String
  | .notFound | .notDirectory => "No such file"
  | cause => cause.words

def createWords : FileCause → String
  | .notFound | .notDirectory => "Directory nonexistent"
  | cause => cause.words

def notFoundStatus : Nat := 127

def startFault (name : String) : FileCause → Nat × String
  | .permission => (126, s!"{name}: Permission denied")
  | _ => (notFoundStatus, s!"{name}: not found")

def announce (streams : Streams) (signal : Nat) : Run Unit := do
  match obituary? signal with
  | some words => say streams.err (words ++ "\n")
  | none => pure ()

/-! ## Counts -/

def greatestCount : Nat := 0x7FFFFFFF

def count? (arg : String) : Option Nat :=
  if arg.isEmpty || !arg.toList.all isAsciiDigit then none
  else
    let n := digitsValue arg.toList
    if n ≤ greatestCount then some n else none

def countOf (streams : Streams) (line : Nat) (command : String) (otherwise : Nat)
    (args : List String) : Run Nat := do
  match args with
  | [] => return otherwise
  | arg :: _ =>
      match count? arg with
      | some n => return n
      | none => refuse streams line s!"{command}: Illegal number: {arg}"

def statusOf (n : Nat) : Nat := n % 256

/-! ## Variables -/

/-- Give a variable its value unless it is fixed; the report says which command meant to do so,
if it was one. -/
def setVariable (streams : Streams) (line : Nat) (command : Option String) (name value : String) :
    Run Unit := do
  let s ← shell
  if s.fixed.contains name then
    let context := (command.map fun c => c ++ ": ").getD s.context
    refuse streams line s!"{context}{name}: is read only"
  assign name value

def assignmentOf (arg : String) : String × Option String :=
  match cut? '=' arg.toList with
  | some (name, value) => (String.ofList name, some (String.ofList value))
  | none => (arg, none)

def markVariables (streams : Streams) (line : Nat) (command : String)
    (mark : String → Shell → Shell) (args : List String) : Run Nat := do
  for arg in args.filter fun a => a != "-p" do
    let (name, value) := assignmentOf arg
    if !isName name.toList then refuse streams line s!"{command}: {name}: bad variable name"
    match value with
    | some text => setVariable streams line (some command) name text
    | none => pure ()
    change (mark name)
  return 0

def Shell.withExported (name : String) (s : Shell) : Shell :=
  { s with exported := name :: s.exported }

def Shell.withFixed (name : String) (s : Shell) : Shell := { s with fixed := name :: s.fixed }

def restoreVariables (values : List (String × Option String)) (s : Shell) : Shell :=
  values.foldl (fun s (name, value) =>
    match value with
    | some text => { s with environment := withValue name text s.environment }
    | none =>
        { s with
          environment := s.environment.filter fun entry => entry.1 != name
          exported := s.exported.filter (· != name) }) s

def makeLocal (streams : Streams) (line : Nat) (args : List String) : Run Nat := do
  if (← shell).hidden.isNone then refuse streams line "local: not in a function"
  for arg in args do
    let name := (assignmentOf arg).1
    let before ← valueOf name
    change fun s => { s with hidden := s.hidden.map ((name, before) :: ·) }
  markVariables streams line "local" (fun _ s => s) args

def removeVariables (streams : Streams) (line : Nat) (args : List String) : Run Nat := do
  match args with
  | "-f" :: names => do
      change fun s =>
        { s with functions := s.functions.filter fun entry => !names.contains entry.1 }
      return 0
  | args => do
      for name in args.filter fun a => a != "-v" do
        if (← shell).fixed.contains name then
          refuse streams line s!"unset: {name}: is read only"
        change (restoreVariables [(name, none)])
      return 0

/-! ## Options -/

def optionLetters : List (String × Char) :=
  [("errexit", 'e'), ("noglob", 'f'), ("ignoreeof", 'I'), ("interactive", 'i'), ("monitor", 'm'),
   ("noexec", 'n'), ("stdin", 's'), ("xtrace", 'x'), ("verbose", 'v'), ("vi", 'V'),
   ("emacs", 'E'), ("noclobber", 'C'), ("allexport", 'a'), ("notify", 'b'), ("nounset", 'u')]

def Shell.withOption (isOn : Bool) (s : Shell) (letter : Char) : Shell :=
  match letter with
  | 'e' => { s with stopsOnFailure := isOn }
  | 'u' => { s with stopsOnMissing := isOn }
  | 'x' => { s with showsCommands := isOn }
  | _ => s

/-- Set the options that arguments begin with.  The outcome is their letters and the other
arguments, or the option that there is not.  `further` are the letters of further options. -/
def takeOptions (further seen : List Char) :
    List String → Run (Except String (List Char × List String))
  | [] => return .ok (seen, [])
  | "--" :: rest => return .ok (seen, rest)
  | arg :: rest => do
      let letters := arg.toList.drop 1
      let isOption := !letters.isEmpty && (arg.startsWith "-" || arg.startsWith "+")
      if !isOption then return .ok (seen, arg :: rest)
      let known := 'o' :: further ++ optionLetters.map (·.2)
      match letters.find? fun letter => !known.contains letter with
      | some letter => return .error s!"-{letter}"
      | none => do
          let isOn := arg.startsWith "-"
          change fun s => letters.foldl (Shell.withOption isOn) s
          if !letters.contains 'o' then takeOptions further (seen ++ letters) rest
          else match rest with
            | [] => return .ok (seen ++ letters, [])
            | name :: rest =>
                match optionLetters.find? fun entry => entry.1 == name with
                | none => return .error s!"-o {name}"
                | some (_, letter) => do
                    change fun s => s.withOption isOn letter
                    takeOptions further (seen ++ letters) rest

def setOptions (streams : Streams) (line : Nat) (args : List String) : Run Nat := do
  match ← takeOptions [] [] args with
  | .error option => refuse streams line s!"set: Illegal option {option}"
  | .ok (_, rest) => do
      if !rest.isEmpty || args.contains "--" then
        change fun s => { s with arguments := rest }
      return 0

def shift (streams : Streams) (line : Nat) (args : List String) : Run Nat := do
  let n ← countOf streams line "shift" 1 args
  if (← shell).arguments.length < n then refuse streams line "shift: can't shift that many"
  change fun s => { s with arguments := s.arguments.drop n }
  return 0

/-! ## Directories and input -/

def changeDirectory (streams : Streams) (line : Nat) (args : List String) : Run Nat := do
  match args.filter fun a => a != "--" with
  | [] => return 0
  | target :: _ => do
      let s ← shell
      let place? := (s.files.locate s.directory (Path.ofText target)).toOption
      match place?.filter s.files.isDirectory with
      | some place => do
          change fun s => { s with directory := place }
          return 0
      | none => reject streams line s!"cd: can't cd to {target}"

/-- The bytes of a line, whether a line end follows them, and the bytes after it.  A backslash
keeps what follows it, unless the line is taken as it is; before a line end it joins two lines. -/
def takeLine (asIs : Bool) : List UInt8 → List UInt8 × Bool × List UInt8
  | [] => ([], false, [])
  | b :: rest =>
      if b == 10 then ([], true, rest)
      else if b == 92 && !asIs then
        match rest with
        | [] => ([], false, [])
        | c :: more =>
            let (line, isEnded, after) := takeLine asIs more
            (if c == 10 then line else b :: c :: line, isEnded, after)
      else
        let (line, isEnded, after) := takeLine asIs rest
        (b :: line, isEnded, after)

def readLine (streams : Streams) (line : Nat) (args : List String) : Run Nat := do
  let asIs := args.contains "-r"
  let names := args.filter fun a => !a.startsWith "-"
  if names.isEmpty then return ← reject streams line "read: arg count"
  match names.find? (← shell).fixed.contains with
  | some name => return ← reject streams line s!"read: {name}: is read only"
  | none => pure ()
  let bytes ← allBytes (← shell).input
  let (taken, isEnded, rest) := takeLine asIs bytes.toList
  change fun s => { s with input := .bytes ⟨rest.toArray⟩ }
  let text := (Utf8.decodeLossy ⟨taken.toArray⟩).toList
  let parts := lineParts (separatorsOf (← shell).environment) names.length text
  for (name, part) in names.zip parts do
    assign name (String.ofList (if asIs then part else withoutBackslashes part))
  return if isEnded then 0 else 1

/-! ## Traps and signals -/

def setTraps (streams : Streams) (args : List String) : Run Nat := do
  let (action, names) := match args with
    | [name] => (none, [name])
    | "-" :: names => (none, names)
    | action :: names => (some action, names)
    | [] => (none, [])
  for name in names do
    match signal? name with
    | none => do
        say streams.err s!"trap: {name}: bad trap\n"
        return 1
    | some signal =>
        change fun s =>
          { s with
            traps := s.traps.filter (fun entry => entry.1 != signal) ++
              action.toList.map fun text => (signal, text) }
  return 0

def killUsage : String :=
  "Usage: kill [-s sigspec | -signum | -sigspec] [pid | job]... or\nkill -l [exitstatus]"

def killTargets (args : List String) : Except String (Nat × List String) := do
  let (signal, targets) ← match args with
    | "-s" :: name :: rest =>
        match signal? name with
        | some signal => .ok (signal, rest)
        | none => .error s!"invalid signal number or name: {name}"
    | first :: rest =>
        if first.startsWith "-" then
          match signal? (first.drop 1).toString with
          | some signal => .ok (signal, rest)
          | none => .error s!"Illegal option {first.take 2}"
        else .ok (terminate, first :: rest)
    | [] => .ok (terminate, [])
  if targets.isEmpty then .error killUsage else .ok (signal, targets)

end StillMotion.Scripting
