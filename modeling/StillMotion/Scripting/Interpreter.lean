import StillMotion.Scripting.BuiltIn
import StillMotion.Scripting.ScriptReader

/-!
# Running scripts

Words are expanded and cut into fields; then the command that the first field names is run.
Subshells, jobs and programs run with a setting of their own, which is dropped when they end.
Jobs run when they are waited for, or when they have ended before the script goes on.  A script
whose steps are used up counts as one that does not end.
-/

namespace StillMotion.Scripting

open StillMotion.Text Run

/-! ## Settings -/

/-- Signals that are ignored stay so in other processes; other traps are dropped. -/
def Setting.withoutTraps (s : Setting) : Setting :=
  { s with traps := s.traps.filter fun entry => entry.2.isEmpty }

/-- The setting that a program starts with, which sees only the exported variables. -/
def Setting.forProgram (process : Nat) (s : Setting) : Setting :=
  { s.withoutTraps with
    environment := s.environment.filter fun entry => s.exported.contains entry.1
    fixed := []
    hidden := none
    functions := []
    process
    loops := 0
    status := 0
    stopsOnFailure := false
    stopsOnMissing := false
    showsCommands := false
    context := "" }

def withSetting {α : Type} (enter : Setting → Setting) (act : Run α) : Run α := do
  let before := (← shell).toSetting
  change fun s => { s with toSetting := enter before }
  let result ← caught act
  change fun s => { s with toSetting := before }
  resume result

def finalStatus : Except Stop Nat → Except Stop Nat
  | .ok status => .ok status
  | .error (.exit status) => .ok status
  | .error (.back status) => .ok status
  | .error (.leave _) => .ok 0
  | .error (.again _) => .ok 0
  | .error reason => .error reason

def newProcess : Run Nat := do
  change fun s => { s with started := s.started + 1 }
  return (← shell).started

def checked (isTested : Bool) (status : Nat) : Run Nat := do
  let _ ← setStatus status
  if status != 0 && (← shell).stopsOnFailure && !isTested then stop (.exit status)
  return status

def inLoop (act : Run Nat) : Run (Except Stop Nat) := do
  change fun s => { s with loops := s.loops + 1 }
  let result ← caught act
  change fun s => { s with loops := s.loops - 1 }
  return result

def noteEnd (job : Job) (status : Nat) : Run Unit :=
  change fun s => { s with ended := s.ended ++ [(job.number, status)] }

def withDeadline {α : Type} (deadline : Float) (act : Run α) : Run α := do
  let before := (← shell).deadline
  change fun s => { s with deadline }
  let result ← caught act
  change fun s => { s with deadline := before }
  resume result

def keywords : List String :=
  ["!", "case", "do", "done", "elif", "else", "esac", "fi", "for", "if", "in", "then", "until",
   "while", "\x7b", "\x7d"]

def isFunction (s : Shell) (name : String) : Bool :=
  s.functions.any fun entry => entry.1 == name

/-- What is told of a command by its name; nothing when there is no such command. -/
def commandPlace? (s : Shell) (name : String) : Option String :=
  if keywords.contains name || isFunction s name || isBuiltIn name then some name
  else match startable s.files s.directory (searchedWith s.environment) name with
    | .program _ => some (if name.contains '/' then name else "/usr/bin/" ++ name)
    | .script => some name
    | .missing _ => none

def commandKind (s : Shell) (name : String) : String :=
  match commandPlace? s name with
  | none => ": not found"
  | some place =>
      " is " ++
        (if keywords.contains name then "a shell keyword"
        else if isFunction s name then "a shell function"
        else if specialNames.contains name then "a special shell builtin"
        else if isBuiltIn name then "a shell builtin"
        else place)

def describeAll (streams : Streams) (names : List String) : Run Nat := do
  let s ← shell
  for name in names do say streams.out (name ++ commandKind s name ++ "\n")
  return if names.all fun name => (commandPlace? s name).isSome then 0 else notFoundStatus

def wordsOf (text : String) : List String :=
  ((text.map fun c => if c == '\n' || c == '\t' then ' ' else c).splitOn " ").filter (· != "")

/-- How words become arguments: how many are taken at a time, or the mark in place of which
each line stands; whether zeros end the words; and whether commands are shown. -/
structure Gathering where
  count : Option Nat := none
  mark : Option String := none
  endsAtZeros : Bool := false
  showsCommands : Bool := false
  skipsNone : Bool := false

def gatheringOptions : Gathering → List String → Gathering × List String
  | gathering, "-n" :: count :: rest =>
      gatheringOptions { gathering with count := count? count } rest
  | gathering, "-I" :: mark :: rest =>
      gatheringOptions { gathering with mark := some mark } rest
  | gathering, "-0" :: rest => gatheringOptions { gathering with endsAtZeros := true } rest
  | gathering, "-t" :: rest => gatheringOptions { gathering with showsCommands := true } rest
  | gathering, "-r" :: rest => gatheringOptions { gathering with skipsNone := true } rest
  | gathering, first :: rest =>
      if first.startsWith "-n" then
        gatheringOptions { gathering with count := count? (first.drop 2).toString } rest
      else if first.startsWith "-I" then
        gatheringOptions { gathering with mark := some (first.drop 2).toString } rest
      else if first.startsWith "-" then gatheringOptions gathering rest
      else (gathering, first :: rest)
  | gathering, [] => (gathering, [])

def gathered (gathering : Gathering) (args : List String) (text : String) : List (List String) :=
  match gathering.mark with
  | some mark =>
      let lines := (text.splitOn "\n").map fun line =>
        String.ofList (line.toList.dropWhile fun c => c == ' ' || c == '\t')
      (lines.filter (!·.isEmpty)).map fun line => args.map fun arg => arg.replace mark line
  | none =>
      let words := if gathering.endsAtZeros then
          (text.splitOn (String.singleton (Char.ofNat 0))).filter (!·.isEmpty)
        else wordsOf text
      let each := max 1 (gathering.count.getD (max 1 words.length))
      if words.isEmpty then if gathering.skipsNone then [] else [args]
      else (List.range ((words.length + each - 1) / each)).map fun i =>
        args ++ (words.drop (i * each)).take each

/-- What the program that limits the time of another one is to do: the signal that it sends in
the end, and whether it keeps the status. -/
structure Limiting where
  signal : Nat := terminate
  keepsStatus : Bool := false

/-- The options of the program that limits the time of another one; the name of a signal that
there is not is a fault. -/
def limitingOptions : Limiting → List String → Except String (Limiting × List String)
  | limiting, "-s" :: name :: rest =>
      match signal? name with
      | some signal => limitingOptions { limiting with signal } rest
      | none => .error name
  | limiting, "-k" :: _ :: rest => limitingOptions limiting rest
  | limiting, "--preserve-status" :: rest =>
      limitingOptions { limiting with keepsStatus := true } rest
  | limiting, "--foreground" :: rest => limitingOptions limiting rest
  | limiting, first :: rest =>
      if first.startsWith "--signal=" then
        let name := (first.drop 9).toString
        match signal? name with
        | some signal => limitingOptions { limiting with signal } rest
        | none => .error name
      else if first.startsWith "--kill-after=" then limitingOptions limiting rest
      else .ok (limiting, first :: rest)
  | limiting, [] => .ok (limiting, [])

mutual

def expand (streams : Streams) : Nat → Word → Run (List Piece)
  | 0, _ => stop .expired
  | _, [] => return []
  | fuel + 1, part :: rest => do
      let here ← expandPart streams fuel part
      let more ← expand streams fuel rest
      return here ++ more
termination_by structural fuel => fuel

def expandPart (streams : Streams) : Nat → WordPart → Run (List Piece)
  | 0, _ => stop .expired
  | fuel + 1, part => do
      match part with
      | .literal text isQuoted =>
          return (if isQuoted then [.quotes] else []) ++ textPieces isQuoted false text
      | .arithmetic line expression => do
          let text := wholeText (← expand streams fuel expression)
          let s ← shell
          match Arithmetic.value (fun name => (parameterValue s name).getD "") text with
          | .error fault => refuseHere streams line (fault.words text)
          | .ok (n, target) => do
              for name in target.toList do setVariable streams line none name (toString n)
              return textPieces false true (toString n)
      | .output body isQuoted => do
          let (status, bytes) ← gather streams fuel body
          let _ ← setStatus status
          return textPieces isQuoted true (outputText bytes)
      | .parameter line name use argument isQuoted => do
          let s ← shell
          let value := parameterValue s name
          let text := value.getD ""
          let pieces (cs : List Char) : List Piece := textPieces isQuoted true (String.ofList cs)
          let isMissing (countsEmpty : Bool) : Bool :=
            value.isNone || (countsEmpty && text.isEmpty)
          let needed : Run Unit := do
            if value.isNone && s.stopsOnMissing then
              refuseHere streams line s!"{name}: parameter not set"
          match use with
          | .plain => do
              needed
              if name == "@" || (name == "*" && !isQuoted) then
                return argumentFields isQuoted s.arguments
              else return pieces text.toList
          | .length => do
              needed
              return pieces (toString text.length).toList
          | .dropStart longest => do
              needed
              let pattern ← expand streams fuel argument
              return pieces (withoutStart longest (markedOf pattern) text.toList)
          | .dropEnd longest => do
              needed
              let pattern ← expand streams fuel argument
              return pieces (withoutEnd longest (markedOf pattern) text.toList)
          | .orElse countsEmpty => do
              if !isMissing countsEmpty then return pieces text.toList
              return insertedPieces isQuoted (← expand streams fuel argument)
          | .ifSet countsEmpty => do
              if isMissing countsEmpty then return []
              return insertedPieces isQuoted (← expand streams fuel argument)
          | .orAssign countsEmpty => do
              if !isMissing countsEmpty then return pieces text.toList
              let other := wholeText (← expand streams fuel argument)
              setVariable streams line none name other
              return pieces other.toList
          | .orStop countsEmpty => do
              if !isMissing countsEmpty then return pieces text.toList
              let given := wholeText (← expand streams fuel argument)
              let usual := if countsEmpty then "parameter not set or null" else "parameter not set"
              let words := if argument.isEmpty then usual else given
              refuseHere streams line s!"{name}: {words}"
termination_by structural fuel => fuel

def expandWords (streams : Streams) : Nat → List Word → Run (List String)
  | 0, _ => stop .expired
  | _, [] => return []
  | fuel + 1, word :: rest => do
      let pieces ← expand streams fuel word
      let here := argumentsOf (← shell) pieces
      let more ← expandWords streams fuel rest
      return here ++ more
termination_by structural fuel => fuel

/-- Where the streams go after redirections; nothing when one of them fails. -/
def redirected (line : Nat) : Nat → Streams → List Redirect → Run (Option Streams)
  | 0, _, _ => stop .expired
  | _, streams, [] => return some streams
  | fuel + 1, streams, redirect :: rest => do
      match redirect with
      | .same stream other =>
          let source := if other == 2 then streams.err else streams.out
          let changed := if stream == 2 then { streams with err := source }
            else { streams with out := source }
          redirected line fuel changed rest
      | .read source => do
          let name := wholeText (← expand streams fuel source)
          match ← openInput name with
          | .ok input => do
              change fun s => { s with input }
              redirected line fuel streams rest
          | .error cause => do
              reportHere streams line s!"cannot open {name}: {openWords cause}"
              return none
      | .readText content => do
          let text := wholeText (← expand streams fuel content)
          change fun s => { s with input := .bytes text.toUTF8 }
          redirected line fuel streams rest
      | .write stream append target => do
          let name := wholeText (← expand streams fuel target)
          match ← openFile append name with
          | .ok target => do
              let changed := if stream == 2 then { streams with err := target }
                else { streams with out := target }
              redirected line fuel changed rest
          | .error cause => do
              reportHere streams line s!"cannot create {name}: {createWords cause}"
              return none
termination_by structural fuel => fuel

/-- Make assignments; the outcome is how they are shown. -/
def assignAll (streams : Streams) (line : Nat) : Nat → List (String × Word) → Run (List String)
  | 0, _ => stop .expired
  | _, [] => return []
  | fuel + 1, (name, word) :: rest => do
      let text := wholeText (← expand streams fuel word)
      setVariable streams line none name text
      let more ← assignAll streams line fuel rest
      return (name ++ "=" ++ text) :: more
termination_by structural fuel => fuel

def ending (streams : Streams) : Nat → Except Stop Nat → Run Nat
  | 0, _ => stop .expired
  | fuel + 1, result => do
      let status ← resume (finalStatus result)
      match (← shell).traps.find? fun entry => entry.1 == 0 with
      | none => return status
      | some (_, text) => do
          change fun s => { s with status, traps := s.traps.filter fun entry => entry.1 != 0 }
          match ← caught (evaluate streams false fuel text) with
          | .ok _ => return status
          | .error (.exit other) => return other
          | .error reason => stop reason
termination_by structural fuel => fuel

def subshell (streams : Streams) (isTested : Bool) : Nat → Command → Run Nat
  | 0, _ => stop .expired
  | fuel + 1, body =>
      withSetting Setting.withoutTraps do
        let result ← caught (run streams isTested fuel body)
        ending streams fuel result
termination_by structural fuel => fuel

def gather (streams : Streams) : Nat → Command → Run (Nat × ByteArray)
  | 0, _ => stop .expired
  | fuel + 1, body => do
      let (result, bytes) ← collected fun target => do
        let known := (← shell).started
        let status ← subshell { streams with out := target } false fuel body
        awaitJobs (fun job => known < job.number) fuel
        return status
      let status ← resume result
      return (status, bytes)
termination_by structural fuel => fuel

def runJob : Nat → Job → Run (Except Stop Nat)
  | 0, _ => stop .expired
  | fuel + 1, job => do
      let before ← shell
      change fun s =>
        { s with
          toSetting := job.setting.withoutTraps
          elapsed := job.start
          input := .bytes ByteArray.empty
          jobs := s.jobs.filter fun other => other.number != job.number }
      let result ← caught do
        let result ← caught (run job.streams false fuel job.body)
        ending job.streams fuel result
      change fun inside =>
        { inside with
          toSetting := before.toSetting
          elapsed := if before.elapsed < inside.elapsed then inside.elapsed else before.elapsed
          input := before.input }
      for status in result.toOption.toList do noteEnd job status
      return result
termination_by structural fuel => fuel

def awaitJobs (isAwaited : Job → Bool) : Nat → Run Unit
  | 0 => stop .expired
  | fuel + 1 => do
      match (← shell).jobs.find? isAwaited with
      | none => return ()
      | some job => do
          let result ← runJob fuel job
          let _ ← resume result
          awaitJobs isAwaited fuel
termination_by structural fuel => fuel

/-- Run those of some jobs that have ended by now; the others are put off further. -/
def settle : Nat → List Job → Run Unit
  | 0, _ => stop .expired
  | _, [] => return ()
  | fuel + 1, job :: rest => do
      let before ← shell
      let result ← withDeadline before.elapsed (runJob fuel job)
      match result with
      | .error .expired => change fun _ => before
      | result => do
          let _ ← resume result
      settle fuel rest
termination_by structural fuel => fuel

def sendSignal (streams : Streams) (line signal : Nat) : Nat → String → Run Nat
  | 0, _ => stop .expired
  | fuel + 1, target => do
      let s ← shell
      let number := (count? target).getD 0
      if number == s.process || number == 0 then
        let trap? := if isCertain signal then none
          else s.traps.find? fun entry => entry.1 == signal
        match trap? with
        | some (_, "") => return 0
        | some (_, text) => do
            let _ ← setStatus 0
            let _ ← evaluate streams false fuel text
            return 0
        | none =>
            if isHarmless signal then return 0
            else if isHolding signal then stop .expired
            else stop (.killed s.process signal)
      else match s.jobs.find? fun job => job.number == number with
        | some job => do
            if isHarmless signal then return 0
            let result ← withDeadline s.elapsed (runJob fuel job)
            match result with
            | .error .expired => do
                change fun inside => { inside with elapsed := s.elapsed }
                noteEnd job (statusOfSignal signal)
            | result => do
                let _ ← resume result
            return 0
        | none => do
            if s.ended.any fun entry => entry.1 == number then return 0
            report streams line "kill: No such process"
            return 1
termination_by structural fuel => fuel

def sendSignals (streams : Streams) (line signal : Nat) : Nat → Nat → List String → Run Nat
  | 0, _, _ => stop .expired
  | _, status, [] => return status
  | fuel + 1, status, target :: rest => do
      if (count? target).isNone then
        return ← reject streams line s!"kill: Illegal number: {target}"
      let result ← sendSignal streams line signal fuel target
      sendSignals streams line signal fuel (max status result) rest
termination_by structural fuel => fuel

def waitFor (streams : Streams) (line : Nat) : Nat → String → Run Nat
  | 0, _ => stop .expired
  | fuel + 1, target => do
      match count? target with
      | none => reject streams line s!"wait: Illegal number: {target}"
      | some number => do
          awaitJobs (fun job => job.number == number) fuel
          match (← shell).ended.find? fun entry => entry.1 == number with
          | none => return 127
          | some (_, status) => do
              announce streams (status - statusOfSignal 0)
              return status
termination_by structural fuel => fuel

/-- Start a program by its name and arguments; it may take the place of the script. -/
def start (streams : Streams) (line : Nat) (takesPlace : Bool) :
    Nat → String → List String → Run (Except FileCause Nat)
  | 0, _, _ => stop .expired
  | fuel + 1, name, args => do
      let s ← shell
      let found := startable s.files s.directory (searchedWith s.environment) name
      let inProcess (act : Run Nat) : Run (Except FileCause Nat) := do
        let process ← if takesPlace then pure s.process else newProcess
        Except.ok <$> withSetting (Setting.forProgram process) act
      match found with
      | .missing cause => return .error cause
      | .script => inProcess (shellProgram streams name fuel (name :: args))
      | .program program =>
          if shellNames.contains program then inProcess (shellProgram streams name fuel args)
          else if program == "env" then inProcess (withVariables streams line fuel args)
          else if starterNames.contains program then
            inProcess (startOther streams line program fuel args)
          else
            match program? streams program args <|> lineProgram? streams program args with
            | some act => inProcess act
            | none => return .ok 0
termination_by structural fuel => fuel

def startOther (streams : Streams) (line : Nat) (starter : String) : Nat → List String → Run Nat
  | 0, _ => stop .expired
  | fuel + 1, args => do
      let startNamed (name : String) (rest : List String) : Run Nat := do
        match ← start streams line true fuel name rest with
        | .ok status => return status
        | .error cause => do
            let lead := match starter with
              | "nice" => s!"‘{name}’"
              | "setsid" => s!"failed to execute {name}"
              | _ => s!"failed to run command ‘{name}’"
            say streams.err s!"{starter}: {lead}: {cause.words}\n"
            return (startFault name cause).1
      match starter, args with
      | "which", names => do
          let s ← shell
          let places := names.map fun name => (name,
            startable s.files s.directory (searchedWith s.environment) name)
          for (name, found) in places do
            match found with
            | .missing _ => pure ()
            | _ =>
                let place := if name.contains '/' then name else "/usr/bin/" ++ name
                say streams.out (place ++ "\n")
          let isFound := places.all fun entry => !(entry.2 matches .missing _)
          return if isFound && !names.isEmpty then 0 else 1
      | "xargs", args => do
          let (gathering, command) := gatheringOptions {} args
          let text := Utf8.decodeLossy (← takeInput)
          let name := command.head?.getD "echo"
          startForEach streams line gathering.showsCommands name fuel 0
            (gathered gathering (command.drop 1) text)
      | "kill", args => do
          match killTargets args with
          | .error words => do
              say streams.err s!"kill: {words}\n"
              return 1
          | .ok (signal, targets) => sendSignals streams line signal fuel 0 targets
      | "nice", [] => do
          say streams.out "0\n"
          return 0
      | "nice", "-n" :: number :: name :: rest =>
          if (integer? number).isSome then startNamed name rest
          else do
            say streams.err s!"nice: invalid adjustment ‘{number}’\n"
            return 125
      | "timeout", args => do
          match limitingOptions {} args with
          | .error wrong => do
              let _ ← misuse streams "timeout" s!"‘{wrong}’: invalid signal"
              return 125
          | .ok (limiting, time :: name :: rest) => do
              match duration? time with
              | none => do
                  let _ ← misuse streams "timeout" s!"invalid time interval ‘{time}’"
                  return 125
              | some seconds => do
                  let s ← shell
                  let limit := s.elapsed + seconds
                  if s.deadline ≤ limit || seconds ≤ 0.0 then startNamed name rest
                  else
                    match ← caught (withDeadline limit (startNamed name rest)) with
                    | .error .expired => do
                        change fun inside => { inside with elapsed := limit }
                        if limiting.signal == 9 then stop (.killed (← shell).process 9)
                        return if limiting.keepsStatus then statusOfSignal limiting.signal else 124
                    | result => resume result
          | .ok _ => do
              say streams.err "Try 'timeout --help' for more information.\n"
              return 125
      | _, name :: rest => startNamed name rest
      | "setsid", [] => misuse streams "setsid" "no command specified"
      | _, [] => do
          let _ ← misuse streams starter "missing operand"
          return 125
termination_by structural fuel => fuel

def startForEach (streams : Streams) (line : Nat) (showsCommands : Bool) (name : String) :
    Nat → Nat → List (List String) → Run Nat
  | 0, _, _ => stop .expired
  | _, status, [] => return status
  | fuel + 1, before, args :: rest => do
      if showsCommands then say streams.err (" ".intercalate (name :: args) ++ "\n")
      match ← start streams line true fuel name args with
      | .error cause => do
          say streams.err s!"xargs: {name}: {cause.words}\n"
          return (startFault name cause).1
      | .ok status =>
          startForEach streams line showsCommands name fuel (if status == 0 then before else 123) rest
termination_by structural fuel => fuel

def withVariables (streams : Streams) (line : Nat) : Nat → List String → Run Nat
  | 0, _ => stop .expired
  | fuel + 1, args => do
      match args with
      | [] => printVariables streams
      | "-i" :: rest => do
          change fun s => { s with environment := [] }
          withVariables streams line fuel rest
      | "-u" :: name :: rest => do
          change (restoreVariables [(name, none)])
          withVariables streams line fuel rest
      | first :: rest =>
          match assignmentOf first with
          | (name, some value) => do
              assign name value
              change (Shell.withExported name)
              withVariables streams line fuel rest
          | (name, none) => do
              match ← start streams line true fuel name rest with
              | .ok status => return status
              | .error cause => do
                  say streams.err s!"env: ‘{name}’: {cause.words}\n"
                  return (startFault name cause).1
termination_by structural fuel => fuel

def invoke (streams : Streams) (line : Nat) (isTested seesFunctions : Bool) :
    Nat → String → List String → Run Nat
  | 0, _, _ => stop .expired
  | fuel + 1, name, args => do
      let s ← shell
      let function? := if seesFunctions && !specialNames.contains name then
        s.functions.find? fun entry => entry.1 == name else none
      match function? with
      | some (_, body) => do
          change fun s => { s with arguments := args, hidden := some [], loops := 0 }
          let result ← caught (run streams isTested fuel body)
          change fun inside =>
            { restoreVariables (inside.hidden.getD []) inside with
              arguments := s.arguments
              hidden := s.hidden
              loops := s.loops }
          match result with
          | .error (.back status) => return status
          | result => resume result
      | none =>
          match name, args with
          | ":", _ => return 0
          | "exit", args => stop (.exit (statusOf (← countOf streams line name s.status args)))
          | "return", args => stop (.back (statusOf (← countOf streams line name s.status args)))
          | "break", args => do
              let levels ← countOf streams line name 1 args
              if levels == 0 then refuse streams line "break: Illegal number: 0"
              if s.loops == 0 then return 0 else stop (.leave (min levels s.loops))
          | "continue", args => do
              let levels ← countOf streams line name 1 args
              if levels == 0 then refuse streams line "continue: Illegal number: 0"
              if s.loops == 0 then return 0 else stop (.again (min levels s.loops))
          | "cd", args => changeDirectory streams line args
          | "export", args => markVariables streams line name Shell.withExported args
          | "readonly", args => markVariables streams line name Shell.withFixed args
          | "local", args => makeLocal streams line args
          | "unset", args => removeVariables streams line args
          | "set", args => setOptions streams line args
          | "shift", args => shift streams line args
          | "read", args => readLine streams line args
          | "trap", args => setTraps streams args
          | "eval", args =>
              withContext "eval: " (evaluate streams isTested fuel (" ".intercalate args))
          | ".", [] => return 0
          | ".", file :: _ => do
              if !file.contains '/' then refuse streams line s!".: {file}: not found"
              match ← openInput file with
              | .error cause =>
                  refuse streams line s!".: cannot open {file}: {openWords cause}"
              | .ok input => do
                  let text := Utf8.decodeLossy (← allBytes input)
                  let result ← caught do
                    withContext s!"{file}: " (evaluate streams isTested fuel text)
                  match result with
                  | .error (.back status) => return status
                  | result => resume result
          | "exec", [] => return 0
          | "exec", program :: args => do
              match ← start streams line true fuel program args with
              | .ok status => do
                  change fun s => { s with toSetting := { s.toSetting with traps := [] } }
                  stop (.exit status)
              | .error cause => do
                  let (status, words) := startFault program cause
                  report streams line s!"exec: {words}"
                  stop (.exit status)
          | "command", [] => return 0
          | "command", "-v" :: names =>
              match names with
              | [] => return 0
              | name :: _ =>
                  match commandPlace? s name with
                  | none => return 127
                  | some place => do
                      say streams.out (place ++ "\n")
                      return 0
          | "command", "-V" :: names => describeAll streams (names.take 1)
          | "type", names => describeAll streams names
          | "command", program :: args => invoke streams line isTested false fuel program args
          | "kill", args => do
              match killTargets args with
              | .error words => reject streams line s!"kill: {words}"
              | .ok (signal, targets) => sendSignals streams line signal fuel 0 targets
          | "wait", [] => do
              awaitJobs (fun _ => true) fuel
              return 0
          | "wait", target :: _ => waitFor streams line fuel target
          | "getopts", _ => return 1
          | name, args => do
              match includedProgram? streams line name args with
              | some act => act
              | none =>
                  if isBuiltIn name then return 0
                  match ← start streams line false fuel name args with
                  | .ok status => return status
                  | .error cause => do
                      let (status, words) := startFault name cause
                      reportHere streams line words
                      return if name.contains '/' then status else notFoundStatus
termination_by structural fuel => fuel

def evaluate (streams : Streams) (isTested : Bool) : Nat → String → Run Nat
  | 0, _ => stop .expired
  | fuel + 1, text => do
      match Command.ofText text with
      | .ok .nothing => setStatus 0
      | .ok body => run streams isTested fuel body
      | .error fault => do
          let _ ← run streams isTested fuel (Command.beforeFault text)
          refuseHere streams (fault.line.getD (lastLine text)) fault.cause.words
termination_by structural fuel => fuel

/-- Run the shell, by the name that it is called by, with arguments: a script that is given as
text, in a file or as the input. -/
def shellProgram (streams : Streams) (called : String) : Nat → List String → Run Nat
  | 0, _ => stop .expired
  | fuel + 1, args => do
      let complain (words : String) : Run Nat := do
        say streams.err s!"{called}: 0: {words}\n"
        return misused
      let script (name : String) (arguments : List String) (text : String) : Run Nat := do
        change fun s => { s with name, arguments }
        let result ← caught (evaluate streams false fuel text)
        ending streams fuel result
      match ← takeOptions ['c'] [] args with
      | .error option => complain s!"Illegal option {option}"
      | .ok (letters, rest) =>
          if letters.contains 'n' then return 0
          else if letters.contains 'c' then
            match rest with
            | [] => complain "-c requires an argument"
            | text :: more => script (more.head?.getD called) (more.drop 1) text
          else
            match rest with
            | file :: more =>
                if letters.contains 's' then
                  script called rest (Utf8.decodeLossy (← takeInput))
                else
                  match ← openInput file with
                  | .error cause => complain s!"cannot open {file}: {openWords cause}"
                  | .ok input => script file more (Utf8.decodeLossy (← allBytes input))
            | [] => script called [] (Utf8.decodeLossy (← takeInput))
termination_by structural fuel => fuel

/-- Run a command; `isTested` tells that its failure is taken note of. -/
def run (streams : Streams) (isTested : Bool) : Nat → Command → Run Nat
  | 0, _ => stop .expired
  | fuel + 1, command => do
      match command with
      | .nothing => return (← shell).status
      | .simple line assignments words redirects => do
          let before ← shell
          let fields ← expandWords streams fuel words
          let name := fields.head?.getD ""
          match ← redirected line fuel streams redirects with
          | none => do
              change fun s => { s with input := before.input }
              if specialNames.contains name then stop (.exit misused)
              checked isTested misused
          | some inner => do
              let result ← caught do
                match fields with
                | [] => do
                    showCommand streams (← assignAll inner line fuel assignments)
                    let status := (← shell).status
                    let isRun := words.any hasOutput || assignments.any fun a => hasOutput a.2
                    return if isRun then status else 0
                | name :: args => do
                    let hidden ← (assignments.map Prod.fst).mapM fun name => do
                      return (name, ← valueOf name)
                    let shown ← assignAll inner line fuel assignments
                    showCommand streams (shown ++ fields)
                    if specialNames.contains name then
                      invoke inner line isTested true fuel name args
                    else do
                      let exported := (← shell).exported
                      for (name, _) in assignments do change (Shell.withExported name)
                      let result ← caught (invoke inner line isTested true fuel name args)
                      if !assignments.isEmpty then
                        change fun s => restoreVariables hidden { s with exported }
                      resume result
              if redirects.any Redirect.isReading then
                change fun s => { s with input := before.input }
              let after ← shell
              if before.elapsed < after.elapsed then settle fuel after.jobs
              match result with
              | .error (.killed process signal) => do
                  if process == after.process then stop (.killed process signal)
                  announce streams signal
                  checked isTested (statusOfSignal signal)
              | result => checked isTested (← resume result)
      | .pipe first second => do
          let (_, bytes) ← gather streams fuel first
          let status ← withInput (.bytes bytes) (subshell streams isTested fuel second)
          checked isTested status
      | .negated body => do
          let status ← run streams true fuel body
          setStatus (if status == 0 then 1 else 0)
      | .both first second => do
          let status ← run streams true fuel first
          if status == 0 then run streams isTested fuel second else return status
      | .either first second => do
          let status ← run streams true fuel first
          if status == 0 then return status else run streams isTested fuel second
      | .sequence first second => do
          match first.lastingRedirects? with
          | some (line, redirects) =>
              match ← redirected line fuel streams redirects with
              | none => stop (.exit misused)
              | some inner => do
                  showCommand streams ["exec"]
                  let _ ← setStatus 0
                  run inner isTested fuel second
          | none => do
              let status ← run streams isTested fuel first
              match second with
              | .nothing => return status
              | second => run streams isTested fuel second
      | .background body => do
          let number ← newProcess
          change fun s =>
            { s with jobs := s.jobs ++ [⟨number, s.elapsed, streams, s.toSetting, body⟩] }
          setStatus 0
      | .choice condition yes no => do
          let status ← run streams true fuel condition
          if status == 0 then run streams isTested fuel yes
          else
            match no with
            | .nothing => setStatus 0
            | no => run streams isTested fuel no
      | .loop wanted condition body => rounds streams isTested wanted condition body fuel 0
      | .forEach name words body => do
          let arguments := (← shell).arguments
          let values ← match words with
            | some words => expandWords streams fuel words
            | none => pure arguments
          eachValue streams isTested fuel name values body
      | .cases word arms => do
          let text := wholeText (← expand streams fuel word)
          firstArm streams isTested fuel text arms
      | .group body redirects => do
          let before := (← shell).input
          match ← redirected 1 fuel streams redirects with
          | none => checked isTested misused
          | some inner => do
              let status ← run inner isTested fuel body
              if redirects.any Redirect.isReading then
                change fun s => { s with input := before }
              return status
      | .subshell body redirects => do
          let before := (← shell).input
          match ← redirected 1 fuel streams redirects with
          | none => checked isTested misused
          | some inner => do
              let status ← subshell inner isTested fuel body
              if redirects.any Redirect.isReading then
                change fun s => { s with input := before }
              checked isTested status
      | .define name body => do
          change fun s => { s with functions := (name, body) :: s.functions }
          setStatus 0
termination_by structural fuel => fuel

def rounds (streams : Streams) (isTested wanted : Bool) (condition body : Command) :
    Nat → Nat → Run Nat
  | 0, _ => stop .expired
  | fuel + 1, last => do
      let status ← run streams true fuel condition
      if (status == 0) == wanted then
        match ← inLoop (run streams isTested fuel body) with
        | .ok status => rounds streams isTested wanted condition body fuel status
        | .error (.leave levels) => if 1 < levels then stop (.leave (levels - 1)) else setStatus 0
        | .error (.again levels) =>
            if 1 < levels then stop (.again (levels - 1))
            else rounds streams isTested wanted condition body fuel 0
        | .error reason => stop reason
      else setStatus last
termination_by structural fuel => fuel

def eachValue (streams : Streams) (isTested : Bool) :
    Nat → String → List String → Command → Run Nat
  | 0, _, _, _ => stop .expired
  | _, _, [], _ => return (← shell).status
  | fuel + 1, name, value :: rest, body => do
      setVariable streams 1 none name value
      match ← inLoop (run streams isTested fuel body) with
      | .ok _ => eachValue streams isTested fuel name rest body
      | .error (.leave levels) => if 1 < levels then stop (.leave (levels - 1)) else setStatus 0
      | .error (.again levels) =>
          if 1 < levels then stop (.again (levels - 1))
          else eachValue streams isTested fuel name rest body
      | .error reason => stop reason
termination_by structural fuel => fuel

def firstArm (streams : Streams) (isTested : Bool) :
    Nat → String → List (List Word × Command) → Run Nat
  | 0, _, _ => stop .expired
  | _, _, [] => setStatus 0
  | fuel + 1, text, (patterns, body) :: rest => do
      if ← anyFits streams fuel text patterns then run streams isTested fuel body
      else firstArm streams isTested fuel text rest
termination_by structural fuel => fuel

def anyFits (streams : Streams) : Nat → String → List Word → Run Bool
  | 0, _, _ => stop .expired
  | _, _, [] => return false
  | fuel + 1, text, word :: rest => do
      let pattern ← expand streams fuel word
      if isMatch (markedOf pattern) text.toList then return true
      else anyFits streams fuel text rest
termination_by structural fuel => fuel

end

end StillMotion.Scripting
