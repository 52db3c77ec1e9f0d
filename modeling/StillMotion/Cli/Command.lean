import StillMotion.Files.Path
import StillMotion.Text.Search

/-!
# Commands

What a command line asks for.
-/

/-!
## Command line arguments

Arguments are options, their values and positional arguments.  An option has a long name and may
have a letter; letters of options without value can be joined, and a value may follow its letter
at once.  Two dashes end the options.
-/

namespace StillMotion.Arguments

open StillMotion.Text

structure OptionSpec where
  name : String
  letter : Option Char
  takesValue : Bool
deriving DecidableEq, Repr

/-- Arguments that have been sorted; of an option that is repeated the last value counts. -/
structure Sorted where
  options : List (String × String)
  positional : List String
deriving DecidableEq, Repr

namespace Sorted

def empty : Sorted := ⟨[], []⟩

def addOption (sorted : Sorted) (spec : OptionSpec) (value : String) : Sorted :=
  { sorted with options := (spec.name, value) :: sorted.options }

def addPositional (sorted : Sorted) (values : List String) : Sorted :=
  { sorted with positional := sorted.positional ++ values }

def value? (sorted : Sorted) (name : String) : Option String :=
  (sorted.options.find? fun entry => entry.1 == name).map (·.2)

def has (sorted : Sorted) (name : String) : Bool := (sorted.value? name).isSome

end Sorted

/-! ## Options -/

def named? (specs : List OptionSpec) (name : List Char) : Option OptionSpec :=
  specs.find? fun spec => ("--" ++ spec.name).toList == name

def lettered? (specs : List OptionSpec) (letter : Char) : Option OptionSpec :=
  specs.find? fun spec => spec.letter == some letter

def takeOption (spec : OptionSpec) (given : Option String) (rest : List String)
    (sorted : Sorted) : Option (Sorted × List String) :=
  if spec.takesValue then
    match given, rest with
    | some value, _ => some (sorted.addOption spec value, rest)
    | none, value :: rest => some (sorted.addOption spec value, rest)
    | none, [] => none
  else match given with
    | some _ => none
    | none => some (sorted.addOption spec "", rest)

def takeLetters (specs : List OptionSpec) (rest : List String) :
    List Char → Sorted → Option (Sorted × List String)
  | [], sorted => some (sorted, rest)
  | letter :: following, sorted =>
      match lettered? specs letter with
      | none => none
      | some spec =>
          if spec.takesValue then
            let given := if following.isEmpty then none else some (String.ofList following)
            takeOption spec given rest sorted
          else takeLetters specs rest following (sorted.addOption spec "")

def nameAndValue (arg : List Char) : List Char × Option String :=
  match cut? '=' arg with
  | some (name, value) => (name, some (String.ofList value))
  | none => (arg, none)

def takeDashed (specs : List OptionSpec) (arg : List Char) (rest : List String)
    (sorted : Sorted) : Option (Sorted × List String) :=
  let (name, given) := nameAndValue arg
  match named? specs name with
  | some spec => takeOption spec given rest sorted
  | none => if startsWith arg "--".toList then none else takeLetters specs rest arg.tail sorted

def isDashed (arg : String) : Bool := arg.toList.head? == some '-' && 1 < arg.length

/-! ## Sorting -/

/-- Sort arguments; `mixed` tells whether options may follow positional arguments, and `fuel`
bounds the number of arguments. -/
def sortFrom (specs : List OptionSpec) (mixed : Bool) :
    (fuel : Nat) → List String → Sorted → Option Sorted
  | 0, _, sorted => some sorted
  | _, [], sorted => some sorted
  | fuel + 1, arg :: rest, sorted =>
      if arg == "--" then some (sorted.addPositional rest)
      else if isDashed arg then
        match takeDashed specs arg.toList rest sorted with
        | some (sorted, rest) => sortFrom specs mixed fuel rest sorted
        | none => none
      else if mixed then sortFrom specs mixed fuel rest (sorted.addPositional [arg])
      else some (sorted.addPositional (arg :: rest))

/-- Sort arguments, unless there is an option among them that is not known. -/
def sort? (specs : List OptionSpec) (mixed : Bool) (args : List String) : Option Sorted :=
  sortFrom specs mixed (args.length + 1) args .empty

end StillMotion.Arguments

namespace StillMotion

inductive CliCommand where
  | generate (image : Path) (prompt : String) (config saveMotion : Option Path)
  | analyze (image : String) (config : Option Path) (provider : Option String) (out : Option Path)
  | direct (schema : Path) (prompt : String) (image : Option String) (config out : Option Path)
  | compose (motion : Path) (bake : Bool) (out : Option Path)
  | health (config : Option Path)
  | exportDescriptions (directory : Path)
  /-- Only help is asked for. -/
  | help
deriving DecidableEq, Repr

namespace CliCommand

open StillMotion.Arguments

/-! ## Options -/

def helpOption : OptionSpec := ⟨"help", none, false⟩
def verboseOption : OptionSpec := ⟨"verbose", some 'v', false⟩
def configOption : OptionSpec := ⟨"config", none, true⟩
def saveOption : OptionSpec := ⟨"save-ir", none, true⟩
def providerOption : OptionSpec := ⟨"provider", none, true⟩
def outOption : OptionSpec := ⟨"out", some 'o', true⟩
def imageOption : OptionSpec := ⟨"image", none, true⟩
def bakeOption : OptionSpec := ⟨"bake", none, false⟩
def directoryOption : OptionSpec := ⟨"out-dir", none, true⟩

def standardDirectory : Path := Path.ofText "docs/jsonschema"

def path? (sorted : Sorted) (spec : OptionSpec) : Option Path :=
  (sorted.value? spec.name).map Path.ofText

/-! ## Reading -/

structure Form where
  word : String
  options : List OptionSpec
  read : Sorted → Option CliCommand

def generateForm : Form where
  word := "generate"
  options := [configOption, saveOption]
  read sorted := match sorted.positional with
    | [image, prompt] => some (.generate (Path.ofText image) prompt (path? sorted configOption)
        (path? sorted saveOption))
    | _ => none

def analyzeForm : Form where
  word := "analyze"
  options := [configOption, providerOption, outOption]
  read sorted := match sorted.positional with
    | [image] => some (.analyze image (path? sorted configOption)
        (sorted.value? providerOption.name) (path? sorted outOption))
    | _ => none

def directForm : Form where
  word := "direct"
  options := [imageOption, configOption, outOption]
  read sorted := match sorted.positional with
    | [schema, prompt] => some (.direct (Path.ofText schema) prompt
        (sorted.value? imageOption.name) (path? sorted configOption) (path? sorted outOption))
    | _ => none

def composeForm : Form where
  word := "compose"
  options := [bakeOption, outOption]
  read sorted := match sorted.positional with
    | [motion] => some (.compose (Path.ofText motion) (sorted.has bakeOption.name)
        (path? sorted outOption))
    | _ => none

def healthForm : Form where
  word := "health"
  options := [configOption]
  read sorted := match sorted.positional with
    | [] => some (.health (path? sorted configOption))
    | _ => none

def exportForm : Form where
  word := "export-jsonschema"
  options := [directoryOption]
  read sorted := match sorted.positional with
    | [] => some (.exportDescriptions ((path? sorted directoryOption).getD standardDirectory))
    | _ => none

def forms : List Form :=
  [generateForm, analyzeForm, directForm, composeForm, healthForm, exportForm]

def Form.ofArguments? (form : Form) (args : List String) : Option CliCommand := do
  let sorted ← sort? (helpOption :: form.options) true args
  if sorted.has helpOption.name then some .help else form.read sorted

/-- The command of a command line, unless it is not used as it should be. -/
def ofArguments? (args : List String) : Option CliCommand := do
  let sorted ← sort? [helpOption, verboseOption] false args
  if sorted.has helpOption.name then some .help
  else match sorted.positional with
    | [] => none
    | word :: rest => do
        let form ← forms.find? fun form => form.word == word
        form.ofArguments? rest

end CliCommand

end StillMotion
