import StillMotion.Scripting.Shell

/-!
# Options of programs

Options are letters behind a dash, and names behind two of them, in front of the other arguments
or between them.  Some take a value, which stands with the option or after it.
-/

namespace StillMotion.Scripting

open StillMotion.Text Run

/-! ## Any options -/

/-- The options in one argument; the last of them may want a value that is not there. -/
def clusterOf (valued : List Char) : List Char → List (Char × String) × Option Char
  | [] => ([], none)
  | c :: more =>
      if valued.contains c then
        if more.isEmpty then ([], some c) else ([(c, String.ofList more)], none)
      else
        let (options, wanting) := clusterOf valued more
        ((c, "") :: options, wanting)

/-- The options of a program and its other arguments.  `valued` are the letters whose options
take a value. -/
def optionsOf (valued : List Char) : List String → List (Char × String) × List String
  | [] => ([], [])
  | [arg] => match arg.toList with
      | ['-'] => ([], [arg])
      | ['-', '-'] => ([], [])
      | '-' :: letters => ((clusterOf valued letters).1, [])
      | _ => ([], [arg])
  | arg :: next :: rest => match arg.toList with
      | ['-', '-'] => ([], next :: rest)
      | '-' :: c :: more =>
          match clusterOf valued (c :: more) with
          | (options, some wanting) =>
              let (later, others) := optionsOf valued rest
              (options ++ (wanting, next) :: later, others)
          | (options, none) =>
              let (later, others) := optionsOf valued (next :: rest)
              (options ++ later, others)
      | _ =>
          let (options, others) := optionsOf valued (next :: rest)
          (options, arg :: others)

def hasOption (options : List (Char × String)) (c : Char) : Bool :=
  options.any fun option => option.1 == c

def optionValues (options : List (Char × String)) (c : Char) : List String :=
  (options.filter fun option => option.1 == c).map (·.2)

/-! ## Known options -/

structure OptionTable where
  /-- The letters without a value. -/
  plain : String
  valued : String := ""
  /-- The names that stand for letters. -/
  names : List (String × Char) := []

inductive OptionFault where
  | letter (c : Char)
  | name (text : String)
  | missingValue (c : Char)
deriving DecidableEq, Repr

def OptionFault.words : OptionFault → String
  | .letter c => s!"invalid option -- '{c}'"
  | .name text => s!"unrecognized option '{text}'"
  | .missingValue c => s!"option requires an argument -- '{c}'"

structure Given where
  options : List (Char × String)
  others : List String

namespace Given

def has (given : Given) (c : Char) : Bool := hasOption given.options c

def value? (given : Given) (c : Char) : Option String :=
  (optionValues given.options c).getLast?

def withOption (c : Char) (value : String) (given : Given) : Given :=
  { given with options := (c, value) :: given.options }

end Given

namespace OptionTable

def cluster (table : OptionTable) :
    List Char → Except OptionFault (List (Char × String) × Option Char)
  | [] => .ok ([], none)
  | c :: more =>
      if table.valued.contains c then
        .ok (if more.isEmpty then ([], some c) else ([(c, String.ofList more)], none))
      else if table.plain.contains c then
        (cluster table more).map fun (options, wanting) => ((c, "") :: options, wanting)
      else .error (.letter c)

/-- The options in one argument; nothing when it is another argument. -/
def read? (table : OptionTable) (arg : String) :
    Option (Except OptionFault (List (Char × String) × Option Char)) :=
  match arg.toList with
  | '-' :: '-' :: name =>
      let (name, value) := match cut? '=' name with
        | some (name, value) => (String.ofList name, some (String.ofList value))
        | none => (String.ofList name, none)
      some <|
        match table.names.find? fun entry => entry.1 == name with
        | none => .error (.name arg)
        | some (_, c) =>
            match value with
            | some value => .ok ([(c, value)], none)
            | none => .ok (if table.valued.contains c then ([], some c) else ([(c, "")], none))
  | '-' :: c :: more => some (table.cluster (c :: more))
  | _ => none

/-- The options among arguments; what follows two dashes is no option. -/
def given (table : OptionTable) : List String → Except OptionFault Given
  | [] => .ok ⟨[], []⟩
  | "--" :: rest => .ok ⟨[], rest⟩
  | [arg] =>
      match table.read? arg with
      | none => .ok ⟨[], [arg]⟩
      | some (.error fault) => .error fault
      | some (.ok (_, some c)) => .error (.missingValue c)
      | some (.ok (options, none)) => .ok ⟨options, []⟩
  | arg :: next :: rest =>
      match table.read? arg with
      | none => (given table (next :: rest)).map fun g => { g with others := arg :: g.others }
      | some (.error fault) => .error fault
      | some (.ok (options, some c)) =>
          (given table rest).map fun g => { g with options := options ++ (c, next) :: g.options }
      | some (.ok (options, none)) =>
          (given table (next :: rest)).map fun g => { g with options := options ++ g.options }

end OptionTable

/-! ## Misuse -/

def misuse (streams : Streams) (program complaint : String) : Run Nat := do
  say streams.err s!"{program}: {complaint}\nTry '{program} --help' for more information.\n"
  return 1

/-- Run a program with its options, if it knows them all.  `failure` is the status otherwise. -/
def withOptions (streams : Streams) (program : String) (table : OptionTable)
    (args : List String) (failure : Nat) (act : Given → Run Nat) : Run Nat := do
  match table.given args with
  | .ok given => act given
  | .error fault => do
      let _ ← misuse streams program fault.words
      return failure

end StillMotion.Scripting
