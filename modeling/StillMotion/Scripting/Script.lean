/-!
# Launch scripts

A renderer may be launched through a short script.  A script is a tree of commands over words;
a word is put together from literal text and from what is known only when it runs.
-/

namespace StillMotion.Scripting

inductive ParameterUse where
  | plain
  | length
  /-- Remove what matches at the start, as little or as much as possible. -/
  | dropStart (longest : Bool)
  /-- Remove what matches at the end. -/
  | dropEnd (longest : Bool)
  /-- Another word in place of a value that is missing, or empty. -/
  | orElse (countsEmpty : Bool)
  /-- Another word in place of a value that is there. -/
  | ifSet (countsEmpty : Bool)
  /-- Another word for a value that is missing, or empty, which then is the value. -/
  | orAssign (countsEmpty : Bool)
  /-- A value that is missing, or empty, ends the script; the word says why. -/
  | orStop (countsEmpty : Bool)
deriving DecidableEq, Repr

mutual

inductive WordPart where
  | literal (text : String) (isQuoted : Bool)
  | parameter (line : Nat) (name : String) (use : ParameterUse) (argument : List WordPart)
      (isQuoted : Bool)
  | arithmetic (line : Nat) (expression : List WordPart)
  | output (script : Command) (isQuoted : Bool)

inductive Redirect where
  | write (stream : Nat) (append : Bool) (target : List WordPart)
  | read (source : List WordPart)
  /-- Read a text that stands in the script. -/
  | readText (content : List WordPart)
  /-- Let a stream go where another goes. -/
  | same (stream other : Nat)

inductive Command where
  | nothing
  | simple (line : Nat) (assignments : List (String × List WordPart))
      (words : List (List WordPart)) (redirects : List Redirect)
  | pipe (first second : Command)
  | negated (body : Command)
  | both (first second : Command)
  | either (first second : Command)
  | sequence (first second : Command)
  | background (body : Command)
  | choice (condition yes no : Command)
  | loop (wanted : Bool) (condition body : Command)
  | forEach (name : String) (words : Option (List (List WordPart))) (body : Command)
  | cases (word : List WordPart) (arms : List (List (List WordPart) × Command))
  | group (body : Command) (redirects : List Redirect)
  | subshell (body : Command) (redirects : List Redirect)
  | define (name : String) (body : Command)

end

instance : Inhabited Command := ⟨.nothing⟩

abbrev Word := List WordPart

def hasOutput (word : Word) : Bool :=
  word.any fun part =>
    match part with
    | .output _ _ => true
    | _ => false

def Redirect.isReading : Redirect → Bool
  | .read _ | .readText _ => true
  | _ => false

/-- The redirections, with their line, of a command that only redirects what follows it. -/
def Command.lastingRedirects? : Command → Option (Nat × List Redirect)
  | .simple line [] [[.literal "exec" false]] redirects => some (line, redirects)
  | _ => none

end StillMotion.Scripting
