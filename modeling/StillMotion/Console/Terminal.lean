import StillMotion.Console.Columns
import StillMotion.Console.Markup
import StillMotion.Data.Json.Writer
import StillMotion.Files.Workspace

/-!
# Terminal sessions

A session is a computation on a workspace that prints.  It ends early with an exit code or with a
fault; what it printed stays.
-/

namespace StillMotion

variable {ε α : Type}

inductive Printed where
  | document (value : Value)
  | text (content : List Char)

inductive Leaving where
  | exit (code : Nat)
  | fault (cause : Fault)

abbrev Session (ε α : Type) := ExceptT Leaving (StateT (List Printed) (StateM (Workspace ε))) α

namespace Session

def attempt (act : Act ε α) : Session ε (Except Fault α) := ExceptT.lift (StateT.lift act.run)

/-- A computation that prints nothing; its fault ends the session. -/
def lift (act : Act ε α) : Session ε α := do
  match ← attempt act with
  | .ok a => return a
  | .error cause => throw (.fault cause)

def exit (code : Nat) : Session ε α := throw (.exit code)

def emit (printed : Printed) : Session ε Unit := modify fun before => printed :: before

/-! ## Lines -/

def isControl (c : Char) : Bool :=
  c.toNat == 7 || c.toNat == 8 || c.toNat == 11 || c.toNat == 12 || c.toNat == 13

def tabWidth : Nat := 8

def untabbed : (column : Nat) → List Char → List Char
  | _, [] => []
  | column, c :: rest =>
      if c == '\n' then c :: untabbed 0 rest
      else if c == '\t' then
        let width := tabWidth - column % tabWidth
        List.replicate width ' ' ++ untabbed (column + width) rest
      else c :: untabbed (column + Console.columns c) rest

def visible (cs : List Char) : List Char := untabbed 0 (cs.filter fun c => !isControl c)

def say (markup : String) : Session ε Unit := do
  match Markup.render markup.toList with
  | .ok cs => emit (.text (visible cs))
  | .error cause => throw (.fault cause)

def print (value : Value) : Session ε Unit := emit (.document value)

end Session

/-! ## Output -/

def Json.printed : Json.Layout := ⟨false, false, [','], [':', ' '], some 2⟩

def Printed.chars : Printed → List Char
  | .document value => Json.encode Json.printed 0 value ++ ['\n']
  | .text content => content ++ ['\n']

structure Transcript where
  code : Nat
  fault : Option Fault
  printed : List Printed

namespace Transcript

def output (transcript : Transcript) : String :=
  String.ofList (transcript.printed.flatMap Printed.chars)

def faultCode : Nat := 1

def ofSession (session : Session ε Unit) : Act ε Transcript := do
  let (outcome, printed) ← ExceptT.lift ((session.run).run [])
  match outcome with
  | .ok () => return ⟨0, none, printed.reverse⟩
  | .error (.exit code) => return ⟨code, none, printed.reverse⟩
  | .error (.fault cause) => return ⟨faultCode, some cause, printed.reverse⟩

end Transcript

end StillMotion
