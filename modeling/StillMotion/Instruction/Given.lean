import StillMotion.Instruction.Access

/-!
# What a call is given

The data of a call, one after the other or by name, and how they are matched with the parameters
of what is called.
-/

namespace StillMotion.Instruction

open StillMotion.Text

structure Given where
  args : List Datum
  named : List (String × Datum)

namespace Given

def none : Given := ⟨[], []⟩

def named? (given : Given) (name : String) : Option Datum :=
  (given.named.find? fun entry => entry.1 == name).map (·.2)

def without (given : Given) (name : String) : Given :=
  { given with named := given.named.filter fun entry => entry.1 != name }

end Given

/-- The parameters of something that is called.  `hidden` counts those that it is given without
the caller; a parameter with a standard value may be left out. -/
structure Signature where
  callee : String
  hidden : Nat
  parameters : List (String × Option Datum)

namespace Signature

def refuse {α : Type} (message : String) : Filling α :=
  Datum.misfit (.kindOf "TypeError" message)

def listed : List String → String
  | [] => ""
  | [a] => quoted a
  | [a, b] => quoted a ++ " and " ++ quoted b
  | names => ", ".intercalate (names.dropLast.map quoted) ++ ", and " ++
      quoted (names.getLast?.getD "")

def tooMany {α : Type} (s : Signature) (count : Nat) : Filling α :=
  let most := s.hidden + s.parameters.length
  let least := s.hidden + (s.parameters.filter fun p => p.2.isNone).length
  let taken :=
    if least < most then s!"from {least} to {most} positional arguments"
    else if most == 1 then "1 positional argument"
    else s!"{most} positional arguments"
  let verb := if count == 1 then "was" else "were"
  refuse s!"{s.callee}() takes {taken} but {count} {verb} given"

def bind (s : Signature) (given : Given) : Filling (List Datum) := do
  let taken := s.parameters.zipIdx.map fun (p, i) => (p.1, p.2, given.args[i]?)
  for (name, _) in given.named do
    match taken.find? fun p => p.1 == name with
    | none => refuse s!"{s.callee}() got an unexpected keyword argument {quoted name}"
    | some (_, _, some _) =>
        refuse s!"{s.callee}() got multiple values for argument {quoted name}"
    | some _ => pure ()
  if s.parameters.length < given.args.length then tooMany s (s.hidden + given.args.length)
  let found := taken.map fun (name, standard, d?) =>
    (name, (d?.orElse fun _ => given.named? name).orElse fun _ => standard)
  let missing := (found.filter fun p => p.2.isNone).map (·.1)
  if !missing.isEmpty then
    let words := if missing.length == 1 then "argument" else "arguments"
    refuse (s!"{s.callee}() missing {missing.length} required positional {words}: " ++
      listed missing)
  return found.map fun p => p.2.getD .null

end Signature

end StillMotion.Instruction
