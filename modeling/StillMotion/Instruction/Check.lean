import StillMotion.Instruction.Filter
import StillMotion.Instruction.Template

/-!
# Checking a template

Before a template is filled in, its filters and tests have to be known and the names of its
blocks have to differ.  A filter or test that only a condition leads to is looked for when the
condition does.
-/

namespace StillMotion.Instruction

open StillMotion.Text

namespace Expression

def children : Expression → List Expression
  | .literal _ => []
  | .name _ => []
  | .tuple items => items
  | .list items => items
  | .mapping entries => entries.flatMap fun (key, e) => [key, e]
  | .attribute target _ => [target]
  | .item target key => [target, key]
  | .slice first last step => first.toList ++ last.toList ++ step.toList
  | .call target args named rest restNamed =>
      target :: args ++ named.map (·.2) ++ rest.toList ++ restNamed.toList
  | .filter target _ args named rest restNamed =>
      target.toList ++ args ++ named.map (·.2) ++ rest.toList ++ restNamed.toList
  | .test target _ args named rest restNamed =>
      target :: args ++ named.map (·.2) ++ rest.toList ++ restNamed.toList
  | .binary _ left right => [left, right]
  | .joined items => items
  | .compare first others => first :: others.map (·.2)
  | .both left right => [left, right]
  | .either left right => [left, right]
  | .negate target => [target]
  | .minus target => [target]
  | .plus target => [target]
  | .choice _ condition yes no => condition :: yes :: no.toList

def depthLimit : Nat := 100000

def usesWithin (id : String) : Nat → Expression → Bool
  | 0, _ => false
  | depth + 1, e => match e with
      | .name other => other == id
      | e => e.children.any (usesWithin id depth)

def uses (id : String) (e : Expression) : Bool := usesWithin id depthLimit e

/-- Put an expression where the innermost filter has none. -/
def withInput (input : Expression) : Nat → Expression → Expression
  | 0, e => e
  | depth + 1, .filter target id args named rest restNamed =>
      .filter (some (match target with
        | some inner => withInput input depth inner
        | none => input)) id args named rest restNamed
  | _, e => e

/-- The filters and tests of an expression have to be known, unless a condition leads there. -/
def checkWithin : Nat → Expression → Except TemplateFault Unit
  | 0, _ => .error .tooDeep
  | depth + 1, e => do
      match e with
      | .filter _ id _ _ _ _ => if !Filter.isKnown id then throw (.unknown "filter" id)
      | .test _ id _ _ _ _ => if !Test.isKnown id then throw (.unknown "test" id)
      | _ => pure ()
      match e with
      | .choice _ _ _ _ => return ()
      | e => e.children.forM (checkWithin depth)

def check (e : Expression) : Except TemplateFault Unit := checkWithin depthLimit e

end Expression

namespace Part

def expressions : Part → List Expression
  | .text _ => []
  | .output items => items
  | .choice branches _ => branches.map (·.1)
  | .loop _ items test _ _ _ => items :: test.toList
  | .assign _ e => [e]
  | .capture _ filter _ => filter.toList
  | .scoped bindings _ => bindings.map (·.2)
  | .marked isMarked _ => [isMarked]
  | .filtered filter _ => [filter]
  | .define _ _ defaults _ => defaults
  | .callWith _ defaults call _ => call :: defaults
  | .block _ _ _ _ => []
  | .extend e => [e]
  | .include e _ _ => [e]
  | .importAs e _ _ => [e]
  | .importFrom e _ _ => [e]
  | .group _ => []

def inner : Part → List Part
  | .choice branches otherwise => branches.flatMap (·.2) ++ otherwise
  | .loop _ _ _ _ body otherwise => body ++ otherwise
  | .capture _ _ body => body
  | .scoped _ body => body
  | .marked _ body => body
  | .filtered _ body => body
  | .define _ _ _ body => body
  | .callWith _ _ _ body => body
  | .block _ _ _ body => body
  | .group body => body
  | _ => []

def usesWithin (id : String) : Nat → Part → Bool
  | 0, _ => false
  | depth + 1, part =>
      part.expressions.any (Expression.uses id) || part.inner.any (usesWithin id depth)

def uses (id : String) (parts : List Part) : Bool :=
  parts.any (usesWithin id Expression.depthLimit)

def blocksWithin : Nat → Part → List (String × Part)
  | 0, _ => []
  | depth + 1, part =>
      (match part with
        | .block name _ _ _ => [(name, part)]
        | _ => []) ++ part.inner.flatMap (blocksWithin depth)

def blocks (parts : List Part) : List (String × Part) :=
  parts.flatMap (blocksWithin Expression.depthLimit)

/-- The filters and tests of a part have to be known; `isSoft` tells that a condition leads to
it. -/
def checkWithin : Nat → Bool → Part → Except TemplateFault Unit
  | 0, _, _ => .error .tooDeep
  | depth + 1, isSoft, part => do
      let own (es : List Expression) : Except TemplateFault Unit :=
        if isSoft then pure () else es.forM Expression.check
      let below (isSoft : Bool) (body : List Part) : Except TemplateFault Unit :=
        body.forM (checkWithin depth isSoft)
      match part with
      | .choice branches otherwise => do
          for (_, body) in branches do below true body
          below true otherwise
      | .loop _ items test _ body otherwise => do
          own [items]
          test.toList.forM Expression.check
          below false body
          below false otherwise
      | .group body => below isSoft body
      | .filtered filter body => do
          below false body
          filter.check
      | part => do
          own part.expressions
          below false part.inner

def check (parts : List Part) : Except TemplateFault Unit := do
  let rec differ (seen : List String) : List (String × Part) → Except TemplateFault Unit
    | [] => .ok ()
    | (name, _) :: rest =>
        if seen.contains name then .error (.assertion s!"block {quoted name} defined twice")
        else differ (name :: seen) rest
  differ [] (blocks parts)
  parts.forM (checkWithin Expression.depthLimit false)

end Part

end StillMotion.Instruction
