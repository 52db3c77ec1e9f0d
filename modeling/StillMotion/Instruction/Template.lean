import StillMotion.Data.Value

/-!
# Templates

The tree of a template.  Expressions compute values; parts write texts, choose, repeat, give names
to values and to parts, and refer to other templates.
-/

namespace StillMotion.Instruction

inductive Expression where
  | literal (value : Value)
  | name (id : String)
  | tuple (items : List Expression)
  | list (items : List Expression)
  | mapping (entries : List (Expression × Expression))
  | attribute (target : Expression) (id : String)
  | item (target key : Expression)
  | slice (first last step : Option Expression)
  | call (target : Expression) (args : List Expression) (named : List (String × Expression))
      (rest restNamed : Option Expression)
  | filter (target : Option Expression) (id : String) (args : List Expression)
      (named : List (String × Expression)) (rest restNamed : Option Expression)
  | test (target : Expression) (id : String) (args : List Expression)
      (named : List (String × Expression)) (rest restNamed : Option Expression)
  | binary (symbol : String) (left right : Expression)
  | joined (items : List Expression)
  | compare (first : Expression) (others : List (String × Expression))
  | both (left right : Expression)
  | either (left right : Expression)
  | negate (target : Expression)
  | minus (target : Expression)
  | plus (target : Expression)
  | choice (line : Nat) (condition yes : Expression) (no : Option Expression)
deriving Inhabited

inductive Target where
  | name (id : String)
  | tuple (items : List Target)
  | field (id member : String)
deriving Inhabited

inductive Part where
  | text (s : String)
  | output (items : List Expression)
  | choice (branches : List (Expression × List Part)) (otherwise : List Part)
  | loop (target : Target) (items : Expression) (test : Option Expression) (recursive : Bool)
      (body otherwise : List Part)
  | assign (target : Target) (e : Expression)
  | capture (target : Target) (filter : Option Expression) (body : List Part)
  | scoped (bindings : List (Target × Expression)) (body : List Part)
  /-- A body whose text is marked where the expression holds. -/
  | marked (isMarked : Expression) (body : List Part)
  | filtered (filter : Expression) (body : List Part)
  | define (name : String) (parameters : List String) (defaults : List Expression)
      (body : List Part)
  | callWith (parameters : List String) (defaults : List Expression) (call : Expression)
      (body : List Part)
  | block (name : String) (isScoped isRequired : Bool) (body : List Part)
  | extend (template : Expression)
  | include (template : Expression) (ignoresMissing seesContext : Bool)
  | importAs (template : Expression) (name : String) (seesContext : Bool)
  | importFrom (template : Expression) (names : List (String × String)) (seesContext : Bool)
  | group (body : List Part)
deriving Inhabited

/-! ## Assigning -/

def fixedWords : List String := ["true", "false", "none", "True", "False", "None"]

def Expression.sort : Expression → String
  | .literal _ => "const"
  | .name _ => "name"
  | .tuple _ => "tuple"
  | .list _ => "list"
  | .mapping _ => "dict"
  | .attribute _ _ => "getattr"
  | .item _ _ => "getitem"
  | .slice _ _ _ => "slice"
  | .call _ _ _ _ _ => "call"
  | .filter _ _ _ _ _ _ => "filter"
  | .test _ _ _ _ _ _ => "test"
  | .binary _ _ _ => "binexpr"
  | .joined _ => "concat"
  | .compare _ _ => "compare"
  | .both _ _ => "and"
  | .either _ _ => "or"
  | .negate _ => "not"
  | .minus _ => "neg"
  | .plus _ => "pos"
  | .choice _ _ _ _ => "condexpr"

mutual

def Expression.target? : Expression → Option Target
  | .name id => if fixedWords.contains id then none else some (.name id)
  | .tuple items => (targets? items).map .tuple
  | _ => none

def targets? : List Expression → Option (List Target)
  | [] => some []
  | e :: rest => do
      let target ← e.target?
      let targets ← targets? rest
      some (target :: targets)

end

end StillMotion.Instruction
