import StillMotion.Data.Operation
import StillMotion.Data.Shown
import StillMotion.Instruction.TemplateFault
import StillMotion.Text.Blank

/-!
# What names stand for in a template

Beside the values of data a name may stand for a row of values of another form, for an operation
of a value, for a function, or for a thing that is made while a template is filled in.  A name
without a value stands for what is missing, and using it is a fault that tells why.
-/

namespace StillMotion.Instruction

open StillMotion.Number StillMotion.Text

inductive ThingSort where
  | space
  | cycler
  | joiner
  | loop
  | macroOf
  | module
deriving DecidableEq, Repr

namespace ThingSort

def name : ThingSort → String
  | .space => "Namespace"
  | .cycler => "Cycler"
  | .joiner => "Joiner"
  | .loop => "LoopContext"
  | .macroOf => "Macro"
  | .module => "TemplateModule"

def home : ThingSort → String
  | .space | .cycler | .joiner => "jinja2.utils"
  | .loop | .macroOf => "jinja2.runtime"
  | .module => "jinja2.environment"

end ThingSort

inductive View where
  | keys
  | values
  | items
deriving DecidableEq, Repr

def View.name : View → String
  | .keys => "dict_keys"
  | .values => "dict_values"
  | .items => "dict_items"

inductive Datum where
  | missing (reason : String)
  /-- What is missing where a choice leaves it open; it is shown as an empty text. -/
  | blank (reason : String)
  | null
  | bool (b : Bool)
  | int (n : Int)
  | float (x : Float)
  /-- A text; a safe one needs no escapes. -/
  | str (s : String) (isSafe : Bool)
  | list (items : List Datum)
  | tuple (items : List Datum)
  /-- Items under the key that they have in common: a tuple of the key and a list. -/
  | group (key : Datum) (items : List Datum)
  | mapping (entries : List (Datum × Datum))
  | view (shows : View) (items : List Datum)
  /-- The integers from `first` on, `step` apart, before `last`. -/
  | span (first last step : Int)
  /-- Things that come one after the other; `kind` tells what gives them. -/
  | stream (kind : String) (items : List Datum)
  | method (owner : Datum) (name : String)
  | function (name : String)
  /-- The kind of some data, by its full name. -/
  | kindOf (name : String)
  | thing (sort : ThingSort) (place : Nat)
deriving Inhabited

abbrev Filling (α : Type) := Except TemplateFault α

namespace Datum

def text (s : String) : Datum := .str s false

mutual

def ofValue : Value → Datum
  | .null => .null
  | .bool b => .bool b
  | .int n => .int n
  | .float x => .float x
  | .str s => text s
  | .list items => .list (ofValues items)
  | .mapping entries => .mapping (ofEntries entries)
  | .table pairs => .mapping (ofPairs pairs)
  | v => text v.shown

def ofValues : List Value → List Datum
  | [] => []
  | v :: rest => ofValue v :: ofValues rest

def ofEntries : List (String × Value) → List (Datum × Datum)
  | [] => []
  | (key, v) :: rest => (text key, ofValue v) :: ofEntries rest

def ofPairs : List (Value × Value) → List (Datum × Datum)
  | [] => []
  | (key, v) :: rest => (ofValue key, ofValue v) :: ofPairs rest

end

/-! ## Kinds -/

def kindName : Datum → String
  | .missing _ => "StrictUndefined"
  | .blank _ => "Undefined"
  | .null => "NoneType"
  | .bool _ => "bool"
  | .int _ => "int"
  | .float _ => "float"
  | .str _ isSafe => if isSafe then "Markup" else "str"
  | .list _ => "list"
  | .tuple _ => "tuple"
  | .group _ _ => "_GroupTuple"
  | .mapping _ => "dict"
  | .view shows _ => shows.name
  | .span _ _ _ => "range"
  | .stream kind _ => kind
  | .method _ _ => "builtin_function_or_method"
  | .function _ => "function"
  | .kindOf _ => "type"
  | .thing sort _ => sort.name

def fullKindName : Datum → String
  | .str _ true => "markupsafe.Markup"
  | .group _ _ => "jinja2.filters._GroupTuple"
  | .thing sort _ => s!"{sort.home}.{sort.name}"
  | d => d.kindName

def ownerText : Datum → String
  | .null => "None"
  | d => s!"{d.fullKindName} object"

def functionKind? (name : String) : Option String :=
  match name with
  | "range" | "dict" => some name
  | "cycler" => some "jinja2.utils.Cycler"
  | "joiner" => some "jinja2.utils.Joiner"
  | "namespace" => some "jinja2.utils.Namespace"
  | _ => none

def kindText (name : String) : String := s!"<class {quoted name}>"

def misfit {α : Type} (cause : Misfit) : Filling α := .error (.misfit cause)

def ofMisfit {α : Type} (result : Except Misfit α) : Filling α := result.mapError .misfit

def present (d : Datum) : Filling Datum :=
  match d with
  | .missing reason => .error (.undefined reason)
  | .blank reason => .error (.undefined reason)
  | d => .ok d

def plain : Datum → Datum
  | .group key items => .tuple [key, .list items]
  | d => d

def isPresent : Datum → Bool
  | .missing _ => false
  | .blank _ => false
  | _ => true

/-! ## Numbers -/

def numeric? : Datum → Option Numeric
  | .bool b => some (.int (if b then 1 else 0))
  | .int n => some (.int n)
  | .float x => some (.float x)
  | _ => none

def integer? : Datum → Option Int
  | .bool b => some (if b then 1 else 0)
  | .int n => some n
  | _ => none

def ofNumeric : Numeric → Datum
  | .int n => .int n
  | .float x => .float x

def integerOf (d : Datum) : Filling Int := do
  let d ← d.present
  match d.integer? with
  | some n => return n
  | none => misfit (.notInteger d.kindName)

def natOf (d : Datum) : Filling Nat := return (← integerOf d).toNat

def spanLength (first last step : Int) : Nat :=
  if 0 < step then ((last - first + step - 1).fdiv step).toNat
  else ((first - last - step - 1).fdiv (-step)).toNat

def spanItems (first last step : Int) : List Datum :=
  (List.range (spanLength first last step)).map fun (i : Nat) => .int (first + i * step)

/-! ## Texts -/

def intText (n : Int) : Except Misfit String :=
  if (Value.int n).isWithin digitLimit then .ok (Value.intText n) else .error .integerTooWide

def parenthesized : List String → String
  | [s] => s!"({s},)"
  | texts => "(" ++ ", ".intercalate texts ++ ")"

mutual

def quotedForm : Datum → Except Misfit String
  | .missing _ => .ok "Undefined"
  | .blank _ => .ok "Undefined"
  | .null => .ok "None"
  | .bool b => .ok (if b then "True" else "False")
  | .int n => intText n
  | .float x => .ok (String.ofList (plainText x))
  | .str s isSafe => .ok (if isSafe then s!"Markup({quoted s})" else quoted s)
  | .list items => do
      return "[" ++ ", ".intercalate (← quotedItems items) ++ "]"
  | .tuple items => do return parenthesized (← quotedItems items)
  | .group key items => do
      return "(" ++ (← quotedForm key) ++ ", [" ++ ", ".intercalate (← quotedItems items) ++ "])"
  | .mapping entries => do
      return "\x7b" ++ ", ".intercalate (← quotedEntries entries) ++ "\x7d"
  | .view shows items => do
      return shows.name ++ "([" ++ ", ".intercalate (← quotedItems items) ++ "])"
  | .span first last step => do
      let ends := (← intText first) ++ ", " ++ (← intText last)
      let pace ← if step == 1 then .ok "" else (intText step).map (", " ++ ·)
      return "range(" ++ ends ++ pace ++ ")"
  | .stream kind _ => .ok s!"<{kind} object>"
  | .method owner name => .ok s!"<built-in method {name} of {owner.kindName} object>"
  | .function name => .ok (((functionKind? name).map kindText).getD s!"<function {name}>")
  | .kindOf name => .ok (kindText name)
  | .thing sort _ => .ok s!"<{sort.name}>"

def quotedItems : List Datum → Except Misfit (List String)
  | [] => .ok []
  | d :: rest => do return (← quotedForm d) :: (← quotedItems rest)

def quotedEntries : List (Datum × Datum) → Except Misfit (List String)
  | [] => .ok []
  | (key, d) :: rest => do
      return ((← quotedForm key) ++ ": " ++ (← quotedForm d)) :: (← quotedEntries rest)

end

def shown : Datum → Filling String
  | .missing reason => .error (.undefined reason)
  | .blank _ => .ok ""
  | .str s _ => .ok s
  | d => ofMisfit d.quotedForm

def isSafe : Datum → Bool
  | .str _ isSafe => isSafe
  | _ => false

def escapeText (s : String) : String :=
  String.join (s.toList.map fun c =>
    if c == '&' then "&amp;" else if c == '<' then "&lt;" else if c == '>' then "&gt;"
    else if c == '"' then "&#34;" else if c == apostrophe then "&#39;" else c.toString)

def escaped (d : Datum) : Filling Datum :=
  match d with
  | .str s true => .ok (.str s true)
  | d => return .str (escapeText (← d.shown)) true

/-! ## Contents -/

/-- Whether a datum counts as true. -/
def truth : Datum → Filling Bool
  | .missing reason => .error (.undefined reason)
  | .blank _ => .ok false
  | .null => .ok false
  | .bool b => .ok b
  | .int n => .ok (n != 0)
  | .float x => .ok (x != 0.0)
  | .str s _ => .ok !s.isEmpty
  | .list items => .ok !items.isEmpty
  | .tuple items => .ok !items.isEmpty
  | .mapping entries => .ok !entries.isEmpty
  | .view _ items => .ok !items.isEmpty
  | .span first last step => .ok (spanLength first last step != 0)
  | _ => .ok true

def letters (s : String) : List Datum := s.toList.map fun c => text c.toString

def items : Datum → Filling (List Datum)
  | .missing reason => .error (.undefined reason)
  | .blank _ => .ok []
  | .str s _ => .ok (letters s)
  | .list items => .ok items
  | .tuple items => .ok items
  | .group key items => .ok [key, .list items]
  | .mapping entries => .ok (entries.map (·.1))
  | .view _ items => .ok items
  | .span first last step => .ok (spanItems first last step)
  | .stream _ items => .ok items
  | d => misfit (.notIterable d.kindName)

def length : Datum → Filling Nat
  | .missing reason => .error (.undefined reason)
  | .blank _ => .ok 0
  | .str s _ => .ok s.length
  | .list items => .ok items.length
  | .tuple items => .ok items.length
  | .group _ _ => .ok 2
  | .mapping entries => .ok entries.length
  | .view _ items => .ok items.length
  | .span first last step => .ok (spanLength first last step)
  | d => misfit (.noLength d.kindName)

/-! ## Equality -/

mutual

/-- Whether two data are equal.  What is missing cannot be compared. -/
def same : Datum → Datum → Filling Bool
  | .missing reason, _ => .error (.undefined reason)
  | _, .missing reason => .error (.undefined reason)
  | .null, .null => .ok true
  | .blank _, .blank _ => .ok true
  | .str s _, .str t _ => .ok (s == t)
  | .list xs, .list ys => sameItems xs ys
  | .tuple xs, .tuple ys => sameItems xs ys
  | .group a xs, .group b ys => do if ← same a b then sameItems xs ys else return false
  | .group a xs, .tuple [b, .list ys] => do if ← same a b then sameItems xs ys else return false
  | .tuple [a, .list xs], .group b ys => do if ← same a b then sameItems xs ys else return false
  | .mapping xs, .mapping ys => if xs.length == ys.length then sameEntries xs ys else .ok false
  | .view _ xs, .view _ ys => sameItems xs ys
  | .span a b c, .span d e f => .ok (a == d && b == e && c == f)
  | .function s, .function t => .ok (s == t)
  | .kindOf s, .kindOf t => .ok (s == t)
  | .thing _ m, .thing _ n => .ok (m == n)
  | a, b => match a.numeric?, b.numeric? with
      | some m, some n => .ok (m.compare? n == some .eq)
      | _, _ => .ok false

def sameItems : List Datum → List Datum → Filling Bool
  | [], [] => .ok true
  | x :: xs, y :: ys => do if ← same x y then sameItems xs ys else return false
  | _, _ => .ok false

def sameEntries : List (Datum × Datum) → List (Datum × Datum) → Filling Bool
  | [], _ => .ok true
  | (key, x) :: xs, ys => do
      if ← sameUnder key x ys then sameEntries xs ys else return false

def sameUnder (key x : Datum) : List (Datum × Datum) → Filling Bool
  | [] => .ok false
  | (other, y) :: rest => do if ← same key other then same x y else sameUnder key x rest

end

def isAmong (x : Datum) (items : List Datum) : Filling Bool := items.anyM fun y => same x y

/-! ## Mappings -/

def checkKey (key : Datum) : Filling Unit :=
  match key with
  | .missing reason => .error (.undefined reason)
  | .list _ | .mapping _ => misfit (.unhashable key.kindName)
  | .view _ _ => misfit (.unhashable key.kindName)
  | _ => .ok ()

def lookUp (entries : List (Datum × Datum)) (key : Datum) : Filling (Option Datum) := do
  match entries with
  | [] => return none
  | (other, d) :: rest => if ← same key other then return some d else lookUp rest key

def put (key d : Datum) : List (Datum × Datum) → Filling (List (Datum × Datum))
  | [] => .ok [(key, d)]
  | (other, e) :: rest => do
      if ← same key other then return (other, d) :: rest
      return (other, e) :: (← put key d rest)

def mappingOf (entries : List (Datum × Datum)) : Filling Datum := do
  let made ← entries.foldlM (fun seen entry => do
    checkKey entry.1
    put entry.1 entry.2 seen) []
  return .mapping made

end Datum

end StillMotion.Instruction
