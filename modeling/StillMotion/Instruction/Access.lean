import StillMotion.Instruction.Formatting

/-!
# Operations on data

What the operators of a template do, and what can be reached from a datum: its items, the parts
of it between two positions, its members and its operations.
-/

namespace StillMotion.Instruction

open StillMotion.Number StillMotion.Text

namespace Datum

/-! ## Arithmetic -/

def operator? (symbol : String) : Option Operator :=
  match symbol with
  | "+" => some .add
  | "-" => some .subtract
  | "*" => some .multiply
  | "/" => some .divide
  | "//" => some .floorDivide
  | "%" => some .remainder
  | "**" => some .power
  | _ => none

def repeated? (d : Datum) (n : Int) : Option Datum :=
  match d.plain with
  | .str s isSafe => some (.str (String.join (List.replicate n.toNat s)) isSafe)
  | .list items => some (.list (List.replicate n.toNat items).flatten)
  | .tuple items => some (.tuple (List.replicate n.toNat items).flatten)
  | _ => none

def isSequence (d : Datum) : Bool := (d.repeated? 0).isSome

def sum (a b : Datum) : Filling Datum :=
  match a.plain, b.plain with
  | .str s safe, .str t safe' =>
      if safe == safe' then .ok (.str (s ++ t) safe)
      else .ok (.str ((if safe then s else escapeText s) ++ (if safe' then t else escapeText t))
        true)
  | .list xs, .list ys => .ok (.list (xs ++ ys))
  | .tuple xs, .tuple ys => .ok (.tuple (xs ++ ys))
  | a, b =>
      if a.isSequence then
        let base := match a with
          | .str _ _ => "str"
          | a => a.kindName
        misfit (.concatenation base b.kindName)
      else misfit (.operands "+" a.kindName b.kindName)

def product (a b : Datum) : Filling Datum :=
  if a.isSequence then
    match b.integer?.bind a.repeated? with
    | some d => .ok d
    | none => misfit (.repetition b.kindName)
  else if b.isSequence then
    match a.integer?.bind b.repeated? with
    | some d => .ok d
    | none => misfit (.repetition a.kindName)
  else misfit (.operands "*" a.kindName b.kindName)

def combine (operator : Operator) (a b : Datum) : Filling Datum := do
  let a ← a.present
  let b ← b.present
  match a.numeric?, b.numeric? with
  | some m, some n => return ofNumeric (← ofMisfit (numericResult operator m n))
  | _, _ =>
      match operator, a with
      | .add, _ => sum a b
      | .multiply, _ => product a b
      | .remainder, .str s isSafe => return .str (← Percent.fill s b) isSafe
      | _, _ => misfit (.operands operator.symbol a.kindName b.kindName)

def negated (d : Datum) : Filling Datum := do
  let d ← d.present
  match d.numeric? with
  | some (.int n) => return .int (-n)
  | some (.float x) => return .float (-x)
  | none => misfit (.unary "unary -" d.kindName)

def affirmed (d : Datum) : Filling Datum := do
  let d ← d.present
  match d.numeric? with
  | some n => return ofNumeric n
  | none => misfit (.unary "unary +" d.kindName)

/-! ## Order -/

def withoutSame : List Datum → List Datum → Filling (List Datum × List Datum)
  | x :: xs, y :: ys => do
      if ← same x y then withoutSame xs ys else return (x :: xs, y :: ys)
  | xs, ys => .ok (xs, ys)

/-- Compare two data; lists by their first difference.  `depth` bounds the nesting. -/
def compareIn (comparison : Comparison) : Nat → Datum → Datum → Filling Bool
  | 0, _, _ => .error .tooDeep
  | depth + 1, a, b => do
      let a ← a.present
      let b ← b.present
      let byItems (xs ys : List Datum) : Filling Bool := do
        match ← withoutSame xs ys with
        | (x :: _, y :: _) => compareIn comparison depth x y
        | (xs, ys) => return comparison.admits (compare xs.length ys.length)
      match a.numeric?, b.numeric? with
      | some m, some n => return (m.compare? n).any comparison.admits
      | _, _ => match a.plain, b.plain with
          | .str s _, .str t _ => return comparison.admits (compare s t)
          | .list xs, .list ys => byItems xs ys
          | .tuple xs, .tuple ys => byItems xs ys
          | a, b => misfit (.unordered comparison.symbol a.kindName b.kindName)

def compareBy (comparison : Comparison) (a b : Datum) : Filling Bool :=
  compareIn comparison 1000 a b

def isIn (x container : Datum) : Filling Bool := do
  match container.plain with
  | .missing reason => throw (.undefined reason)
  | .str s _ => match x with
      | .str t _ => return containsText s t
      | .missing reason => throw (.undefined reason)
      | x => misfit (.notText x.kindName)
  | .mapping entries => do
      checkKey x
      return (← lookUp entries x).isSome
  | .list items => isAmong x items
  | .tuple items => isAmong x items
  | .view _ items => isAmong x items
  | .span first last step => isAmong x (spanItems first last step)
  | .stream _ items => isAmong x items
  | d => misfit (.notContainer d.kindName)

def compared (symbol : String) (a b : Datum) : Filling Bool := do
  match symbol with
  | "==" => same a b
  | "!=" => return !(← same a b)
  | "<" => compareBy .less a b
  | "<=" => compareBy .atMost a b
  | ">" => compareBy .greater a b
  | ">=" => compareBy .atLeast a b
  | "in" => isIn a b
  | _ => return !(← isIn a b)

/-! ## Items and parts -/

/-- The place of an index in a row; a negative one counts from the end. -/
def seat? (length : Nat) (n : Int) : Option Nat :=
  let at' := if n < 0 then n + length else n
  if 0 ≤ at' && at' < length then some at'.toNat else none

def atIndex? (items : List Datum) (n : Int) : Option Datum :=
  (seat? items.length n).bind (items[·]?)

def element? (d key : Datum) : Filling (Option Datum) := do
  match d.plain with
  | .missing reason => throw (.undefined reason)
  | .mapping entries =>
      match key with
      | .missing reason => throw (.undefined reason)
      | .list _ | .mapping _ | .view _ _ => return none
      | key => lookUp entries key
  | .str s isSafe => return (key.integer?.bind (atIndex? (letters s))).map fun d => match d with
      | .str c _ => .str c isSafe
      | d => d
  | .list items => return key.integer?.bind (atIndex? items)
  | .tuple items => return key.integer?.bind (atIndex? items)
  | .span first last step => return key.integer?.bind (atIndex? (spanItems first last step))
  | _ => return none

def absence (d key : Datum) : Datum :=
  match key with
  | .str name _ => .missing s!"{quoted d.ownerText} has no attribute {quoted name}"
  | key =>
      let told := match key.quotedForm with
        | .ok s => s
        | .error _ => ""
      .missing s!"{d.ownerText} has no element {told}"

def bound (length : Nat) (isFalling : Bool) (standard : Int) : Datum → Filling Int
  | .null => .ok standard
  | d => match d.integer? with
      | some n =>
          let n := if n < 0 then n + length else n
          let low : Int := if isFalling then -1 else 0
          let high : Int := if isFalling then (length : Int) - 1 else length
          .ok (max low (min high n))
      | none => misfit (.kindOf "TypeError"
          "slice indices must be integers or None or have an __index__ method")

/-- The items between two positions, `step` apart. -/
def part {α : Type} (row : List α) (first last step : Datum) : Filling (List α) := do
  let pace ← match step with
    | .null => pure 1
    | d => match d.integer? with
        | some n => pure n
        | none => misfit (.kindOf "TypeError"
            "slice indices must be integers or None or have an __index__ method")
  if pace == 0 then misfit (.kindOf "ValueError" "slice step cannot be zero")
  let isFalling := decide (pace < 0)
  let length := row.length
  let low ← bound length isFalling (if isFalling then (length : Int) - 1 else 0) first
  let high ← bound length isFalling (if isFalling then -1 else length) last
  let row := row.toArray
  return (List.range (spanLength low high pace)).filterMap fun (i : Nat) =>
    row[(low + i * pace).toNat]?

def slice (d first last step : Datum) : Filling Datum := do
  match d.plain with
  | .missing reason => throw (.undefined reason)
  | .str s isSafe => return .str (String.ofList (← part s.toList first last step)) isSafe
  | .list items => return .list (← part items first last step)
  | .tuple items => return .tuple (← part items first last step)
  | .span low high pace => return .list (← part (spanItems low high pace) first last step)
  | .mapping _ => misfit (.unhashable "slice")
  | d => misfit (.notSubscriptable d.kindName)

/-! ## Members -/

def textMethods : List String :=
  ["capitalize", "casefold", "center", "count", "endswith", "expandtabs", "find", "format",
   "index", "isalnum", "isalpha", "isascii", "isdecimal", "isdigit", "islower", "isnumeric",
   "isspace", "isupper", "join", "ljust", "lower", "lstrip", "partition", "removeprefix",
   "removesuffix", "replace", "rfind", "rindex", "rjust", "rpartition", "rsplit", "rstrip",
   "split", "splitlines", "startswith", "strip", "swapcase", "title", "upper", "zfill"]

def methods : Datum → List String
  | .str _ isSafe => if isSafe then textMethods ++ ["striptags", "unescape"] else textMethods
  | .list _ =>
      ["append", "clear", "copy", "count", "extend", "index", "insert", "pop", "remove",
       "reverse", "sort"]
  | .tuple _ | .group _ _ => ["count", "index"]
  | .mapping _ =>
      ["clear", "copy", "get", "items", "keys", "pop", "popitem", "setdefault", "update",
       "values"]
  | .int _ => ["bit_length"]
  | .bool _ => ["bit_length"]
  | .float _ => ["is_integer"]
  | .span _ _ _ => ["count", "index"]
  | _ => []

def own? (d : Datum) (name : String) : Option Datum :=
  if d.methods.contains name then some (.method d name)
  else match d, name with
    | d, "__class__" => some (.kindOf d.fullKindName)
    | .kindOf name, "__name__" => (split '.' name).getLast?.map text
    | .int n, "real" | .int n, "numerator" => some (.int n)
    | .int _, "imag" => some (.int 0)
    | .int _, "denominator" => some (.int 1)
    | .float x, "real" => some (.float x)
    | .float _, "imag" => some (.float 0.0)
    | .group key _, "grouper" => some key
    | .group _ items, "list" => some (.list items)
    | .span first _ _, "start" => some (.int first)
    | .span _ last _, "stop" => some (.int last)
    | .span _ _ step, "step" => some (.int step)
    | _, _ => none

def member (d : Datum) (name : String) : Filling Datum := do
  let d ← d.present
  match d.own? name with
  | some e => return e
  | none => match ← d.element? (text name) with
      | some e => return e
      | none => return absence d (text name)

def element (d key : Datum) : Filling Datum := do
  let d ← d.present
  match ← d.element? key with
  | some e => return e
  | none => match key with
      | .str name _ => return (d.own? name).getD (absence d key)
      | key => return absence d key

end Datum

end StillMotion.Instruction
