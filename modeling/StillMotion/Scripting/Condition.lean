import StillMotion.Scripting.Shell
import StillMotion.Text.Blank
import StillMotion.Text.Digit
import StillMotion.Text.Search

/-!
# Conditions

Tests of texts, numbers and files.
-/

namespace StillMotion.Scripting

open StillMotion.Text Run

inductive ConditionFault where
  | notUnary (word operand : String)
  /-- An operator between two operands lacks the second one. -/
  | missingOperand (op : String)
  /-- A word between two operands is no operator. -/
  | notBinary (left word : String)
  /-- Words that are no condition. -/
  | excess (first last : String)
  | illegalNumber (word : String)
  | missingBracket
deriving DecidableEq, Repr

def ConditionFault.words : ConditionFault → String
  | .notUnary word _ | .notBinary word _ | .excess word _ => s!"{word}: unexpected operator"
  | .missingOperand op => s!"{op}: argument expected"
  | .illegalNumber word => s!"Illegal number: {word}"
  | .missingBracket => "missing ]"

def ConditionFault.ownWords : ConditionFault → String
  | .notUnary word operand =>
      if word.length == 2 && word.startsWith "-" then s!"‘{word}’: unary operator expected"
      else s!"missing argument after ‘{operand}’"
  | .notBinary _ word => s!"‘{word}’: binary operator expected"
  | .excess _ last => s!"extra argument ‘{last}’"
  | .missingOperand op => s!"missing argument after ‘{op}’"
  | .illegalNumber word => s!"invalid integer ‘{word}’"
  | .missingBracket => "missing ‘]’"

abbrev Answer := Except ConditionFault Bool

/-! ## Operators -/

def nodeOf? (text : String) : Run (Option Node) := do
  let s ← shell
  match s.files.locate s.directory (Path.ofText text) with
  | .ok place => return if text.isEmpty then none else s.files.node? place
  | .error _ => return none

/-- An operator with one operand; nothing when there is no such operator. -/
def unaryTest? (op text : String) : Run (Option Bool) := do
  let node ← nodeOf? text
  match op with
  | "-n" => return some !text.isEmpty
  | "-z" => return some text.isEmpty
  | "-e" | "-r" | "-w" => return some (node.isSome || text == sink)
  | "-f" => return some (match node with
      | some (.file _ _) => true
      | _ => false)
  | "-d" => return some (match node with
      | some .directory => true
      | _ => false)
  | "-s" => return some (match node with
      | some (.file content _) => content.size != 0
      | some .directory => true
      | none => false)
  | "-x" => return some (match node with
      | some (.file _ executable) => executable
      | some .directory => true
      | none => false)
  | "-L" | "-h" | "-p" | "-S" | "-t" | "-b" | "-c" | "-u" | "-g" | "-k" => return some false
  | _ => return none

def integer? (s : String) : Option Int :=
  let cs := trimChars s.toList
  let (isNegative, digits) := match cs with
    | '-' :: rest => (true, rest)
    | '+' :: rest => (false, rest)
    | cs => (false, cs)
  if digits.isEmpty || !digits.all isAsciiDigit then none
  else
    let n : Int := digitsValue digits
    some (if isNegative then -n else n)

def comparison? (op : String) : Option (Int → Int → Bool) :=
  match op with
  | "-eq" => some fun x y => x == y
  | "-ne" => some fun x y => x != y
  | "-lt" => some fun x y => x < y
  | "-le" => some fun x y => x ≤ y
  | "-gt" => some fun x y => y < x
  | "-ge" => some fun x y => y ≤ x
  | _ => none

/-- A comparison of the files that two names lead to.  Files are taken to be as old as each
other; a file is newer than none. -/
def fileComparison? (op : String) (isLeft isRight isSame : Bool) : Option Bool :=
  match op with
  | "-nt" => some (isLeft && !isRight)
  | "-ot" => some (!isLeft && isRight)
  | "-ef" => some isSame
  | _ => none

def textComparison? (op : String) : Option (String → String → Bool) :=
  match op with
  | "=" => some fun a b => a == b
  | "!=" => some fun a b => a != b
  | "<" => some fun a b => a < b
  | ">" => some fun a b => b < a
  | _ => none

/-- An operator between two operands; nothing when there is no such operator. -/
def binaryTest? (op a b : String) : Option Answer :=
  match textComparison? op with
  | some compare => some (.ok (compare a b))
  | none => (comparison? op).map fun compare =>
      match integer? a, integer? b with
      | none, _ => .error (.illegalNumber a)
      | _, none => .error (.illegalNumber b)
      | some x, some y => .ok (compare x y)

def isBinary (op : String) : Bool :=
  (comparison? op).isSome || (textComparison? op).isSome ||
    (fileComparison? op false false false).isSome

def presentPlace? (text : String) : Run (Option Place) := do
  let s ← shell
  let place? := (s.files.locate s.directory (Path.ofText text)).toOption
  return if text.isEmpty then none else place?.filter fun place => (s.files.node? place).isSome

/-! ## Conditions over arguments -/

def cutAt? (word : String) (args : List String) : Option (List String × List String) :=
  (args.findIdx? (· == word)).map fun i => (args.take i, args.drop (i + 1))

def negated : Answer → Answer := Except.map not

/-- The answer of a condition; `fuel` bounds its depth. -/
def condition : Nat → List String → Run Answer
  | 0, _ => return .ok false
  | fuel + 1, args => do
      match args with
      | [] => return .ok false
      | [a] => return .ok !a.isEmpty
      | ["!", a] => return .ok a.isEmpty
      | [op, a] =>
          match ← unaryTest? op a with
          | some answer => return .ok answer
          | none =>
              if isBinary a then return .error (.missingOperand a)
              else return .error (.notUnary op a)
      | [a, op, b] =>
          let (left, right) := (← presentPlace? a, ← presentPlace? b)
          let compared := fileComparison? op left.isSome right.isSome (left.isSome && left == right)
          match (compared.map Except.ok).orElse fun _ => binaryTest? op a b with
          | some answer => return answer
          | none =>
              if a == "!" then return negated (← condition fuel [op, b])
              else if a == "(" && b == ")" then condition fuel [op]
              else if op == "-a" then return .ok (!a.isEmpty && !b.isEmpty)
              else if op == "-o" then return .ok (!a.isEmpty || !b.isEmpty)
              else return .error (.notBinary a op)
      | "!" :: rest =>
          if rest.length ≤ 3 then return negated (← condition fuel rest) else joined fuel args
      | args => joined fuel args
where
  /-- Conditions joined by the marks of disjunction and conjunction. -/
  joined (fuel : Nat) (args : List String) : Run Answer := do
    let both (combine : Bool → Bool → Bool) (left right : List String) : Run Answer := do
      let a ← condition fuel left
      let b ← condition fuel right
      return a.bind fun a => b.map fun b => combine a b
    match cutAt? "-o" args, cutAt? "-a" args with
    | some (left, right), _ => both or left right
    | none, some (left, right) => both and left right
    | none, none =>
        if args.head? == some "(" && args.getLast? == some ")" then
          condition fuel (args.drop 1).dropLast
        else return .error (.excess (args.head?.getD "") (args.getLast?.getD ""))

/-- Test a condition; in its form with brackets the last argument closes it.  `line` is where the
condition stands in a script, if a script itself tests it. -/
def test (streams : Streams) (line : Option Nat) (name : String) (args : List String) :
    Run Nat := do
  let answer ←
    if name == "[" then
      if args.getLast? == some "]" then condition (args.length + 2) args.dropLast
      else pure (.error .missingBracket)
    else condition (args.length + 2) args
  match answer with
  | .ok true => return 0
  | .ok false => return 1
  | .error fault => do
      match line with
      | some line => report streams line s!"{name}: {fault.words}"
      | none => say streams.err s!"{name}: {fault.ownWords}\n"
      return 2

end StillMotion.Scripting
