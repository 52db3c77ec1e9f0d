import StillMotion.Text.Digit

/-!
# Regular expressions

The expressions that line programs search with, in their basic form, in which brackets and
counts are escaped, and in the extended form, in which they are not.  `find?` gives the first
place where an expression fits, with what its groups took; loops take as much as they can.
-/

namespace StillMotion.Scripting

open StillMotion.Text

inductive Regular where
  | nothing
  | one (accepts : Char → Bool)
  | start
  | finish
  /-- A place between a character of a word and one that is none. -/
  | edge
  | both (first second : Regular)
  | either (first second : Regular)
  | times (least : Nat) (most : Option Nat) (body : Regular)
  | group (number : Nat) (body : Regular)
  | again (number : Nat)

namespace Regular

/-! ## Reading -/

structure Form where
  extended : Bool
  folds : Bool

def isWordChar (c : Char) : Bool := c.isAlphanum || c == '_'

def classNamed (name : String) (c : Char) : Bool :=
  match name with
  | "alpha" => c.isAlpha
  | "digit" => c.isDigit
  | "alnum" => c.isAlphanum
  | "upper" => c.isUpper
  | "lower" => c.isLower
  | "space" => c == ' ' || (9 ≤ c.toNat && c.toNat ≤ 13)
  | "blank" => c == ' ' || c == '\t'
  | "punct" => 33 ≤ c.toNat && c.toNat ≤ 126 && !c.isAlphanum
  | "xdigit" => (hexValue? c).isSome
  | "cntrl" => c.toNat < 32 || c.toNat == 127
  | "print" => 32 ≤ c.toNat && c.toNat != 127
  | "graph" => 32 < c.toNat && c.toNat != 127
  | _ => false

def same (form : Form) (a b : Char) : Bool :=
  a == b || (form.folds && a.toLower == b.toLower)

/-- The members of a bracket up to its end, as a test; `fuel` bounds the length of the text. -/
def members (form : Form) :
    (fuel : Nat) → (atStart : Bool) → List Char → Option ((Char → Bool) × List Char)
  | 0, _, _ => none
  | _, _, [] => none
  | fuel + 1, atStart, ']' :: rest =>
      if atStart then
        (members form fuel false rest).map fun (more, rest) => (fun c => c == ']' || more c, rest)
      else some (fun _ => false, rest)
  | fuel + 1, _, '[' :: ':' :: rest =>
      let name := String.ofList (rest.takeWhile (· != ':'))
      (members form fuel false (rest.drop (name.length + 2))).map fun (more, rest) =>
        (fun c => classNamed name c || more c, rest)
  | fuel + 1, _, a :: '-' :: b :: rest =>
      if b == ']' then
        (members form fuel false ('-' :: b :: rest)).map fun (more, rest) =>
          (fun c => same form a c || more c, rest)
      else
        (members form fuel false rest).map fun (more, rest) =>
          (fun c => (a ≤ c && c ≤ b) || more c, rest)
  | fuel + 1, _, a :: rest =>
      (members form fuel false rest).map fun (more, rest) =>
        (fun c => same form a c || more c, rest)

def bracket? (form : Form) (cs : List Char) : Option (Regular × List Char) :=
  let members := members form (cs.length + 1) true
  match cs with
  | '^' :: rest => (members rest).map fun (test, rest) => (.one fun c => !test c && c != '\n', rest)
  | rest => (members rest).map fun (test, rest) => (.one test, rest)

def counts? (extended : Bool) (cs : List Char) : Option (Nat × Option Nat × List Char) :=
  let low := cs.takeWhile isAsciiDigit
  let rest := cs.drop low.length
  let (most, rest) := match rest with
    | ',' :: more =>
        let high := more.takeWhile isAsciiDigit
        (if high.isEmpty then none else some (digitsValue high), more.drop high.length)
    | rest => (some (digitsValue low), rest)
  let close := if extended then ['}'] else ['\\', '}']
  if rest.take close.length == close then
    some (digitsValue low, most, rest.drop close.length)
  else none

def repetition? (extended : Bool) : List Char → Option (Nat × Option Nat × List Char)
  | '*' :: rest => some (0, none, rest)
  | '+' :: rest => if extended then some (1, none, rest) else none
  | '?' :: rest => if extended then some (0, some 1, rest) else none
  | '{' :: rest => if extended then counts? true rest else none
  | '\\' :: '+' :: rest => if extended then none else some (1, none, rest)
  | '\\' :: '?' :: rest => if extended then none else some (0, some 1, rest)
  | '\\' :: '{' :: rest => if extended then none else counts? false rest
  | _ => none

def repeated (extended : Bool) : Nat → Regular → List Char → Regular × List Char
  | 0, body, rest => (body, rest)
  | fuel + 1, body, rest =>
      match repetition? extended rest with
      | some (least, most, rest) => repeated extended fuel (.times least most body) rest
      | none => (body, rest)

def mark? (extended : Bool) (c : Char) : List Char → Option (List Char)
  | '\\' :: d :: rest => if !extended && c == d then some rest else none
  | d :: rest => if extended && c == d then some rest else none
  | [] => none

def escapedOne (form : Form) (c : Char) : Regular :=
  match c with
  | 'w' => .one isWordChar
  | 'W' => .one fun c => !isWordChar c
  | 's' => .one (classNamed "space")
  | 'S' => .one fun c => !classNamed "space" c
  | 'b' => .edge
  | 'n' => .one (· == '\n')
  | 't' => .one (· == '\t')
  | c => if '1' ≤ c && c ≤ '9' then .again (c.toNat - 48) else .one (same form c)

mutual

/-- Alternatives up to the end of the text or of the group; `groups` counts those before. -/
def alternatives (form : Form) : Nat → Nat → List Char → Option (Regular × Nat × List Char)
  | 0, _, _ => none
  | fuel + 1, groups, cs => do
      let (first, groups, rest) ← sequence form fuel groups true .nothing cs
      match mark? form.extended '|' rest with
      | some rest =>
          let (second, groups, rest) ← alternatives form fuel groups rest
          some (.either first second, groups, rest)
      | none => some (first, groups, rest)
termination_by structural fuel => fuel

def sequence (form : Form) : Nat → Nat → Bool → Regular → List Char →
    Option (Regular × Nat × List Char)
  | 0, _, _, _, _ => none
  | fuel + 1, groups, atStart, seen, cs =>
      let go (body : Regular) (groups : Nat) (rest : List Char) :=
        let (body, rest) := repeated form.extended fuel body rest
        sequence form fuel groups false (.both seen body) rest
      if (mark? form.extended '|' cs).isSome || (mark? form.extended ')' cs).isSome then
        some (seen, groups, cs)
      else match mark? form.extended '(' cs with
        | some rest => do
            let number := groups + 1
            let (body, groups, rest) ← alternatives form fuel number rest
            let rest ← mark? form.extended ')' rest
            go (.group number body) groups rest
        | none =>
            match cs with
            | [] => some (seen, groups, [])
            | '^' :: rest =>
                if atStart || form.extended then
                  sequence form fuel groups true (.both seen .start) rest
                else go (.one (same form '^')) groups rest
            | '$' :: rest =>
                let ends := rest.isEmpty || form.extended ||
                  (mark? form.extended '|' rest).isSome || (mark? form.extended ')' rest).isSome
                if ends then sequence form fuel groups false (.both seen .finish) rest
                else go (.one (same form '$')) groups rest
            | '.' :: rest => go (.one fun _ => true) groups rest
            | '[' :: rest => do
                let (body, rest) ← bracket? form rest
                go body groups rest
            | '\\' :: c :: rest => go (escapedOne form c) groups rest
            | c :: rest =>
                if atStart && c == '*' then go (.one (same form '*')) groups rest
                else go (.one (same form c)) groups rest
termination_by structural fuel => fuel

end

/-- Read an expression, which has to be complete. -/
def ofText? (form : Form) (text : List Char) : Option Regular :=
  match alternatives form (2 * text.length + 3) 0 text with
  | some (expression, _, []) => some expression
  | _ => none

/-! ## Fitting -/

abbrev Taken := List (Nat × Nat × Nat)

def part (text : Array Char) (first last : Nat) : List Char := (text.extract first last).toList

/-- Fit an expression at a position and go on with what follows it; `fuel` bounds the steps. -/
def fit (text : Array Char) : Nat → Regular → Nat → Taken →
    (Nat → Taken → Option (Nat × Taken)) → Option (Nat × Taken)
  | 0, _, _, _, _ => none
  | fuel + 1, expression, here, taken, next =>
      match expression with
      | .nothing => next here taken
      | .one accepts => match text[here]? with
          | some c => if accepts c then next (here + 1) taken else none
          | none => none
      | .start => if here == 0 then next here taken else none
      | .finish => if here == text.size then next here taken else none
      | .edge =>
          let isWord (c? : Option Char) : Bool := (c?.map isWordChar).getD false
          let before := if here == 0 then none else text[here - 1]?
          if isWord before != isWord text[here]? then next here taken else none
      | .both first second =>
          fit text fuel first here taken fun here taken => fit text fuel second here taken next
      | .either first second =>
          match fit text fuel first here taken next, fit text fuel second here taken next with
          | some a, some b => if a.1 < b.1 then some b else some a
          | some a, none => some a
          | none, b => b
      | .times least most body =>
          if most == some 0 then next here taken
          else
            let more := fit text fuel body here taken fun after taken =>
              if after == here then none
              else fit text fuel (.times (least - 1) (most.map (· - 1)) body) after taken next
            match more with
            | some found => some found
            | none => if least == 0 then next here taken else none
      | .group number body =>
          fit text fuel body here taken fun after taken =>
            next after ((number, here, after) :: taken)
      | .again number =>
          match taken.find? fun entry => entry.1 == number with
          | some (_, first, last) =>
              let wanted := part text first last
              if part text here (here + wanted.length) == wanted then
                next (here + wanted.length) taken
              else none
          | none => none
termination_by structural fuel => fuel

structure Found where
  first : Nat
  last : Nat
  taken : Taken

def fitLimit (text : Array Char) : Nat := 200 * text.size + 2000

def find? (expression : Regular) (text : Array Char) (start : Nat) : Option Found :=
  ((List.range (text.size + 1 - start)).map (· + start)).findSome? fun first =>
    (fit text (fitLimit text) expression first [] fun last taken => some (last, taken)).map
      fun (last, taken) => ⟨first, last, taken⟩

/-- What a group took; the number zero stands for all. -/
def Found.group (found : Found) (text : Array Char) (number : Nat) : List Char :=
  if number == 0 then part text found.first found.last
  else match found.taken.find? fun entry => entry.1 == number with
    | some (_, first, last) => part text first last
    | none => []

end Regular

end StillMotion.Scripting
