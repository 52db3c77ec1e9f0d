/-!
# Patterns

A pattern is text in which a star stands for any text, a question mark for any character and
brackets for one of several; characters that are quoted stand for themselves.
-/

namespace StillMotion.Scripting

abbrev Marked := Char × Bool

def isSpecial (c : Char) : Bool := c == '*' || c == '?' || c == '['

def hasPattern (cs : List Marked) : Bool := cs.any fun (c, isQuoted) => !isQuoted && isSpecial c

def bracketMembers : List Marked → List Marked → Option (List Marked × List Marked)
  | _, [] => none
  | seen, (c, isQuoted) :: rest =>
      if c == ']' && !isQuoted && !seen.isEmpty then some (seen.reverse, rest)
      else bracketMembers ((c, isQuoted) :: seen) rest

def isMember (c : Char) : List Marked → Bool
  | (a, _) :: ('-', false) :: (b, _) :: rest => (a ≤ c && c ≤ b) || isMember c rest
  | (a, _) :: rest => a == c || isMember c rest
  | [] => false

def bracket? (c : Char) (cs : List Marked) : Option (Bool × List Marked) :=
  let (negated, cs) := match cs with
    | ('!', false) :: rest => (true, rest)
    | rest => (false, rest)
  (bracketMembers [] cs).map fun (members, rest) => (isMember c members != negated, rest)

/-- Whether a whole text fits a pattern; `fuel` bounds the steps. -/
def fits : Nat → List Marked → List Char → Bool
  | 0, _, _ => false
  | _, [], text => text.isEmpty
  | fuel + 1, (p, isQuoted) :: rest, text =>
      if p == '*' && !isQuoted then
        fits fuel rest text || match text with
          | [] => false
          | _ :: more => fits fuel ((p, isQuoted) :: rest) more
      else match text with
        | [] => false
        | c :: more =>
            if p == '?' && !isQuoted then fits fuel rest more
            else match if p == '[' && !isQuoted then bracket? c rest else none with
              | some (isIn, rest) => isIn && fits fuel rest more
              | none => p == c && fits fuel rest more

def isMatch (pattern : List Marked) (text : List Char) : Bool :=
  fits (pattern.length + text.length + 1) pattern text

def withoutStart (longest : Bool) (pattern : List Marked) (text : List Char) : List Char :=
  let lengths := List.range (text.length + 1)
  let lengths := if longest then lengths.reverse else lengths
  match lengths.find? fun n => isMatch pattern (text.take n) with
  | some n => text.drop n
  | none => text

def withoutEnd (longest : Bool) (pattern : List Marked) (text : List Char) : List Char :=
  let lengths := List.range (text.length + 1)
  let lengths := if longest then lengths else lengths.reverse
  match lengths.find? fun n => isMatch pattern (text.drop n) with
  | some n => text.take n
  | none => text

end StillMotion.Scripting
