/-!
# Searching and cutting text

Substring search, splitting at a separator and case folding for needles written in lower
case ASCII.
-/

namespace StillMotion.Text

/-- `cs` without the leading `lead`, when it starts with it. -/
def dropLead? (lead : List Char) (cs : List Char) : Option (List Char) :=
  match lead, cs with
  | [], rest => some rest
  | _ :: _, [] => none
  | a :: lead, c :: cs => if a == c then dropLead? lead cs else none

def startsWith (cs lead : List Char) : Bool := (dropLead? lead cs).isSome

/-- Whether `needle` occurs as consecutive characters of the text. -/
def contains (needle : List Char) : List Char → Bool
  | [] => needle.isEmpty
  | c :: cs => startsWith (c :: cs) needle || contains needle cs

def containsText (s needle : String) : Bool := contains needle.toList s.toList

def splitChar (sep : Char) : List Char → List (List Char)
  | [] => [[]]
  | c :: cs =>
      if c == sep then [] :: splitChar sep cs
      else match splitChar sep cs with
        | [] => [[c]]
        | piece :: pieces => (c :: piece) :: pieces

def split (sep : Char) (s : String) : List String :=
  (splitChar sep s.toList).map String.ofList

def cut? (sep : Char) (cs : List Char) : Option (List Char × List Char) :=
  match cs with
  | [] => none
  | c :: cs =>
      if c == sep then some ([], cs)
      else (cut? sep cs).map fun (before, after) => (c :: before, after)

/-! ## Case -/

/-- Lower case, exactly as far as ASCII text can occur in the result.  Besides the capital
letters only the Kelvin sign and the dotted capital I have ASCII in their lower case. -/
def foldChar (c : Char) : List Char :=
  if 'A' ≤ c && c ≤ 'Z' then [Char.ofNat (c.toNat + 32)]
  else if c.toNat == 0x212A then ['k']
  else if c.toNat == 0x130 then ['i', Char.ofNat 0x307]
  else [c]

/-- The folded text: an ASCII needle in lower case occurs in it exactly when it occurs in
the text regardless of case. -/
def fold (s : String) : List Char := s.toList.flatMap foldChar

def asciiLower (c : Char) : Char :=
  if 'A' ≤ c && c ≤ 'Z' then Char.ofNat (c.toNat + 32) else c

def asciiUpper (c : Char) : Char :=
  if 'a' ≤ c && c ≤ 'z' then Char.ofNat (c.toNat - 32) else c

def lowerAscii (s : String) : String := String.ofList (s.toList.map asciiLower)

def mentions (needles : List String) (folded : List Char) : Bool :=
  needles.any fun needle => contains needle.toList folded

/-! ## Lines -/

/-- Cut into lines at line feeds, carriage returns and their pairs; a final line end opens
no further line. -/
def lines : List Char → List (List Char)
  | [] => []
  | '\r' :: '\n' :: rest => [] :: lines rest
  | c :: rest =>
      if c == '\n' || c == '\r' then [] :: lines rest
      else match lines rest with
        | [] => [[c]]
        | line :: more =>
            (c :: line) :: more

end StillMotion.Text
