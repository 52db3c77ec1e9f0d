import StillMotion.Instruction.Method

/-!
# Links in texts

The words of a text that are addresses become links.  Brackets and points around an address stay
outside of the link, except brackets that have their partner in the address.
-/

namespace StillMotion.Instruction.Links

open StillMotion.Text

/-! ## Addresses -/

def isLabelChar (c : Char) : Bool := isWordChar c || c == '%' || c == '-'

def isTopLabel (cs : List Char) : Bool :=
  match dropLead? "xn--".toList (lowerChars cs) with
  | some rest =>
      2 ≤ rest.length && rest.length ≤ 59 && rest.all fun c => isWordChar c || c == '%'
  | none => 2 ≤ cs.length && cs.length ≤ 63 && cs.all Char.isAlpha

def isNamedHost (cs : List Char) : Bool :=
  match (splitChar '.' cs).reverse with
  | top :: labels =>
      isTopLabel top && labels.all fun label => !label.isEmpty && label.all isLabelChar
  | [] => false

def usualTops : List String := ["com", "net", "int", "edu", "gov", "org", "info", "mil"]

def isUsualHost (cs : List Char) : Bool :=
  match (splitChar '.' cs).reverse with
  | top :: labels =>
      usualTops.contains (lowerCase (String.ofList top)) && !labels.isEmpty &&
        labels.all fun label => 2 ≤ label.length && label.length ≤ 63 && label.all isLabelChar
  | [] => false

def isNumberedHost (cs : List Char) : Bool :=
  let parts := splitChar '.' cs
  parts.length == 4 &&
    parts.all fun part => 1 ≤ part.length && part.length ≤ 3 && part.all isDigit

def isGroupedHost (cs : List Char) : Bool :=
  match splitChar ':' cs with
  | first :: second :: more =>
      let groups := more.map fun group => max 1 ((group.length + 3) / 4)
      let endsOpen := more.getLast?.any List.isEmpty && 1 < more.length
      first.length ≤ 4 && second.length ≤ 4 && !more.isEmpty &&
        groups.foldl (· + ·) 0 ≤ (if endsOpen then 7 else 6) &&
        cs.all fun c => c == ':' || (hexValue? c).isSome
  | _ => false

def isPort (cs : List Char) : Bool :=
  match cs with
  | [] => true
  | ':' :: digits => 1 ≤ digits.length && digits.length ≤ 5 && digits.all isDigit
  | _ => false

def withoutPort? (cs : List Char) : Option (List Char) :=
  let host := cs.takeWhile (· != ':')
  if isPort (cs.drop host.length) then some host else none

def startsPath (c : Char) : Bool := c == '/' || c == '?' || c == '#'

def afterScheme? (cs : List Char) : Option (List Char) :=
  let small := cs.map asciiLower
  if startsWith small "https://".toList then some (cs.drop 8)
  else if startsWith small "http://".toList then some (cs.drop 7)
  else none

def isAddress (cs : List Char) : Bool :=
  let hostOf (cs : List Char) : List Char := cs.takeWhile fun c => !startsPath c
  let isUsual := (withoutPort? (hostOf cs)).any isUsualHost
  let hasWorldWide := startsWith (cs.map asciiLower) "www.".toList &&
    (withoutPort? (hostOf (cs.drop 4))).any isNamedHost
  let hasScheme := match afterScheme? cs with
    | none => false
    | some rest =>
        let host := hostOf rest
        match host with
        | '[' :: inner =>
            let group := inner.takeWhile (· != ']')
            (inner.drop group.length).head? == some ']' &&
              isPort (inner.drop (group.length + 1)) && isGroupedHost group
        | host => (withoutPort? host).any fun host => isNamedHost host || isNumberedHost host
  isUsual || hasWorldWide || hasScheme

def isMailDomain (cs : List Char) : Bool :=
  match (splitChar '.' cs).reverse with
  | last :: _ :: _ =>
      cs.head?.any isWordChar && !last.isEmpty && last.all isWordChar &&
        cs.all fun c => isWordChar c || c == '.' || c == '-'
  | _ => false

/-- Whether a text is a mail address; `hasUser` tells that there is something before it. -/
def isMail (hasUser : Bool) : List Char → Bool
  | [] => false
  | c :: rest => (hasUser && c == '@' && isMailDomain rest) || isMail true rest

/-! ## Words -/

structure Rule where
  /-- The length from which on a shown address is cut. -/
  limit : Option Nat
  rel : String
  target : Option String
  /-- Starts that make a word an address. -/
  schemes : List String

namespace Rule

def cut (rule : Rule) (address : String) : String :=
  match rule.limit with
  | some n => if n < address.length then (address.take n).toString ++ "..." else address
  | none => address

def attributes (rule : Rule) : String :=
  (if rule.rel.isEmpty then "" else s!" rel=\"{Datum.escapeText rule.rel}\"") ++
    match rule.target with
    | some target => if target.isEmpty then "" else s!" target=\"{Datum.escapeText target}\""
    | none => ""

def link (rule : Rule) (address shown : String) : String :=
  "<a href=\"" ++ address ++ "\"" ++ rule.attributes ++ ">" ++ shown ++ "</a>"

def linked (rule : Rule) (cs : List Char) : String :=
  let word := String.ofList cs
  let mail (address shown : String) : String := s!"<a href=\"{address}\">{shown}</a>"
  if isAddress cs then
    let isWhole := startsWith cs "https://".toList || startsWith cs "http://".toList
    rule.link (if isWhole then word else "https://" ++ word) (rule.cut word)
  else match (dropLead? "mailto:".toList cs).filter (isMail false) with
    | some rest => mail word (String.ofList rest)
    | none =>
        if !startsWith cs "www.".toList && cs.head? != some '@' && !cs.contains ':' &&
            isMail false cs then
          mail ("mailto:" ++ word) word
        else if rule.schemes.any fun scheme =>
            word != scheme && startsWith cs scheme.toList then
          rule.link word word
        else word

end Rule

def pairs : List (List Char × List Char) :=
  [(['('], [')']), (['<'], ['>']), ("&lt;".toList, "&gt;".toList)]

def leading : Nat → List Char → List Char
  | 0, _ => []
  | fuel + 1, cs => match cs with
      | '(' :: rest => '(' :: leading fuel rest
      | '<' :: rest => '<' :: leading fuel rest
      | '&' :: 'l' :: 't' :: ';' :: rest => "&lt;".toList ++ leading fuel rest
      | _ => []

def trailing : Nat → List Char → List Char
  | 0, _ => []
  | fuel + 1, cs => match cs with
      | ';' :: 't' :: 'g' :: '&' :: rest => "&gt;".toList.reverse ++ trailing fuel rest
      | c :: rest => if [')', '>', '.', ',', '\n'].contains c then c :: trailing fuel rest else []
      | [] => []

def occurrences (needle cs : List Char) : Nat := (pieces needle cs cs.length).length - 1

def moved (ending : List Char) : Nat → List Char → List Char → List Char × List Char
  | 0, middle, tail => (middle, tail)
  | n + 1, middle, tail => match find? ending 0 tail with
      | some at' =>
          let cut := at' + ending.length
          moved ending n (middle ++ tail.take cut) (tail.drop cut)
      | none => (middle, tail)

def balanced (middle tail : List Char) : List Char × List Char :=
  pairs.foldl (fun (middle, tail) (opening, ending) =>
    let opened := occurrences opening middle
    if opened ≤ occurrences ending middle then (middle, tail)
    else moved ending (min opened (occurrences ending tail)) middle tail) (middle, tail)

def linkedWord (rule : Rule) (word : List Char) : String :=
  let head := leading word.length word
  let rest := word.drop head.length
  let tail := (trailing rest.length rest.reverse).reverse
  let (middle, tail) := balanced (rest.take (rest.length - tail.length)) tail
  String.ofList head ++ rule.linked middle ++ String.ofList tail

def linkedWords (rule : Rule) : Nat → List Char → List String
  | 0, _ => []
  | _, [] => []
  | fuel + 1, cs =>
      let gap := cs.takeWhile isBlank
      let word := (cs.drop gap.length).takeWhile fun c => !isBlank c
      let rest := cs.drop (gap.length + word.length)
      String.ofList gap :: linkedWord rule word :: linkedWords rule fuel rest

def text (rule : Rule) (marked : String) : String :=
  let cs := marked.toList
  String.join (linkedWords rule (cs.length + 1) cs)

def isScheme (s : String) : Bool :=
  let cs := s.toList
  let name := cs.takeWhile (· != ':')
  2 ≤ name.length && (name.all fun c => isWordChar c || c == '.' || c == '+' || c == '-') &&
    [":", ":/", "://"].contains (String.ofList (cs.drop name.length))

end StillMotion.Instruction.Links
