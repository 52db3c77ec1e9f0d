import StillMotion.Failure.Fault
import StillMotion.Text.Blank
import StillMotion.Text.Case
import StillMotion.Text.Quoted

/-!
# Actions of tags

A tag can carry an action: a dotted name with literals in parentheses after it, or literals alone.
The action does nothing here, but what it is given has to be literals that are well written.
-/

namespace StillMotion.Console

open StillMotion.Text

namespace Literal

/-! ## Tokens -/

inductive Token where
  | name (word : String)
  | number
  /-- A text in quotes, which can stand for bytes. -/
  | text (isBytes : Bool)
  | opening (c : Char)
  | closing (c : Char)
  | operator (symbol : String)
  /-- A character that begins nothing. -/
  | stray
  /-- A backslash, after which nothing can stand. -/
  | continuation
deriving DecidableEq, Repr

def isFarLetter (c : Char) : Bool :=
  let n := c.toNat
  128 ≤ n && (isCased c || n == 0xAA || n == 0xBA || (0x370 ≤ n && n ≤ 0x1FFF) ||
    (0x3041 ≤ n && n ≤ 0xD7FF) || (0x20000 ≤ n && n ≤ 0x3FFFF))

def startsName (c : Char) : Bool := c.isAlpha || c == '_' || isFarLetter c

def continuesName (c : Char) : Bool := startsName c || isAsciiDigit c

def longOperators : List String :=
  ["**=", "//=", "...", ">>=", "<<=", "**", "//", "==", "!=", "<=", ">=", "->", ":=", "<<", ">>",
   "+=", "-=", "*=", "/=", "%=", "&=", "|=", "^=", "@="]

def operatorChars : List Char := "+-*/%@&|^~<>=.,:;".toList

/-- Skip the rest of a text in quotes, `width` of them; a backslash protects what follows it. -/
def afterText? (quote : Char) (width : Nat) : List Char → Option (List Char)
  | [] => none
  | '\\' :: rest => match rest with
      | _ :: more => afterText? quote width more
      | [] => none
  | c :: rest =>
      if c == quote && (rest.takeWhile (· == quote)).length + 1 ≥ width then
        some (rest.drop (width - 1))
      else if c == '\n' && width == 1 then none
      else afterText? quote width rest

def isTextMark (cs : List Char) : Bool :=
  ["r", "b", "u", "f", "rb", "br", "rf", "fr"].contains (String.ofList (cs.map asciiLower))

def digitRun (isOne : Char → Bool) : List Char → Option (List Char)
  | c :: '_' :: d :: rest =>
      if !isOne c then some (c :: '_' :: d :: rest)
      else if isOne d then digitRun isOne (d :: rest)
      else none
  | c :: rest =>
      if !isOne c then some (c :: rest)
      else if rest == ['_'] then none
      else digitRun isOne rest
  | [] => some []

def wordsAfterNumeral : List String := ["and", "else", "for", "if", "in", "is", "or", "not"]

/-- Whether a numeral may not end where `cs` begins. -/
def runsOn (cs : List Char) : Bool :=
  cs.head?.any continuesName && !wordsAfterNumeral.any fun word => startsWith cs word.toList

def badDecimal : String := "invalid decimal literal"

/-- Skip a numeral in a base, whose digits `isOne` knows. -/
def afterBased (kind : String) (isOne : Char → Bool) (cs : List Char) : Except String (List Char) :=
  let cs := match cs with
    | '_' :: rest => rest
    | cs => cs
  match cs with
  | c :: _ =>
      if isOne c then
        match digitRun isOne cs with
        | some (d :: rest) =>
            if isAsciiDigit d then .error s!"invalid digit '{d}' in {kind} literal"
            else if runsOn (d :: rest) then .error s!"invalid {kind} literal"
            else .ok (d :: rest)
        | some [] => .ok []
        | none => .error s!"invalid {kind} literal"
      else if isAsciiDigit c then .error s!"invalid digit '{c}' in {kind} literal"
      else .error s!"invalid {kind} literal"
  | [] => .error s!"invalid {kind} literal"

def isImaginaryMark (c : Char) : Bool := c == 'j' || c == 'J'

def afterExponent (cs : List Char) : Except String (List Char) :=
  match cs with
  | c :: rest =>
      if c == 'e' || c == 'E' then
        let digits := match rest with
          | '+' :: more => more
          | '-' :: more => more
          | _ => rest
        if digits.head?.any isAsciiDigit then
          match digitRun isAsciiDigit digits with
          | some after => .ok after
          | none => .error badDecimal
        else .error badDecimal
      else .ok cs
  | [] => .ok []

def afterDecimal (cs : List Char) : Except String (List Char) := do
  let some whole := digitRun isAsciiDigit cs | .error badDecimal
  let rest ← match whole with
    | '.' :: more =>
        if more.head?.any isAsciiDigit then
          match digitRun isAsciiDigit more with
          | some after => .ok after
          | none => .error badDecimal
        else .ok more
    | rest => .ok rest
  let isWhole := rest.length == whole.length
  let rest ← afterExponent rest
  let isWhole := isWhole && rest.length == whole.length
  let imaginary := rest.head?.any isImaginaryMark
  let rest := if imaginary then rest.drop 1 else rest
  if isWhole && !imaginary && cs.head? == some '0' && cs.any (fun c => '1' ≤ c && c ≤ '9') &&
      (cs.takeWhile fun c => isAsciiDigit c || c == '_').any (· != '0') then
    .error ("leading zeros in decimal integer literals are not permitted; " ++
      "use an 0o prefix for octal integers")
  else if runsOn rest then
    .error (if imaginary then "invalid imaginary literal" else badDecimal)
  else .ok rest

def afterNumeral (cs : List Char) : Except String (List Char) :=
  let isOctal (c : Char) : Bool := '0' ≤ c && c ≤ '7'
  let isBinary (c : Char) : Bool := c == '0' || c == '1'
  match cs with
  | '0' :: c :: rest =>
      if c == 'x' || c == 'X' then afterBased "hexadecimal" (fun d => (hexValue? d).isSome) rest
      else if c == 'o' || c == 'O' then afterBased "octal" isOctal rest
      else if c == 'b' || c == 'B' then afterBased "binary" isBinary rest
      else afterDecimal cs
  | cs => afterDecimal cs

def partnerOf (c : Char) : Char := if c == '(' then ')' else if c == '[' then ']' else '\x7d'

def isOpening (c : Char) : Bool := c == '(' || c == '[' || c == '\x7b'

def isClosing (c : Char) : Bool := c == ')' || c == ']' || c == '\x7d'

def token (cs : List Char) : Except String (Token × List Char) :=
  match cs with
  | [] => .ok (.stray, [])
  | c :: rest =>
      let named := cs.takeWhile continuesName
      let afterName := cs.drop named.length
      let isBytes := named.contains 'b' || named.contains 'B'
      let textFrom (cs : List Char) : Except String (Token × List Char) :=
        match cs with
        | quote :: rest =>
            let isTriple := startsWith rest [quote, quote]
            match afterText? quote (if isTriple then 3 else 1)
                (if isTriple then rest.drop 2 else rest) with
            | some after => .ok (.text isBytes, after)
            | none => .error ((if isTriple then "unterminated triple-quoted string literal"
                else "unterminated string literal") ++ " (detected at line 1)")
        | [] => .ok (.stray, [])
      if c == '"' || c == apostrophe then textFrom cs
      else if startsName c then
        if isTextMark named && (afterName.head?.any fun d => d == '"' || d == apostrophe) then
          textFrom afterName
        else .ok (.name (String.ofList named), afterName)
      else if isAsciiDigit c || (c == '.' && rest.head?.any isAsciiDigit) then do
        let after ← afterNumeral cs
        .ok (.number, after)
      else if isOpening c then .ok (.opening c, rest)
      else if isClosing c then .ok (.closing c, rest)
      else if c == '\\' then .ok (.continuation, [])
      else match longOperators.find? fun symbol => startsWith cs symbol.toList with
        | some symbol => .ok (.operator symbol, cs.drop symbol.length)
        | none =>
            if operatorChars.contains c then .ok (.operator c.toString, rest)
            else if c.toNat < 128 then .ok (.stray, rest)
            else
              let digits := String.ofList (hexDigits (if c.toNat < 0x10000 then 4 else 5) c.toNat)
              .error (s!"invalid character '{c}' (U+" ++ digits.toUpper ++ ")")

/-- The tokens of a text; `opened` are the brackets that are open, and `fuel` bounds the length of
the text. -/
def tokensFrom : (fuel : Nat) → (opened : List Char) → List Char → Except String (List Token)
  | 0, _, _ => .ok []
  | _, _, [] => .ok []
  | fuel + 1, opened, c :: rest => do
      if c == '#' then tokensFrom fuel opened (rest.dropWhile (· != '\n'))
      else if isBlank c && c.toNat < 128 then tokensFrom fuel opened rest
      else do
        let (first, after) ← token (c :: rest)
        let opened ← match first with
          | .opening d => .ok (d :: opened)
          | .closing d => match opened with
              | [] => .error s!"unmatched '{d}'"
              | b :: outer =>
                  if partnerOf b == d then .ok outer
                  else .error (s!"closing parenthesis '{d}' does not match opening " ++
                    s!"parenthesis '{b}'")
          | _ => .ok opened
        let others ← tokensFrom fuel opened after
        .ok (first :: others)

def tokens (cs : List Char) : Except String (List Token) := tokensFrom (cs.length + 1) [] cs

/-! ## Form -/

def keywords : List String :=
  ["and", "as", "assert", "async", "break", "class", "continue", "def", "del", "elif", "else",
   "except", "finally", "for", "from", "global", "if", "import", "in", "is", "lambda", "nonlocal",
   "or", "pass", "raise", "return", "try", "while", "with", "yield"]

def constants : List String := ["None", "True", "False"]

inductive Bracket where
  | round
  /-- A brace before its first comma or colon. -/
  | brace
  | set
  /-- A brace of keys and values, where a key is due or has just been. -/
  | key
  | value
  /-- No bracket, but where one expression is read alone. -/
  | alone
deriving DecidableEq, Repr

def Bracket.opened (c : Char) : Bracket := if c == '(' then .round else .brace

def Bracket.neverClosed (bracket : Bracket) : String :=
  if bracket == .round then "'(' was never closed" else "'\x7b' was never closed"

def Bracket.afterComma : Bracket → Bracket
  | .round => .round
  | .brace => .set
  | .set => .set
  | .key => .key
  | .value => .key
  | .alone => .alone

inductive Place where
  /-- Any expression may begin; `mayClose` tells that a bracket may close instead. -/
  | start (mayClose : Bool)
  /-- An operand may begin, with `not` before it where `mayDeny` says so. -/
  | operand (mayDeny : Bool)
  /-- A name has to follow. -/
  | member
  /-- An expression has ended with this token, which is all of it where `isWhole` says so. -/
  | after (last : Token) (isWhole : Bool)
deriving DecidableEq, Repr

inductive Halt where
  /-- At the end of the text. -/
  | finish (opened : List Bracket) (place : Place)
  | unfit (opened : List Bracket) (place : Place) (rest : List Token)

def startsOperand : Token → Bool
  | .name word => !keywords.contains word && word != "not"
  | .number | .text _ | .opening _ => true
  | .operator symbol => symbol == "..." || symbol == "~"
  | _ => false

/-- The place after a token that begins an expression, unless it begins none. -/
def begin? (opened : List Bracket) (place : Place) (first : Token) :
    Option (List Bracket × Place) :=
  let mayDeny := place matches .start _ | .operand true
  let last : Place := .after first (place matches .start _)
  match first with
  | .opening c => some (.opened c :: opened, .start true)
  | .closing _ =>
      if place == .start true then some (opened.drop 1, .after first false) else none
  | .number | .text _ => some (opened, last)
  | .name word =>
      if word == "not" then if mayDeny then some (opened, .operand true) else none
      else if word == "lambda" then if place matches .start _ then some (opened, .member) else none
      else if keywords.contains word then none
      else some (opened, last)
  | .operator symbol =>
      if ["+", "-", "~"].contains symbol then some (opened, .operand false)
      else if symbol == "..." then some (opened, last)
      else if ["*", "**"].contains symbol && !opened.isEmpty && (place matches .start _) then
        some (opened, .operand false)
      else none
  | _ => none

/-- The place after a token that follows an expression, unless it cannot. -/
def continue? (opened : List Bracket) (last first : Token) : Option (List Bracket × Place) :=
  match first with
  | .opening c => if c == '(' then some (.round :: opened, .start true) else none
  | .closing _ =>
      if opened.head? == some .key || opened.head? == some .alone then none
      else some (opened.drop 1, .after first false)
  | .text _ => if last matches .text _ then some (opened, .after first false) else none
  | .name word =>
      if ["and", "or", "if"].contains word then some (opened, .operand true)
      else if word == "else" then some (opened, .start false)
      else if ["in", "is", "for", "not"].contains word then some (opened, .operand (word == "is"))
      else none
  | .operator symbol =>
      if symbol == "," then
        match opened with
        | .key :: _ => none
        | .alone :: _ => none
        | bracket :: outer => some (bracket.afterComma :: outer, .start true)
        | [] => some ([], .start true)
      else if symbol == ":" then
        match opened with
        | bracket :: outer =>
            if bracket == .brace || bracket == .key then some (.value :: outer, .start false)
            else none
        | [] => none
      else if symbol == "." then some (opened, .member)
      else if ["~", ";", "=", "->", "..."].contains symbol then none
      else some (opened, .operand false)
  | _ => none

def follow (opened : List Bracket) (place : Place) : List Token → Halt
  | [] => .finish opened place
  | first :: rest =>
      let next? := match place with
        | .after last _ => continue? opened last first
        | .member => match first with
            | .name word =>
                if keywords.contains word then none else some (opened, .after first false)
            | _ => none
        | place => begin? opened place first
      match next? with
      | some (opened, next) => follow opened next rest
      | none => .unfit opened place (first :: rest)

def assignmentFault (last : Token) : String :=
  match last with
  | .name word =>
      if constants.contains word then "invalid syntax"
      else "invalid syntax. Maybe you meant '==' or ':=' instead of '='?"
  | .number | .text _ => "cannot assign to literal here. Maybe you meant '==' instead of '='?"
  | _ => "invalid syntax"

def lineContinued : String := "unexpected character after line continuation character"

def besideFault? (opened : List Bracket) (tokens : List Token) : Option String :=
  match follow [.alone] (.start false) tokens with
  | .finish (.alone :: _) _ => opened.head?.map Bracket.neverClosed
  | .finish (bracket :: _) _ => some bracket.neverClosed
  | .unfit _ _ (.continuation :: _) => some lineContinued
  | .unfit [.alone] _ _ =>
      if opened.isEmpty then none else some "invalid syntax. Perhaps you forgot a comma?"
  | _ => none

/-- What is wrong where reading expressions stops.  The words after an expression are read as
another one, to find a bracket that nothing closes; `fuel` bounds how often. -/
def faultFrom : (fuel : Nat) → (opened : List Bracket) → Place → List Token → Option String
  | 0, _, _, _ => some "invalid syntax"
  | fuel + 1, opened, place, tokens =>
      match follow opened place tokens with
      | .finish (bracket :: _) _ => some bracket.neverClosed
      | .finish [] (.after _ _) => none
      | .finish [] (.start true) => if tokens.length > 1 then none else some "invalid syntax"
      | .finish [] _ => some "invalid syntax"
      | .unfit _ _ (.continuation :: _) =>
          some lineContinued
      | .unfit opened (.after last isWhole) (first :: rest) =>
          if startsOperand first then
            let isNamed := isWhole && (last matches .name _)
            let fault? := if isNamed && (first matches .text _) then none
              else besideFault? opened (first :: rest)
            match fault? with
            | some fault => some fault
            | none =>
                if isNamed then
                  some ((faultFrom fuel opened (.start false) (first :: rest)).getD
                    "invalid syntax")
                else some "invalid syntax"
          else if first == .operator "=" && !opened.isEmpty then
            match faultFrom fuel opened (.operand false) rest with
            | some fault =>
                if fault == "invalid syntax" && rest.head?.any startsOperand then
                  some (assignmentFault last)
                else some fault
            | none => some (assignmentFault last)
          else if opened.head? == some .key && (first == .operator "," || first == .closing '\x7d')
          then some "':' expected after dictionary key"
          else some "invalid syntax"
      | .unfit (.value :: _) (.start false) (first :: _) =>
          if first == .operator "," || first == .closing '\x7d' then
            some "expression expected after dictionary key and ':'"
          else some "invalid syntax"
      | .unfit _ _ _ => some "invalid syntax"

def mixesTexts : List Token → Bool
  | .operator "." :: .text _ :: _ => false
  | .text a :: .text b :: rest => a != b || mixesTexts (.text b :: rest)
  | _ :: rest => mixesTexts rest
  | [] => false

def formFault? (tokens : List Token) : Option String :=
  if mixesTexts tokens then some "cannot mix bytes and nonbytes literals"
  else faultFrom (tokens.length + 1) [] (.start false) tokens

def areLiteral (tokens : List Token) : Bool :=
  tokens.all fun token => match token with
    | .name word => constants.contains word
    | .operator symbol => [",", ":", "-", "+", "..."].contains symbol
    | _ => true

/-- A group of literals that is open: its bracket, and the kind of the first thing in it that
changes. -/
structure Group where
  bracket : Bracket
  changing : Option String

def Group.kind? (group : Group) (isEmpty : Bool) : Option String :=
  match group.bracket with
  | .round => group.changing
  | .brace | .set => some (if isEmpty then "dict" else "set")
  | _ => some "dict"

/-- The kind of the first thing that changes and yet is a key or stands in a set.  `before` is the
token before the others. -/
def changingKey? (groups : List Group) (before : Option Token) : List Token → Option String
  | [] => none
  | first :: rest =>
      let goOn (groups : List Group) : Option String := changingKey? groups (some first) rest
      match first, groups with
      | .opening c, groups => goOn (⟨.opened c, none⟩ :: groups)
      | .closing _, group :: outer :: others =>
          match group.kind? (before matches some (.opening _)) with
          | none => goOn (outer :: others)
          | some kind =>
              if outer.bracket == .round || outer.bracket == .value then
                goOn ({ outer with changing := outer.changing.orElse fun _ => some kind } :: others)
              else some kind
      | .operator symbol, group :: others =>
          if symbol == "," then goOn ({ group with bracket := group.bracket.afterComma } :: others)
          else if symbol == ":" then goOn ({ group with bracket := .value } :: others)
          else goOn groups
      | _, groups => goOn groups

end Literal

/-! ## Actions -/

def literalsOf (action : List Char) : List Char :=
  let name := action.takeWhile fun c => Literal.continuesName c || c == '.'
  match action.drop name.length with
  | [] => "()".toList
  | '(' :: rest => if rest.getLast? == some ')' then '(' :: rest else action
  | _ => action

def actionFault? (written : List Char) : Option String :=
  let literals := literalsOf (trimChars written)
  let shown := quoted (String.ofList written)
  match Literal.tokens literals with
  | .error reason => some s!"error parsing {quoted (String.ofList literals)} in {shown}; {reason}"
  | .ok tokens => match Literal.formFault? tokens with
      | some reason => some s!"error parsing {quoted (String.ofList literals)} in {shown}; {reason}"
      | none =>
          if Literal.areLiteral tokens then
            (Literal.changingKey? [] none tokens).map fun kind =>
              s!"error parsing {shown}; unhashable type: {quoted kind}"
          else some s!"error parsing {shown}; malformed node or string"

end StillMotion.Console
