import StillMotion.Instruction.TemplateFault
import StillMotion.Number.Numeral
import StillMotion.Text.Case
import StillMotion.Text.Blank

/-!
# Cutting a template into tokens

A template is text with tags: outputs, statements, comments and raw parts.  The line end after a
statement or comment is dropped, and so are the blanks before it when nothing else stands on its
line; a dash at the edge of a tag drops all blanks on that side, and a plus sign keeps them.
-/

namespace StillMotion.Instruction

/-!
## Tokens of a template

A template is a sequence of texts, tags and, between the ends of a tag, words, numbers, quoted
texts and marks.
-/

inductive Token where
  | data (s : String)
  | outputStart
  | outputEnd
  | statementStart
  | statementEnd
  | name (s : String)
  | text (s : String)
  | int (n : Int)
  | real (x : Float)
  | mark (s : String)
  | finish
deriving Repr

inductive Lexeme where
  | token (line : Nat) (t : Token)
  | fault (f : TemplateFault)
deriving Repr

namespace Token

def described : Token → String
  | .data _ => "template data / text"
  | .outputStart => "begin of print statement"
  | .outputEnd => "end of print statement"
  | .statementStart => "begin of statement block"
  | .statementEnd => "end of statement block"
  | .name s => s
  | .text _ => "string"
  | .int _ => "integer"
  | .real _ => "float"
  | .mark s => s
  | .finish => "end of template"

def isName (word : String) : Token → Bool
  | .name s => s == word
  | _ => false

def isMark (word : String) : Token → Bool
  | .mark s => s == word
  | _ => false

end Token

/-! ## Tags -/

open StillMotion.Text StillMotion.Number

def openBrace : Char := '\x7b'
def closeBrace : Char := '\x7d'

inductive TagKind where
  | output
  | statement
  | comment
  | raw
deriving DecidableEq, Repr

inductive Edge where
  | plain
  | keep
  | strip
deriving DecidableEq, Repr

def takeEdge : List Char → Edge × List Char
  | '-' :: rest => (.strip, rest)
  | '+' :: rest => (.keep, rest)
  | rest => (.plain, rest)

def dropBlanks (cs : List Char) : List Char := cs.dropWhile isBlank

def dropLineEnd : List Char → List Char
  | '\n' :: rest => rest
  | rest => rest

/-- The end of a statement; the line end after it belongs to it. -/
def statementEnd? (cs : List Char) : Option (List Char) :=
  match cs with
  | '+' :: rest => dropLead? ['%', closeBrace] rest
  | '-' :: rest => (dropLead? ['%', closeBrace] rest).map dropBlanks
  | cs => (dropLead? ['%', closeBrace] cs).map dropLineEnd

def outputEnd? (cs : List Char) : Option (List Char) :=
  match cs with
  | '-' :: rest => (dropLead? [closeBrace, closeBrace] rest).map dropBlanks
  | cs => dropLead? [closeBrace, closeBrace] cs

def commentEnd? (cs : List Char) : Option (List Char) :=
  match cs with
  | '+' :: rest => dropLead? ['#', closeBrace] rest
  | '-' :: rest => (dropLead? ['#', closeBrace] rest).map dropBlanks
  | cs => (dropLead? ['#', closeBrace] cs).map dropLineEnd

def rawStart? (cs : List Char) : Option (List Char) := do
  let rest ← dropLead? "raw".toList (dropBlanks cs)
  match dropBlanks rest with
  | '-' :: rest => (dropLead? ['%', closeBrace] rest).map dropBlanks
  | rest => dropLead? ['%', closeBrace] rest

def rawEnd? (cs : List Char) : Option (Edge × List Char) := do
  let rest ← dropLead? [openBrace, '%'] cs
  let (edge, rest) := takeEdge rest
  let rest ← dropLead? "endraw".toList (dropBlanks rest)
  let rest ← statementEnd? (dropBlanks rest)
  some (edge, rest)

def tagAt? : List Char → Option (TagKind × Edge × List Char)
  | a :: b :: rest =>
      if a != openBrace then none
      else
        let (edge, inside) := takeEdge rest
        if b == openBrace then some (.output, edge, inside)
        else if b == '#' then some (.comment, edge, inside)
        else if b == '%' then
          match rawStart? inside with
          | some after => some (.raw, edge, after)
          | none => some (.statement, edge, inside)
        else none
  | _ => none

/-- The text before a tag, which is given in reverse. -/
def before (isOutput : Bool) (edge : Edge) (atLineStart : Bool) (seen : List Char) : List Char :=
  match edge with
  | .strip => (seen.dropWhile isBlank).reverse
  | .keep => seen.reverse
  | .plain =>
      if isOutput then seen.reverse
      else
        let (line, earlier) := (seen.takeWhile (· != '\n'), seen.dropWhile (· != '\n'))
        if (!earlier.isEmpty || atLineStart) && line.all isBlank then earlier.reverse
        else seen.reverse

/-! ## Words and numbers -/

/-- Characters of words beyond the ASCII alphabet, as far as scripts go. -/
def isForeignLetter (c : Char) : Bool :=
  let n := c.toNat
  127 < n && !isBlank c && n != 0xD7 && n != 0xF7 &&
    (n == 0xAA || n == 0xB2 || n == 0xB3 || n == 0xB5 || n == 0xB7 || n == 0xB9 || n == 0xBA ||
      (0xBC ≤ n && n ≤ 0xBE) || 0xC0 ≤ n) &&
    !((0x2010 ≤ n && n ≤ 0x206F) || (0x20A0 ≤ n && n ≤ 0x20CF) || (0x2190 ≤ n && n ≤ 0x245F) ||
      (0x2500 ≤ n && n ≤ 0x2BFF) || (0x3001 ≤ n && n ≤ 0x3004) || (0x3008 ≤ n && n ≤ 0x3020) ||
      (0xFE10 ≤ n && n ≤ 0xFE6F) || (0xFF01 ≤ n && n ≤ 0xFF0F) || (0xE000 ≤ n && n ≤ 0xF8FF) ||
      (0x1F000 ≤ n && n ≤ 0x1FAFF))

def isWordChar (c : Char) : Bool := c.isAlphanum || c == '_' || isForeignLetter c

def digitRun : List Char → List Char × List Char
  | [] => ([], [])
  | c :: rest =>
      if isAsciiDigit c then
        match rest with
        | '_' :: d :: more =>
            if isAsciiDigit d then
              let (run, rest) := digitRun (d :: more)
              (c :: run, rest)
            else ([c], rest)
        | rest =>
            let (run, rest) := digitRun rest
            (c :: run, rest)
      else ([], c :: rest)

def exponent? : List Char → Option (Int × List Char)
  | c :: rest =>
      if c == 'e' || c == 'E' then
        let (negative, ds) := takeSign rest
        let (run, rest) := digitRun ds
        if run.isEmpty then none
        else
          let n : Int := digitsValue run
          some (if negative then -n else n, rest)
      else none
  | [] => none

def real? (cs : List Char) : Option (Float × List Char) :=
  let (whole, rest) := digitRun cs
  let (fraction, after) := match rest with
    | '.' :: more => digitRun more
    | _ => ([], rest)
  if whole.isEmpty then none
  else
    let made (power : Int) : Float :=
      ofDecimal false (whole ++ fraction) (power - fraction.length)
    if fraction.isEmpty then (exponent? rest).map fun (power, rest) => (made power, rest)
    else match exponent? after with
      | some (power, rest) => some (made power, rest)
      | none => some (made 0, after)

def basedRun (accepts : Char → Bool) : List Char → List Char × List Char
  | '_' :: c :: rest =>
      if accepts c then
        let (run, rest) := basedRun accepts rest
        (c :: run, rest)
      else ([], '_' :: c :: rest)
  | c :: rest =>
      if accepts c then
        let (run, rest) := basedRun accepts rest
        (c :: run, rest)
      else ([], c :: rest)
  | [] => ([], [])

def baseMark? : List Char → Option (Nat × List Char)
  | '0' :: m :: rest =>
      if m == 'b' || m == 'B' then some (2, rest)
      else if m == 'o' || m == 'O' then some (8, rest)
      else if m == 'x' || m == 'X' then some (16, rest)
      else none
  | _ => none

def int? (cs : List Char) : Option (Int × List Char) :=
  let based := (baseMark? cs).bind fun (base, rest) =>
    let accepts (c : Char) : Bool := (hexValue? c).any (· < base)
    let (run, rest) := basedRun accepts rest
    if run.isEmpty then none else some ((baseValue base run : Int), rest)
  match based, cs with
  | some found, _ => some found
  | none, '0' :: rest =>
      let (_, rest) := basedRun (· == '0') rest
      some (0, rest)
  | none, c :: rest =>
      if isAsciiDigit c then
        let (run, rest) := basedRun isAsciiDigit rest
        some ((digitsValue (c :: run) : Int), rest)
      else none
  | none, [] => none

/-! ## Quoted texts -/

def quotedRun? (quote : Char) : List Char → Option (List Char × List Char)
  | [] => none
  | '\\' :: c :: rest =>
      (quotedRun? quote rest).map fun (run, rest) => ('\\' :: c :: run, rest)
  | c :: rest =>
      if c == quote then some ([], rest)
      else if c == '\\' then none
      else (quotedRun? quote rest).map fun (run, rest) => (c :: run, rest)

def asciiOnly (cs : List Char) : List Char :=
  cs.flatMap fun c =>
    let n := c.toNat
    if n < 128 then [c]
    else if n < 256 then '\\' :: 'x' :: hexDigits 2 n
    else if n < 65536 then '\\' :: 'u' :: hexDigits 4 n
    else '\\' :: 'U' :: hexDigits 8 n

def isOctal (c : Char) : Bool := '0' ≤ c && c ≤ '7'

/-- A code of exactly `count` hexadecimal digits. -/
def codeOf? (count : Nat) (cs : List Char) : Option (Nat × List Char) :=
  let digits := cs.take count
  if digits.length == count && digits.all fun c => (hexValue? c).isSome then
    some (baseValue 16 digits, cs.drop count)
  else none

def truncated (form : String) : TemplateFault := .malformed s!"truncated \\{form} escape"

def escaped (c : Char) (rest : List Char) : Except TemplateFault (List Char × List Char) :=
  match c with
  | '\n' => .ok ([], rest)
  | '\\' => .ok (['\\'], rest)
  | '"' => .ok (['"'], rest)
  | 'a' => .ok ([Char.ofNat 7], rest)
  | 'b' => .ok ([Char.ofNat 8], rest)
  | 'f' => .ok ([Char.ofNat 12], rest)
  | 'n' => .ok (['\n'], rest)
  | 'r' => .ok (['\r'], rest)
  | 't' => .ok (['\t'], rest)
  | 'v' => .ok ([Char.ofNat 11], rest)
  | 'x' => match codeOf? 2 rest with
      | some (n, rest) => .ok ([Char.ofNat n], rest)
      | none => .error (truncated "xXX")
  | 'u' => match codeOf? 4 rest with
      | some (n, rest) => .ok ([Char.ofNat n], rest)
      | none => .error (truncated "uXXXX")
  | 'U' => match codeOf? 8 rest with
      | some (n, rest) =>
          if 0x110000 ≤ n then .error (.malformed "illegal Unicode character")
          else .ok ([Char.ofNat n], rest)
      | none => .error (truncated "UXXXXXXXX")
  | 'N' => .error (.malformed "malformed \\N character escape")
  | c =>
      if c == apostrophe then .ok ([c], rest)
      else if isOctal c then
        let digits := (c :: rest).takeWhile isOctal |>.take 3
        .ok ([Char.ofNat (baseValue 8 digits)], (c :: rest).drop digits.length)
      else .ok (['\\', c], rest)

/-- Read the escapes of a quoted text; `fuel` bounds the steps. -/
def unescaped : Nat → List Char → Except TemplateFault (List Char)
  | 0, cs => .ok cs
  | _, [] => .ok []
  | fuel + 1, c :: rest => do
      if c != '\\' then return c :: (← unescaped fuel rest)
      else match rest with
        | [] => .error (.malformed "\\ at end of string")
        | d :: rest => do
            let (here, rest) ← escaped d rest
            return here ++ (← unescaped fuel rest)

/-! ## Tokens -/

def marks : List String :=
  ["//", "**", "==", "!=", ">=", "<=", "+", "-", "/", "*", "%", "~", "[", "]", "(", ")", "\x7b",
   "\x7d", ">", "<", "=", ".", ":", "|", ",", ";"]

def markAt? (cs : List Char) : Option (String × List Char) :=
  marks.findSome? fun mark => (dropLead? mark.toList cs).map fun rest => (mark, rest)

def closing? (mark : String) : Option String :=
  if mark == "(" then some ")"
  else if mark == "[" then some "]"
  else if mark == "\x7b" then some "\x7d"
  else none

def isClosing (mark : String) : Bool := mark == ")" || mark == "]" || mark == "\x7d"

def balanced (due : List String) (mark : String) : Except TemplateFault (List String) :=
  match closing? mark with
  | some close => .ok (close :: due)
  | none =>
      if isClosing mark then
        match due with
        | [] => .error (.malformed s!"unexpected '{mark}'")
        | wanted :: due =>
            if wanted == mark then .ok due
            else .error (.malformed s!"unexpected '{mark}', expected '{wanted}'")
      else .ok due

inductive Mode where
  | root (atLineStart : Bool) (seen : List Char)
  | inside (isOutput : Bool) (due : List String) (afterPoint : Bool)
  | comment
  | raw (atLineStart : Bool) (seen : List Char)

def dataLexeme (line : Nat) (cs : List Char) : List Lexeme :=
  if cs.isEmpty then [] else [.token line (.data (String.ofList cs))]

def lineEnds (cs : List Char) : Nat := cs.countP (· == '\n')

def passed (cs rest : List Char) : Nat := lineEnds cs - lineEnds rest

def endsLine (cs rest : List Char) : Bool :=
  (cs.take (cs.length - rest.length)).getLast? == some '\n'

def tokenAt? (afterPoint : Bool) (cs : List Char) :
    Option (Except TemplateFault (Option Token × List Char)) :=
  match cs with
  | [] => none
  | c :: rest =>
      if isBlank c then some (.ok (none, dropBlanks rest))
      else match if afterPoint then none else real? cs with
        | some (x, rest) => some (.ok (some (.real x), rest))
        | none => match int? cs with
          | some (n, rest) => some (.ok (some (.int n), rest))
          | none =>
              if isWordChar c then
                let word := String.ofList (cs.takeWhile isWordChar)
                some (.ok (some (.name word), cs.dropWhile isWordChar))
              else
                let quotedToken := if c == '"' || c == apostrophe then quotedRun? c rest else none
                match quotedToken with
                | some (run, rest) =>
                    let run := asciiOnly run
                    some ((unescaped (run.length + 1) run).map fun cs =>
                      (some (.text (String.ofList cs)), rest))
                | none => (markAt? cs).map fun (mark, rest) => .ok (some (.mark mark), rest)

/-- Cut a template from some place on; `line` is the number of the line and `size` the length of
the whole template. -/
def lexemesFrom (size : Nat) : Nat → Nat → Mode → List Char → List Lexeme
  | 0, _, _, _ => [.fault .tooDeep]
  | fuel + 1, line, mode, cs =>
      match mode with
      | .root atLineStart seen =>
          match cs with
          | [] => dataLexeme line seen.reverse
          | c :: rest =>
              match tagAt? cs with
              | none => lexemesFrom size fuel line (.root atLineStart (c :: seen)) rest
              | some (kind, edge, after) =>
                  let data := before (kind == .output) edge atLineStart seen
                  let tagLine := line + lineEnds seen
                  let next := tagLine + passed cs after
                  dataLexeme line data ++
                    match kind with
                    | .output => .token tagLine .outputStart ::
                        lexemesFrom size fuel next (.inside true [] false) after
                    | .statement => .token tagLine .statementStart ::
                        lexemesFrom size fuel next (.inside false [] false) after
                    | .comment => lexemesFrom size fuel next .comment after
                    | .raw => lexemesFrom size fuel next (.raw (endsLine cs after) []) after
      | .comment =>
          match cs with
          | [] => []
          | _ :: rest =>
              match commentEnd? cs with
              | some after =>
                  lexemesFrom size fuel (line + passed cs after)
                    (.root (endsLine cs after) []) after
              | none =>
                  if rest.isEmpty then [.fault (.malformed "Missing end of comment tag")]
                  else lexemesFrom size fuel (line + passed cs rest) .comment rest
      | .raw atLineStart seen =>
          match cs with
          | [] =>
              if seen.isEmpty then [] else [.fault (.malformed "Missing end of raw directive")]
          | c :: rest =>
              match rawEnd? cs with
              | some (edge, after) =>
                  dataLexeme line (before false edge atLineStart seen) ++
                    lexemesFrom size fuel (line + lineEnds seen + passed cs after)
                      (.root (endsLine cs after) []) after
              | none => lexemesFrom size fuel line (.raw atLineStart (c :: seen)) rest
      | .inside isOutput due afterPoint =>
          let tagEnd := if !due.isEmpty then none
            else if isOutput then outputEnd? cs else statementEnd? cs
          match tagEnd with
          | some after =>
              .token line (if isOutput then .outputEnd else .statementEnd) ::
                lexemesFrom size fuel (line + passed cs after)
                  (.root (endsLine cs after) []) after
          | none =>
              match cs with
              | [] => []
              | c :: _ =>
                  match tokenAt? afterPoint cs with
                  | none =>
                      let shown := quoted (String.singleton c)
                      [.fault (.malformed s!"unexpected char {shown} at {size - cs.length}")]
                  | some (.error f) => [.fault f]
                  | some (.ok (token?, after)) =>
                      let line' := line + passed cs after
                      match token? with
                      | none => lexemesFrom size fuel line' (.inside isOutput due false) after
                      | some (.mark mark) =>
                          match balanced due mark with
                          | .error f => [.fault f]
                          | .ok due => .token line (.mark mark) ::
                              lexemesFrom size fuel line'
                                (.inside isOutput due (mark == ".")) after
                      | some t => .token line t ::
                          lexemesFrom size fuel line' (.inside isOutput due false) after

def plainSource (source : String) : List Char :=
  let cs := (Text.unified source).toList
  match cs.reverse with
  | '\n' :: rest => rest.reverse
  | _ => cs

def lexemes (source : String) : List Lexeme :=
  let cs := plainSource source
  lexemesFrom cs.length (2 * cs.length + 2) 1 (.root true []) cs

end StillMotion.Instruction
