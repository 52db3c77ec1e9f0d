import StillMotion.Scripting.Script
import StillMotion.Text.Digit
import StillMotion.Text.Quoted
import StillMotion.Text.Search

/-!
# Tokens of scripts

A script consists of words, operators, redirections and line ends.  Some words have a meaning of
their own where a command may begin.
-/

namespace StillMotion.Scripting

open StillMotion.Text

/-!
## Faults of scripts

Why a text is no script or an expression has no value, in the words of the shell.
-/

/-! ### Texts that are no scripts -/

inductive ReadingCause where
  | unterminatedQuote
  | unterminatedBackquote
  | missingBrace
  | missingParentheses
  | badSubstitution
  | badLoopVariable
  /-- A token that may not stand where it does; one other token may be the only one wanted. -/
  | unexpected (token : String) (wanted : Option String)
deriving DecidableEq, Repr

/-- The cause and the line; without a line it is the last one of the text. -/
structure ReadingFault where
  line : Option Nat
  cause : ReadingCause
deriving DecidableEq, Repr

abbrev Reading (α : Type) := Except ReadingFault α

def ReadingCause.words : ReadingCause → String
  | .unterminatedQuote => "Syntax error: Unterminated quoted string"
  | .unterminatedBackquote => "Syntax error: EOF in backquote substitution"
  | .missingBrace => "Syntax error: Missing '\x7d'"
  | .missingParentheses => "Syntax error: Missing '))'"
  | .badSubstitution => "Bad substitution"
  | .badLoopVariable => "Syntax error: Bad for loop variable"
  | .unexpected token none => s!"Syntax error: {token} unexpected"
  | .unexpected token (some wanted) =>
      s!"Syntax error: {token} unexpected (expecting \"{wanted}\")"

def atEnd {α : Type} (cause : ReadingCause) : Reading α := .error ⟨none, cause⟩

/-! ### Expressions without value -/

inductive ExpressionFault where
  | primaryExpected
  | endExpected
  | parenthesisExpected
  | colonExpected
  | divisionByZero
  /-- A variable whose value is no number. -/
  | illegalNumber (text : String)
deriving DecidableEq, Repr

def ExpressionFault.words (expression : String) (fault : ExpressionFault) : String :=
  let told (reason : String) : String := s!"arithmetic expression: {reason}: \"{expression}\""
  match fault with
  | .primaryExpected => told "expecting primary"
  | .endExpected => told "expecting EOF"
  | .parenthesisExpected => told "expecting ')'"
  | .colonExpected => told "expecting ':'"
  | .divisionByZero => told "division by zero"
  | .illegalNumber text => s!"Illegal number: {text}"

/-! ## Tokens -/

inductive Token where
  | word (parts : Word)
  | operator (text : String)
  | redirect (stream : Nat) (text : String)
  /-- A text to be read, which stands in the script. -/
  | here (content : Word)
  | newLine

abbrev Tokens := List (Token × Nat)

/-! ## Characters -/

def isNameStart (c : Char) : Bool :=
  ('a' ≤ c && c ≤ 'z') || ('A' ≤ c && c ≤ 'Z') || c == '_'

def isNameChar (c : Char) : Bool := isNameStart c || isAsciiDigit c

def isName (cs : List Char) : Bool := cs.head?.any isNameStart && cs.all isNameChar

def backquote : Char := Char.ofNat 96

def endsWord (c : Char) : Bool :=
  [' ', '\t', '\n', ';', '&', '|', '<', '>', '(', ')'].contains c

def lineCount (cs : List Char) : Nat := (cs.filter (· == '\n')).length

/-! ## Marks -/

def redirectMark? (cs : List Char) : Option (String × List Char) :=
  match cs with
  | '>' :: '>' :: rest => some (">>", rest)
  | '>' :: '&' :: rest => some (">&", rest)
  | '>' :: '|' :: rest => some (">", rest)
  | '>' :: rest => some (">", rest)
  | '<' :: '<' :: '-' :: rest => some ("<<-", rest)
  | '<' :: '<' :: rest => some ("<<", rest)
  | '<' :: '&' :: rest => some ("<&", rest)
  | '<' :: rest => some ("<", rest)
  | _ => none

def operator? (cs : List Char) : Option (String × List Char) :=
  match cs with
  | '&' :: '&' :: rest => some ("&&", rest)
  | '|' :: '|' :: rest => some ("||", rest)
  | ';' :: ';' :: rest => some (";;", rest)
  | ';' :: rest => some (";", rest)
  | '&' :: rest => some ("&", rest)
  | '|' :: rest => some ("|", rest)
  | '(' :: rest => some ("(", rest)
  | ')' :: rest => some (")", rest)
  | _ => none

def skipBlanks : List Char → List Char
  | '\\' :: '\n' :: rest => skipBlanks rest
  | ' ' :: rest => skipBlanks rest
  | '\t' :: rest => skipBlanks rest
  | '#' :: rest => rest.dropWhile (· != '\n')
  | rest => rest

/-! ## Words with a meaning of their own -/

def bareWord? : Word → Option String
  | [.literal text false] => some text
  | _ => none

def openingWords : List String := ["!", "case", "for", "if", "until", "while", "\x7b"]

def closingWords : List String := ["then", "elif", "else", "fi", "do", "done", "esac", "\x7d"]

def isReserved (word : String) (token : Token) : Bool :=
  match token with
  | .word parts => bareWord? parts == some word
  | _ => false

def endsList : Token → Bool
  | .word parts => (bareWord? parts).any closingWords.contains
  | .operator text => text == ")" || text == ";;"
  | _ => false

/-! ## Reports -/

def Token.spelling : Token → String
  | .newLine => "newline"
  | .redirect _ _ | .here _ => "redirection"
  | .operator text => s!"\"{text}\""
  | .word parts =>
      match bareWord? parts with
      | some text =>
          if (openingWords ++ closingWords ++ ["in"]).contains text then s!"\"{text}\"" else "word"
      | none => "word"

def unexpected {α : Type} (wanted : Option String) (tokens : Tokens) : Reading α :=
  match tokens with
  | [] => atEnd (.unexpected "end of file" wanted)
  | (token, line) :: _ => .error ⟨some line, .unexpected token.spelling wanted⟩

end StillMotion.Scripting
