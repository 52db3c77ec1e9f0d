import StillMotion.Scripting.Token

/-!
# Reading commands

Tokens are put together to commands.  A command that is not complete, or a token that may not
stand where it does, is a fault.
-/

namespace StillMotion.Scripting

open StillMotion.Text

def dropNewLines : Tokens → Tokens
  | (.newLine, _) :: rest => dropNewLines rest
  | rest => rest

def expectWord (word : String) : Tokens → Reading Tokens
  | (token, line) :: rest =>
      if isReserved word token then .ok rest else unexpected (some word) ((token, line) :: rest)
  | [] => unexpected (some word) []

def expectOperator (operator : String) : Tokens → Reading Tokens
  | (.operator text, line) :: rest =>
      if text == operator then .ok rest
      else unexpected (some operator) ((.operator text, line) :: rest)
  | tokens => unexpected (some operator) tokens

/-! ## Simple commands -/

def assignment? : Word → Option (String × Word)
  | .literal text false :: rest =>
      match cut? '=' text.toList with
      | some (name, value) =>
          if isName name then
            let value := if value.isEmpty then [] else [.literal (String.ofList value) false]
            some (String.ofList name, value ++ rest)
          else none
      | none => none
  | _ => none

def streamOf? (word : Word) : Option Nat :=
  match word with
  | [.literal text _] => match text.toList with
      | [d] => (digitValue? d).filter fun _ => isAsciiDigit d
      | _ => none
  | _ => none

def redirectOf? (stream : Nat) (text : String) (word : Word) : Option Redirect :=
  if text == ">" then some (.write stream false word)
  else if text == ">>" then some (.write stream true word)
  else if text == "<" then some (.read word)
  else (streamOf? word).map fun other => .same stream other

def redirect? : Tokens → Reading (Option (Redirect × Tokens))
  | (.here content, _) :: rest => .ok (some (.readText content, rest))
  | (.redirect stream text, line) :: (.word word, _) :: rest =>
      match redirectOf? stream text word with
      | some redirect => .ok (some (redirect, rest))
      | none => .error ⟨some line, .unexpected "word" none⟩
  | (.redirect _ _, _) :: rest => unexpected none rest
  | _ => .ok none

structure SimpleParts where
  assignments : List (String × Word)
  words : List Word
  redirects : List Redirect

namespace SimpleParts

def empty : SimpleParts := ⟨[], [], []⟩

def addWord (parts : SimpleParts) (word : Word) : SimpleParts :=
  match if parts.words.isEmpty then assignment? word else none with
  | some binding => { parts with assignments := parts.assignments ++ [binding] }
  | none => { parts with words := parts.words ++ [word] }

def addRedirect (parts : SimpleParts) (redirect : Redirect) : SimpleParts :=
  { parts with redirects := parts.redirects ++ [redirect] }

def command (parts : SimpleParts) (line : Nat) : Command :=
  .simple line parts.assignments parts.words parts.redirects

end SimpleParts

/-- The words and redirections up to an operator; `fuel` bounds the number of tokens. -/
def simpleParts : Nat → SimpleParts → Tokens → Reading (SimpleParts × Tokens)
  | 0, parts, tokens => .ok (parts, tokens)
  | fuel + 1, parts, tokens => do
      match ← redirect? tokens with
      | some (redirect, rest) => simpleParts fuel (parts.addRedirect redirect) rest
      | none =>
          match tokens with
          | (.word word, _) :: rest => simpleParts fuel (parts.addWord word) rest
          | rest => .ok (parts, rest)

def simpleCommand (line : Nat) (tokens : Tokens) : Reading (Command × Tokens) := do
  let (parts, rest) ← simpleParts (tokens.length + 1) .empty tokens
  match rest with
  | (.operator "(", line) :: rest => unexpected none ((.operator "(", line) :: rest)
  | rest => .ok (parts.command line, rest)

def redirects : Nat → Tokens → Reading (List Redirect × Tokens)
  | 0, tokens => .ok ([], tokens)
  | fuel + 1, tokens => do
      match ← redirect? tokens with
      | some (redirect, rest) => do
          let (more, rest) ← redirects fuel rest
          .ok (redirect :: more, rest)
      | none => .ok ([], tokens)

def redirected? (build : List Redirect → Command) (tokens : Tokens) : Reading (Command × Tokens) :=
  (redirects (tokens.length + 1) tokens).map fun (targets, rest) => (build targets, rest)

/-- A compound command that needs a group only for redirections. -/
def grouped (body : Command) (targets : List Redirect) : Command :=
  if targets.isEmpty then body else .group body targets

/-! ## Parts of compound commands -/

def loopWords : Tokens → List Word × Tokens
  | (.word word, _) :: rest =>
      let (words, rest) := loopWords rest
      (word :: words, rest)
  | rest => ([], rest)

def dropSeparator : Tokens → Tokens
  | (.operator ";", _) :: rest => dropNewLines rest
  | rest => dropNewLines rest

def loopName : Tokens → Reading (String × Tokens)
  | (.word word, line) :: rest =>
      match bareWord? word with
      | some name =>
          if isName name.toList then .ok (name, rest) else .error ⟨some line, .badLoopVariable⟩
      | none => .error ⟨some line, .badLoopVariable⟩
  | _ :: _ => atEnd .badLoopVariable
  | [] => atEnd .badLoopVariable

/-- The words that a loop goes over; without them it goes over the arguments. -/
def loopRange (tokens : Tokens) : Option (List Word) × Tokens :=
  match dropNewLines tokens with
  | (token, line) :: rest =>
      if isReserved "in" token then
        let (words, rest) := loopWords rest
        (some words, dropSeparator rest)
      else (none, dropSeparator ((token, line) :: rest))
  | [] => (none, [])

def armPatterns : Tokens → Reading (List Word × Tokens)
  | (.word word, _) :: (.operator "|", _) :: rest => do
      let (words, rest) ← armPatterns rest
      .ok (word :: words, rest)
  | (.word word, _) :: (.operator ")", _) :: rest => .ok ([word], rest)
  | (.word _, _) :: rest => unexpected (some ")") rest
  | tokens => unexpected none tokens

abbrev Parsed := Reading (Command × Tokens)

/-! ## Commands -/

mutual

def commandList : Nat → Tokens → Parsed
  | 0, tokens => unexpected none tokens
  | fuel + 1, tokens =>
      match dropNewLines tokens with
      | [] => .ok (.nothing, [])
      | (token, line) :: rest =>
          if endsList token then .ok (.nothing, (token, line) :: rest)
          else do
            let (first, rest) ← commandChain fuel ((token, line) :: rest)
            match rest with
            | (.operator "&", _) :: rest => do
                let (more, rest) ← commandList fuel rest
                .ok (.sequence (.background first) more, rest)
            | (.operator ";", _) :: rest | (.newLine, _) :: rest => do
                let (more, rest) ← commandList fuel rest
                .ok (.sequence first more, rest)
            | [] => .ok (first, [])
            | (token, line) :: rest =>
                if endsList token then .ok (first, (token, line) :: rest)
                else unexpected none ((token, line) :: rest)
termination_by structural fuel => fuel

/-- Commands that may not be missing, up to a token that ends them; when the text ends, what has
to follow is missed instead. -/
def someCommands : Nat → Tokens → Parsed
  | 0, tokens => unexpected none tokens
  | fuel + 1, tokens => do
      match dropNewLines tokens with
      | [] => .ok (.nothing, [])
      | (token, line) :: rest =>
          if endsList token then unexpected none ((token, line) :: rest)
          else commandList fuel ((token, line) :: rest)
termination_by structural fuel => fuel

def commandChain : Nat → Tokens → Parsed
  | 0, tokens => unexpected none tokens
  | fuel + 1, tokens => do
      let (first, rest) ← pipeline fuel tokens
      chainRest fuel first rest
termination_by structural fuel => fuel

def chainRest : Nat → Command → Tokens → Parsed
  | 0, _, tokens => unexpected none tokens
  | fuel + 1, first, tokens =>
      match tokens with
      | (.operator "&&", _) :: rest => do
          let (second, rest) ← pipeline fuel (dropNewLines rest)
          chainRest fuel (.both first second) rest
      | (.operator "||", _) :: rest => do
          let (second, rest) ← pipeline fuel (dropNewLines rest)
          chainRest fuel (.either first second) rest
      | rest => .ok (first, rest)
termination_by structural fuel => fuel

def pipeline : Nat → Tokens → Parsed
  | 0, tokens => unexpected none tokens
  | fuel + 1, tokens => do
      match tokens with
      | (token, line) :: rest =>
          if isReserved "!" token then do
            let (first, rest) ← command fuel rest
            let (body, rest) ← pipeRest fuel first rest
            .ok (.negated body, rest)
          else do
            let (first, rest) ← command fuel ((token, line) :: rest)
            pipeRest fuel first rest
      | [] => unexpected none []
termination_by structural fuel => fuel

def pipeRest : Nat → Command → Tokens → Parsed
  | 0, _, tokens => unexpected none tokens
  | fuel + 1, first, tokens =>
      match tokens with
      | (.operator "|", _) :: rest => do
          let (second, rest) ← command fuel (dropNewLines rest)
          pipeRest fuel (.pipe first second) rest
      | rest => .ok (first, rest)
termination_by structural fuel => fuel

def branches : Nat → Tokens → Parsed
  | 0, tokens => unexpected none tokens
  | fuel + 1, tokens => do
      let (condition, rest) ← someCommands fuel tokens
      let rest ← expectWord "then" rest
      let (yes, rest) ← someCommands fuel rest
      match rest with
      | (token, line) :: rest =>
          if isReserved "elif" token then do
            let (no, rest) ← branches fuel rest
            .ok (.choice condition yes no, rest)
          else if isReserved "else" token then do
            let (no, rest) ← someCommands fuel rest
            let rest ← expectWord "fi" rest
            .ok (.choice condition yes no, rest)
          else do
            let rest ← expectWord "fi" ((token, line) :: rest)
            .ok (.choice condition yes .nothing, rest)
      | [] => unexpected (some "fi") []
termination_by structural fuel => fuel

def loopBody : Nat → Tokens → Parsed
  | 0, tokens => unexpected none tokens
  | fuel + 1, tokens => do
      let rest ← expectWord "do" tokens
      let (body, rest) ← someCommands fuel rest
      let rest ← expectWord "done" rest
      .ok (body, rest)
termination_by structural fuel => fuel

def arms : Nat → Tokens → Reading (List (List Word × Command) × Tokens)
  | 0, tokens => unexpected none tokens
  | fuel + 1, tokens =>
      match dropNewLines tokens with
      | (token, line) :: rest =>
          if isReserved "esac" token then .ok ([], rest)
          else do
            let rest := match token with
              | .operator "(" => rest
              | _ => (token, line) :: rest
            let (patterns, rest) ← armPatterns rest
            let (body, rest) ← commandList fuel rest
            match rest with
            | (.operator ";;", _) :: rest => do
                let (more, rest) ← arms fuel rest
                .ok ((patterns, body) :: more, rest)
            | (token, line) :: rest =>
                if isReserved "esac" token then .ok ([(patterns, body)], rest)
                else unexpected (some ";;") ((token, line) :: rest)
            | [] => unexpected (some ";;") []
      | [] => unexpected (some "esac") []
termination_by structural fuel => fuel

def conditionLoop (wanted : Bool) : Nat → Tokens → Parsed
  | 0, tokens => unexpected none tokens
  | fuel + 1, tokens => do
      let (condition, rest) ← someCommands fuel tokens
      let (body, rest) ← loopBody fuel rest
      redirected? (grouped (.loop wanted condition body)) rest
termination_by structural fuel => fuel

def command : Nat → Tokens → Parsed
  | 0, tokens => unexpected none tokens
  | fuel + 1, tokens => do
      match tokens with
      | (.operator "(", _) :: rest => do
          let (body, rest) ← someCommands fuel rest
          let rest ← expectOperator ")" rest
          redirected? (.subshell body) rest
      | (.word word, line) :: rest =>
          match bareWord? word with
          | some "if" => do
              let (body, rest) ← branches fuel rest
              redirected? (grouped body) rest
          | some "while" => conditionLoop true fuel rest
          | some "until" => conditionLoop false fuel rest
          | some "for" => do
              let (name, rest) ← loopName rest
              let (words, rest) := loopRange rest
              let (body, rest) ← loopBody fuel rest
              redirected? (grouped (.forEach name words body)) rest
          | some "case" =>
              match rest with
              | (.word subject, _) :: rest => do
                  let rest ← expectWord "in" (dropNewLines rest)
                  let (arms, rest) ← arms fuel rest
                  redirected? (grouped (.cases subject arms)) rest
              | rest => unexpected none rest
          | some "\x7b" => do
              let (body, rest) ← someCommands fuel rest
              let rest ← expectWord "\x7d" rest
              redirected? (.group body) rest
          | some name =>
              if name == "!" || closingWords.contains name then
                unexpected none ((.word word, line) :: rest)
              else
                match rest with
                | (.operator "(", _) :: (.operator ")", _) :: rest => do
                    let (body, rest) ← command fuel (dropNewLines rest)
                    .ok (.define name body, rest)
                | rest => simpleCommand line ((.word word, line) :: rest)
          | none => simpleCommand line ((.word word, line) :: rest)
      | (.redirect stream text, line) :: rest =>
          simpleCommand line ((.redirect stream text, line) :: rest)
      | (.here content, line) :: rest => simpleCommand line ((.here content, line) :: rest)
      | tokens => unexpected none tokens
termination_by structural fuel => fuel

end

def Command.ofTokens (tokens : Tokens) : Reading Command := do
  let (body, rest) ← commandList (12 * (tokens.length + 1)) tokens
  match rest with
  | [] => .ok body
  | rest => unexpected none rest

end StillMotion.Scripting
