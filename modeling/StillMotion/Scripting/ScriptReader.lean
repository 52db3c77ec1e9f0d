import StillMotion.Scripting.CommandReader

/-!
# Reading scripts

Words are cut at blanks and operators that are not in quotes.  Quotes, backslashes and dollar
signs may occur anywhere in a word.
-/

namespace StillMotion.Scripting

open StillMotion.Text

structure Source where
  rest : List Char
  line : Nat

def quotedText (cs : List Char) : WordPart := .literal (String.ofList cs) true

def specialParameters : List Char := ['@', '*', '#', '?', '$', '!', '-']

/-! ## Scanning over nested text -/

/-- The text up to a quote and the text after it; a backslash keeps what follows it. -/
def upToQuote (quote : Char) : List Char → List Char × List Char
  | [] => ([], [])
  | '\\' :: c :: rest =>
      let (inside, after) := upToQuote quote rest
      ('\\' :: c :: inside, after)
  | c :: rest =>
      if c == quote then ([], rest)
      else
        let (inside, after) := upToQuote quote rest
        (c :: inside, after)

/-- The text up to the end of a group of parentheses, and the text after it; `depth` counts the
open ones, and `fuel` bounds the length. -/
def insideParens : (fuel depth : Nat) → List Char → Option (List Char × List Char)
  | 0, _, _ => none
  | _, _, [] => none
  | fuel + 1, depth, c :: rest =>
      let onward (taken : List Char) (depth : Nat) (rest : List Char) :=
        (insideParens fuel depth rest).map fun (inside, after) => (taken ++ inside, after)
      if c == '(' then onward [c] (depth + 1) rest
      else if c == ')' then
        if depth == 0 then some ([], rest) else onward [c] (depth - 1) rest
      else if c == '"' then
        let (inside, after) := upToQuote '"' rest
        onward (c :: inside ++ [c]) depth after
      else if c == apostrophe then
        let inside := rest.takeWhile (· != apostrophe)
        onward (c :: inside ++ [c]) depth (rest.drop (inside.length + 1))
      else match c, rest with
        | '\\', d :: rest => onward [c, d] depth rest
        | _, _ => onward [c] depth rest

/-- The text up to a backquote; a backslash before one is dropped. -/
def insideBackquotes : List Char → Option (List Char × List Char)
  | [] => none
  | '\\' :: c :: rest =>
      if c == backquote || c == '\\' || c == '$' then
        (insideBackquotes rest).map fun (a, b) => (c :: a, b)
      else (insideBackquotes rest).map fun (a, b) => ('\\' :: c :: a, b)
  | c :: rest =>
      if c == backquote then some ([], rest)
      else (insideBackquotes rest).map fun (a, b) => (c :: a, b)

/-! ## Parameters -/

def parameterUse : List Char → ParameterUse × List Char
  | '#' :: '#' :: rest => (.dropStart true, rest)
  | '#' :: rest => (.dropStart false, rest)
  | '%' :: '%' :: rest => (.dropEnd true, rest)
  | '%' :: rest => (.dropEnd false, rest)
  | ':' :: '-' :: rest => (.orElse true, rest)
  | '-' :: rest => (.orElse false, rest)
  | ':' :: '+' :: rest => (.ifSet true, rest)
  | '+' :: rest => (.ifSet false, rest)
  | ':' :: '=' :: rest => (.orAssign true, rest)
  | '=' :: rest => (.orAssign false, rest)
  | ':' :: '?' :: rest => (.orStop true, rest)
  | '?' :: rest => (.orStop false, rest)
  | rest => (.plain, rest)

def parameterName? (cs : List Char) : Option (String × List Char) :=
  match cs with
  | [] => none
  | c :: rest =>
      if isNameStart c then
        some (String.ofList (cs.takeWhile isNameChar), cs.dropWhile isNameChar)
      else if isAsciiDigit c then
        some (String.ofList (cs.takeWhile isAsciiDigit), cs.dropWhile isAsciiDigit)
      else if specialParameters.contains c then some (String.singleton c, rest)
      else none

def plainParameter? (cs : List Char) : Option String :=
  match cs with
  | c :: _ => if isAsciiDigit c then some (String.singleton c) else (parameterName? cs).map (·.1)
  | [] => none

/-! ## Texts that stand in a script -/

/-- The lines up to one that is a given mark, and the text after it; tabs at the start of lines
are dropped on demand. -/
def bodyLines (dropsTabs : Bool) (mark : List Char) :
    List (List Char) → List (List Char) × List (List Char)
  | [] => ([], [])
  | line :: rest =>
      let line := if dropsTabs then line.dropWhile (· == '\t') else line
      if line == mark then ([], rest)
      else
        let (body, after) := bodyLines dropsTabs mark rest
        (line :: body, after)

/-- Take the text that ends with a mark out of what follows a line; `rest` is the rest of the
line and all after it. -/
def takeBody (dropsTabs : Bool) (mark rest : List Char) : List Char × List Char :=
  let line := rest.takeWhile (· != '\n')
  let (body, after) := bodyLines dropsTabs mark (splitChar '\n' (rest.drop (line.length + 1)))
  (body.flatMap (· ++ ['\n']), line ++ '\n' :: List.intercalate ['\n'] after)

def literalText (word : Word) : List Char × Bool :=
  word.foldr (fun part (cs, isQuoted) =>
    match part with
    | .literal text quoted => (text.toList ++ cs, quoted || isQuoted)
    | _ => (cs, isQuoted)) ([], false)

def asQuoted : List Char → List Char
  | [] => ['"']
  | '\\' :: '"' :: rest => '\\' :: '\\' :: '\\' :: '"' :: asQuoted rest
  | '\\' :: c :: rest => '\\' :: c :: asQuoted rest
  | '"' :: rest => '\\' :: '"' :: asQuoted rest
  | c :: rest => c :: asQuoted rest

/-! ## Words -/

mutual

/-- The parts of a word from here on.  Inside double quotes (`isQuoted`) the part ends at the
closing quote; inside braces (`inBraces`) at the closing brace. -/
def parts (isQuoted inBraces : Bool) : Nat → Source → Reading (Word × Source)
  | 0, _ => atEnd .unterminatedQuote
  | fuel + 1, source =>
      let add (part : WordPart) (source : Source) : Reading (Word × Source) :=
        (parts isQuoted inBraces fuel source).map fun (more, rest) => (part :: more, rest)
      match source.rest with
      | [] =>
          if isQuoted then atEnd .unterminatedQuote
          else if inBraces then atEnd .missingBrace
          else .ok ([], source)
      | c :: rest =>
          let onward : Source := ⟨rest, source.line + lineCount [c]⟩
          if isQuoted && c == '"' then .ok ([], onward)
          else if inBraces && !isQuoted && c == '\x7d' then .ok ([], onward)
          else if !isQuoted && !inBraces && endsWord c then .ok ([], source)
          else if c == '$' then do
            let (part, source) ← dollar isQuoted fuel onward
            add part source
          else if c == backquote then
            match insideBackquotes rest with
            | none => atEnd .unterminatedBackquote
            | some (body, rest) => do
                let inner ← script fuel body
                add (.output inner isQuoted) ⟨rest, source.line + lineCount body⟩
          else if c == '\\' then
            match rest with
            | [] => add (.literal "\\" true) onward
            | d :: after =>
                let next : Source := ⟨after, onward.line + lineCount [d]⟩
                if d == '\n' then parts isQuoted inBraces fuel next
                else if isQuoted && !(['$', backquote, '"', '\\'].contains d) then
                  add (.literal (String.ofList ['\\', d]) true) next
                else add (.literal (String.singleton d) true) next
          else if isQuoted then
            let run := (c :: rest).takeWhile fun d => !(['"', '$', backquote, '\\'].contains d)
            add (.literal (String.ofList run) true)
              ⟨(c :: rest).drop run.length, source.line + lineCount run⟩
          else if c == apostrophe then
            match cut? apostrophe rest with
            | none => atEnd .unterminatedQuote
            | some (text, rest) => add (quotedText text) ⟨rest, source.line + lineCount text⟩
          else if c == '"' then do
            let (inner, source) ← parts true inBraces fuel onward
            let (more, source) ← parts isQuoted inBraces fuel source
            .ok (.literal "" true :: inner ++ more, source)
          else
            let run := (c :: rest).takeWhile fun d =>
              !(['"', '$', backquote, '\\', apostrophe].contains d) &&
                !(inBraces && d == '\x7d') && (inBraces || !endsWord d)
            add (.literal (String.ofList run) false)
              ⟨(c :: rest).drop run.length, source.line + lineCount run⟩
termination_by structural fuel => fuel

def dollar (isQuoted : Bool) : Nat → Source → Reading (WordPart × Source)
  | 0, _ => atEnd .unterminatedQuote
  | fuel + 1, source =>
      match source.rest with
      | '(' :: '(' :: rest =>
          match insideParens (rest.length + 1) 0 rest with
          | some (body, ')' :: after) => do
              let (expression, _) ← parts true false fuel ⟨body ++ ['"'], source.line⟩
              .ok (.arithmetic source.line expression, ⟨after, source.line⟩)
          | _ => atEnd .missingParentheses
      | '(' :: rest =>
          match insideParens (rest.length + 1) 0 rest with
          | none => atEnd (.unexpected "end of file" (some ")"))
          | some (body, after) => do
              let inner ← script fuel body
              .ok (.output inner isQuoted, ⟨after, source.line + lineCount body⟩)
      | '\x7b' :: '#' :: '\x7d' :: after =>
          .ok (.parameter source.line "#" .plain [] isQuoted, ⟨after, source.line⟩)
      | '\x7b' :: '#' :: rest =>
          match parameterName? rest with
          | some (name, '\x7d' :: after) =>
              .ok (.parameter source.line name .length [] isQuoted, ⟨after, source.line⟩)
          | _ => .error ⟨some source.line, .badSubstitution⟩
      | '\x7b' :: rest =>
          match parameterName? rest with
          | none => .error ⟨some source.line, .badSubstitution⟩
          | some (name, rest) => do
              let (use, rest) := parameterUse rest
              let (argument, after) ← parts false true fuel ⟨rest, source.line⟩
              match use, argument with
              | .plain, _ :: _ => .error ⟨some source.line, .badSubstitution⟩
              | _, _ => .ok (.parameter source.line name use argument isQuoted, after)
      | rest =>
          match plainParameter? rest with
          | some name =>
              .ok (.parameter source.line name .plain [] isQuoted,
                ⟨rest.drop name.length, source.line⟩)
          | none => .ok (.literal "$" isQuoted, source)
termination_by structural fuel => fuel

/-- The text that stands in the script, as the word that it is read as, and what is left of the
script. -/
def here (dropsTabs : Bool) : Nat → Source → Reading (Word × Source)
  | 0, _ => atEnd .unterminatedQuote
  | fuel + 1, source => do
      let (word, next) ← parts false false fuel ⟨skipBlanks source.rest, source.line⟩
      let (mark, isQuoted) := literalText word
      let (body, after) := takeBody dropsTabs mark next.rest
      if isQuoted then .ok ([quotedText body], ⟨after, next.line⟩)
      else do
        let (content, _) ← parts true false fuel ⟨asQuoted body, source.line⟩
        .ok (content, ⟨after, next.line⟩)
termination_by structural fuel => fuel

def tokens : Nat → Source → Reading Tokens
  | 0, _ => atEnd .unterminatedQuote
  | fuel + 1, source =>
      let rest := skipBlanks source.rest
      let line := source.line
      let add (token : Token) (source : Source) : Reading Tokens :=
        (tokens fuel source).map fun more => (token, line) :: more
      let redirection (stream : Nat) (text : String) (after : List Char) : Reading Tokens :=
        if text == "<<" || text == "<<-" then do
          let (content, next) ← here (text == "<<-") fuel ⟨after, line⟩
          add (.here content) next
        else add (.redirect stream text) ⟨after, line⟩
      match rest with
      | [] => .ok []
      | '\n' :: after => add .newLine ⟨after, line + 1⟩
      | c :: after =>
          match redirectMark? rest with
          | some (text, after) => redirection (if c == '<' then 0 else 1) text after
          | none =>
              match operator? rest with
              | some (text, after) => add (.operator text) ⟨after, line⟩
              | none =>
                  match if isAsciiDigit c then redirectMark? after else none with
                  | some (text, after) => redirection (c.toNat - 48) text after
                  | none => do
                      let (word, next) ← parts false false fuel ⟨rest, line⟩
                      add (.word word) next
termination_by structural fuel => fuel

def script : Nat → List Char → Reading Command
  | 0, _ => atEnd .unterminatedQuote
  | fuel + 1, cs => do
      let tokens ← tokens fuel ⟨cs, 1⟩
      Command.ofTokens tokens
termination_by structural fuel => fuel

end

def Command.ofText (text : String) : Reading Command := script (3 * text.length + 10) text.toList

def Command.beforeFault (text : String) : Command :=
  let lines := splitChar '\n' text.toList
  let leading := (List.range lines.length).reverse.findSome? fun n =>
    (Command.ofText (String.ofList (List.intercalate ['\n'] (lines.take n)))).toOption
  leading.getD .nothing

def lastLine (text : String) : Nat := 1 + lineCount text.toList

end StillMotion.Scripting
