import StillMotion.Instruction.Lexer
import StillMotion.Instruction.Template

/-!
# Reading a template

The tree of a template is read from its tokens.  What is wrong with a template is told by the
first token that does not fit.
-/

namespace StillMotion.Instruction

open StillMotion.Text

/-- Where the reading is: the tokens to come, the statements that are open and the statements
that may end their parts, the innermost first. -/
structure Reading where
  ahead : List Lexeme
  opened : List String
  endings : List (List String)

abbrev Reader (α : Type) := StateT Reading (Except TemplateFault) α

namespace Reader

variable {α : Type}

def fail (message : String) : Reader α := throw (.malformed message)

/-! ## Tokens -/

def current : Reader Token := do
  match (← get).ahead with
  | [] => return .finish
  | .token _ t :: _ => return t
  | .fault f :: _ => throw f

def line : Reader Nat := do
  match (← get).ahead with
  | .token n _ :: _ => return n
  | _ => return 0

def upcoming : Reader Token := do
  match (← get).ahead with
  | _ :: .token _ t :: _ => return t
  | _ :: .fault f :: _ => throw f
  | _ => return .finish

/-- Go on to the next token, which has to be one. -/
def advance : Reader Token := do
  let t ← current
  modify fun s => { s with ahead := s.ahead.drop 1 }
  let _ ← current
  return t

def expectToken (wanted : String) (fits : Token → Bool) : Reader Token := do
  let t ← current
  if fits t then advance
  else match t with
    | .finish => fail s!"unexpected end of template, expected {quoted wanted}."
    | t => fail s!"expected token {quoted wanted}, got {quoted t.described}"

def expectMark (mark : String) : Reader Unit := discard (expectToken mark (·.isMark mark))

def expectWord (word : String) : Reader Unit := discard (expectToken word (·.isName word))

def expectName : Reader String := do
  match ← expectToken "name" fun t => t matches .name _ with
  | .name s => return s
  | _ => return ""

def expectStatementEnd : Reader Unit :=
  discard (expectToken Token.statementEnd.described fun t => t matches .statementEnd)

def isMark (mark : String) : Reader Bool := return (← current).isMark mark

def isWord (word : String) : Reader Bool := return (← current).isName word

def skipIf (fits : Token → Bool) : Reader Bool := do
  if fits (← current) then
    let _ ← advance
    return true
  else return false

def skipMark (mark : String) : Reader Bool := skipIf (·.isMark mark)

def skipWord (word : String) : Reader Bool := skipIf (·.isName word)

/-! ## Reports -/

def orWords (words : List String) : String := " or ".intercalate (words.map quoted)

def unknownTag (tag : Option String) (endings : List (List String)) : Reader α := do
  let head := match tag with
    | none => "Unexpected end of template."
    | some tag => s!"Encountered unknown tag {quoted tag}."
  let looking := match endings with
    | [] => []
    | words :: _ =>
        if tag.any fun tag => endings.any (·.contains tag) then
          ["You probably made a nesting mistake. Jinja is expecting this tag, but currently " ++
            s!"looking for {orWords words}."]
        else [s!"Jinja was looking for the following tags: {orWords words}."]
  let innermost := match (← get).opened with
    | [] => []
    | word :: _ => [s!"The innermost block that needs to be closed is {quoted word}."]
  fail (" ".intercalate (head :: looking ++ innermost))

/-! ## Expressions -/

def chain (marks : List String) (operand : Reader Expression) : Nat → Expression →
    Reader Expression
  | 0, _ => throw .tooDeep
  | fuel + 1, left => do
      match ← current with
      | .mark m =>
          if marks.contains m then
            let _ ← advance
            let right ← operand
            chain marks operand fuel (.binary m left right)
          else return left
      | _ => return left

def wordChain (word : String) (join : Expression → Expression → Expression)
    (operand : Reader Expression) : Nat → Expression → Reader Expression
  | 0, _ => throw .tooDeep
  | fuel + 1, left => do
      if ← skipWord word then
        let right ← operand
        wordChain word join operand fuel (join left right)
      else return left

/-- Items with commas between them, up to a closing mark; a comma may stand at the end. -/
def itemsUntil (close : String) (item : Reader α) : Nat → Bool → Reader (List α)
  | 0, _ => throw .tooDeep
  | fuel + 1, isFirst => do
      if ← isMark close then return []
      if !isFirst then expectMark ","
      if ← isMark close then return []
      let here ← item
      return here :: (← itemsUntil close item fuel false)

def comparisons : List String := ["==", "!=", "<", "<=", ">", ">="]

structure Arguments where
  args : List Expression
  named : List (String × Expression)
  rest : Option Expression
  restNamed : Option Expression

def adjacentTexts : Nat → String → Reader String
  | 0, _ => throw .tooDeep
  | fuel + 1, seen => do
      match ← current with
      | .text s => do
          let _ ← advance
          adjacentTexts fuel (seen ++ s)
      | _ => return seen

def dottedName : Nat → String → Reader String
  | 0, _ => throw .tooDeep
  | fuel + 1, seen => do
      if ← skipMark "." then dottedName fuel (seen ++ "." ++ (← expectName)) else return seen

def endsTuple (stops : List String) : Reader Bool := do
  match ← current with
  | .outputEnd => return true
  | .statementEnd => return true
  | .mark m => return m == ")"
  | .name word => return stops.contains word
  | _ => return false

def tupleItems : Nat → Reader Expression → List String → Bool →
    Reader (List Expression × Bool)
  | 0, _, _, _ => throw .tooDeep
  | fuel + 1, item, stops, isFirst => do
      if !isFirst then expectMark ","
      if ← endsTuple stops then return ([], !isFirst)
      let here ← item
      if ← isMark "," then
        let (more, _) ← tupleItems fuel item stops false
        return (here :: more, true)
      else return ([here], !isFirst)

def tupleOf : Nat → Reader Expression → Bool → List String → Reader Expression
  | 0, _, _, _ => throw .tooDeep
  | fuel + 1, item, isBracketed, stops => do
      let (items, isTuple) ← tupleItems fuel item stops true
      if isTuple then return .tuple items
      match items with
      | e :: _ => return e
      | [] =>
          if isBracketed then return .tuple []
          let found ← current
          fail s!"Expected an expression, got {quoted found.described}"

mutual

def primary : Nat → Reader Expression
  | 0 => throw .tooDeep
  | fuel + 1 => do
      match ← current with
      | .name word => do
          let _ ← advance
          if word == "true" || word == "True" then return .literal (.bool true)
          if word == "false" || word == "False" then return .literal (.bool false)
          if word == "none" || word == "None" then return .literal .null
          return .name word
      | .text _ => return .literal (.str (← adjacentTexts fuel ""))
      | .int n => do
          let _ ← advance
          return .literal (.int n)
      | .real x => do
          let _ ← advance
          return .literal (.float x)
      | .mark "(" => do
          let _ ← advance
          let e ← tupleOf fuel (expression fuel) true []
          expectMark ")"
          return e
      | .mark "[" => do
          let _ ← advance
          let items ← itemsUntil "]" (expression fuel) fuel true
          expectMark "]"
          return .list items
      | .mark "\x7b" => do
          let _ ← advance
          let entries ← itemsUntil "\x7d" (do
            let key ← expression fuel
            expectMark ":"
            return (key, ← expression fuel)) fuel true
          expectMark "\x7d"
          return .mapping entries
      | t => fail s!"unexpected {quoted t.described}"
termination_by structural fuel => fuel

def callArguments : Nat → Reader Arguments
  | 0 => throw .tooDeep
  | fuel + 1 => do
      expectMark "("
      let arguments ← moreArguments fuel true ⟨[], [], none, none⟩
      expectMark ")"
      return arguments
termination_by structural fuel => fuel

def moreArguments : Nat → Bool → Arguments → Reader Arguments
  | 0, _, _ => throw .tooDeep
  | fuel + 1, isFirst, seen => do
      if ← isMark ")" then return seen
      if !isFirst then expectMark ","
      if ← isMark ")" then return seen
      let ensure (allowed : Bool) : Reader Unit :=
        if allowed then pure () else fail "invalid syntax for function call expression"
      if ← isMark "*" then
        ensure (seen.rest.isNone && seen.restNamed.isNone)
        let _ ← advance
        let e ← expression fuel
        moreArguments fuel false { seen with rest := some e }
      else if ← isMark "**" then
        ensure seen.restNamed.isNone
        let _ ← advance
        let e ← expression fuel
        moreArguments fuel false { seen with restNamed := some e }
      else
        let key? ← match ← current with
          | .name word => do
              let t ← upcoming
              pure (if t.isMark "=" then some word else none)
          | _ => pure none
        match key? with
        | some key => do
            ensure seen.restNamed.isNone
            let _ ← advance
            let _ ← advance
            let e ← expression fuel
            moreArguments fuel false { seen with named := seen.named ++ [(key, e)] }
        | none => do
            ensure (seen.rest.isNone && seen.restNamed.isNone && seen.named.isEmpty)
            let e ← expression fuel
            moreArguments fuel false { seen with args := seen.args ++ [e] }
termination_by structural fuel => fuel

def subscribed : Nat → Reader Expression
  | 0 => throw .tooDeep
  | fuel + 1 => do
      let bound : Reader (Option Expression) := do
        if (← isMark "]") || (← isMark ",") then return none
        return some (← expression fuel)
      let first ← if ← isMark ":" then pure none else do
        let e ← expression fuel
        if !(← isMark ":") then return e
        pure (some e)
      let _ ← advance
      let last ← if ← isMark ":" then pure none else bound
      let step ← if ← skipMark ":" then bound else pure none
      return .slice first last step
termination_by structural fuel => fuel

def subscripts : Nat → Bool → Reader (List Expression)
  | 0, _ => throw .tooDeep
  | fuel + 1, isFirst => do
      if ← isMark "]" then return []
      if !isFirst then expectMark ","
      let key ← subscribed fuel
      return key :: (← subscripts fuel false)
termination_by structural fuel => fuel

def postfixed : Nat → Expression → Reader Expression
  | 0, _ => throw .tooDeep
  | fuel + 1, target => do
      match ← current with
      | .mark "." => do
          let _ ← advance
          let t ← advance
          match t with
          | .name id => postfixed fuel (.attribute target id)
          | .int n => postfixed fuel (.item target (.literal (.int n)))
          | _ => fail "expected name or number"
      | .mark "[" => do
          let _ ← advance
          let keys ← subscripts fuel true
          expectMark "]"
          match keys with
          | [key] => postfixed fuel (.item target key)
          | keys => postfixed fuel (.item target (.tuple keys))
      | .mark "(" => do
          let a ← callArguments fuel
          postfixed fuel (.call target a.args a.named a.rest a.restNamed)
      | _ => return target
termination_by structural fuel => fuel

def filterNamed : Nat → Option Expression → Reader Expression
  | 0, _ => throw .tooDeep
  | fuel + 1, target => do
      let id ← dottedName fuel (← expectName)
      let a ← if ← isMark "(" then callArguments fuel else pure ⟨[], [], none, none⟩
      return .filter target id a.args a.named a.rest a.restNamed
termination_by structural fuel => fuel

def filters : Nat → Option Expression → Reader (Option Expression)
  | 0, _ => throw .tooDeep
  | fuel + 1, target => do
      if ← skipMark "|" then
        let e ← filterNamed fuel target
        filters fuel (some e)
      else return target
termination_by structural fuel => fuel

def testAfter : Nat → Expression → Reader Expression
  | 0, _ => throw .tooDeep
  | fuel + 1, target => do
      let _ ← advance
      let negated ← skipWord "not"
      let id ← dottedName fuel (← expectName)
      let a : Arguments ← do
        match ← current with
        | .mark "(" => callArguments fuel
        | t => do
            let takes := match t with
              | .name word => !(["else", "or", "and"].contains word)
              | .text _ | .int _ | .real _ => true
              | .mark m => m == "[" || m == "\x7b"
              | _ => false
            if !takes then pure ⟨[], [], none, none⟩
            else do
              if t.isName "is" then fail "You cannot chain multiple tests with is"
              let e ← primary fuel
              let e ← postfixed fuel e
              pure ⟨[e], [], none, none⟩
      let e : Expression := .test target id a.args a.named a.rest a.restNamed
      return if negated then .negate e else e
termination_by structural fuel => fuel

def filtered : Nat → Expression → Reader Expression
  | 0, _ => throw .tooDeep
  | fuel + 1, target => do
      match ← current with
      | .mark "|" => do
          match ← filters fuel (some target) with
          | some e => filtered fuel e
          | none => return target
      | .mark "(" => do
          let a ← callArguments fuel
          filtered fuel (.call target a.args a.named a.rest a.restNamed)
      | .name "is" => do
          let e ← testAfter fuel target
          filtered fuel e
      | _ => return target
termination_by structural fuel => fuel

def unary : Nat → Bool → Reader Expression
  | 0, _ => throw .tooDeep
  | fuel + 1, withFilters => do
      let e ←
        if ← skipMark "-" then do pure (Expression.minus (← unary fuel false))
        else if ← skipMark "+" then do pure (Expression.plus (← unary fuel false))
        else primary fuel
      let e ← postfixed fuel e
      if withFilters then filtered fuel e else return e
termination_by structural fuel => fuel

def power : Nat → Reader Expression
  | 0 => throw .tooDeep
  | fuel + 1 => do
      let left ← unary fuel true
      chain ["**"] (unary fuel true) fuel left
termination_by structural fuel => fuel

def product : Nat → Reader Expression
  | 0 => throw .tooDeep
  | fuel + 1 => do
      let left ← power fuel
      chain ["*", "/", "//", "%"] (power fuel) fuel left
termination_by structural fuel => fuel

def joined : Nat → Reader Expression
  | 0 => throw .tooDeep
  | fuel + 1 => do
      let first ← product fuel
      let others ← joinedRest fuel
      return if others.isEmpty then first else .joined (first :: others)
termination_by structural fuel => fuel

def joinedRest : Nat → Reader (List Expression)
  | 0 => throw .tooDeep
  | fuel + 1 => do
      if ← skipMark "~" then
        let e ← product fuel
        return e :: (← joinedRest fuel)
      else return []
termination_by structural fuel => fuel

def sum : Nat → Reader Expression
  | 0 => throw .tooDeep
  | fuel + 1 => do
      let left ← joined fuel
      chain ["+", "-"] (joined fuel) fuel left
termination_by structural fuel => fuel

def comparison : Nat → Reader Expression
  | 0 => throw .tooDeep
  | fuel + 1 => do
      let first ← sum fuel
      let others ← comparisonRest fuel
      return if others.isEmpty then first else .compare first others
termination_by structural fuel => fuel

def comparisonRest : Nat → Reader (List (String × Expression))
  | 0 => throw .tooDeep
  | fuel + 1 => do
      let word? ← match ← current with
        | .mark m =>
            if comparisons.contains m then do
              let _ ← advance
              pure (some m)
            else pure none
        | .name "in" => do
            let _ ← advance
            pure (some "in")
        | .name "not" =>
            if (← upcoming).isName "in" then do
              let _ ← advance
              let _ ← advance
              pure (some "not in")
            else pure none
        | _ => pure none
      match word? with
      | none => return []
      | some word => do
          let e ← sum fuel
          return (word, e) :: (← comparisonRest fuel)
termination_by structural fuel => fuel

def negation : Nat → Reader Expression
  | 0 => throw .tooDeep
  | fuel + 1 => do
      if ← skipWord "not" then return .negate (← negation fuel) else comparison fuel
termination_by structural fuel => fuel

def conjunction : Nat → Reader Expression
  | 0 => throw .tooDeep
  | fuel + 1 => do
      let left ← negation fuel
      wordChain "and" .both (negation fuel) fuel left
termination_by structural fuel => fuel

def disjunction : Nat → Reader Expression
  | 0 => throw .tooDeep
  | fuel + 1 => do
      let left ← conjunction fuel
      wordChain "or" .either (conjunction fuel) fuel left
termination_by structural fuel => fuel

def expression : Nat → Reader Expression
  | 0 => throw .tooDeep
  | fuel + 1 => do
      let n ← line
      let first ← disjunction fuel
      choices fuel n first
termination_by structural fuel => fuel

def choices : Nat → Nat → Expression → Reader Expression
  | 0, _, _ => throw .tooDeep
  | fuel + 1, n, yes => do
      if ← skipWord "if" then
        let condition ← disjunction fuel
        let no ← if ← skipWord "else" then do pure (some (← expression fuel)) else pure none
        let e : Expression := .choice n condition yes no
        choices fuel (← line) e
      else return yes
termination_by structural fuel => fuel

end

/-! ## Targets -/

def requireTarget (e : Expression) : Reader Target :=
  match e.target? with
  | some target => pure target
  | none => fail s!"can't assign to {quoted e.sort}"

def targetTuple (fuel : Nat) (stops : List String) : Reader Target := do
  requireTarget (← tupleOf fuel (primary fuel) false stops)

def targetName : Reader String := do
  let id ← expectName
  match ← requireTarget (.name id) with
  | .name id => return id
  | _ => return id

def targetOrMember (fuel : Nat) : Reader Target := do
  if (← upcoming).isMark "." then
    let id ← expectName
    let _ ← advance
    return .field id (← expectName)
  else targetTuple fuel []

/-! ## Statements -/

def signature (fuel : Nat) : Reader (List String × List Expression) := do
  expectMark "("
  let parameters ← more fuel true false
  expectMark ")"
  return parameters
where
  more : Nat → Bool → Bool → Reader (List String × List Expression)
    | 0, _, _ => throw .tooDeep
    | fuel' + 1, isFirst, hasDefaults => do
        if ← isMark ")" then return ([], [])
        if !isFirst then expectMark ","
        let id ← targetName
        let value? ← if ← skipMark "=" then do pure (some (← expression fuel))
          else do
            if hasDefaults then fail "non-default argument follows default argument"
            pure none
        let (ids, values) ← more fuel' false (hasDefaults || value?.isSome)
        return (id :: ids, value?.toList ++ values)

def contextFlag (standard : Bool) : Reader Bool := do
  match ← current with
  | .name word =>
      if (word == "with" || word == "without") && (← upcoming).isName "context" then
        let _ ← advance
        let _ ← advance
        return word == "with"
      else return standard
  | _ => return standard

def importedNames : Nat → Bool → Reader (List (String × String) × Bool)
  | 0, _ => throw .tooDeep
  | fuel + 1, isFirst => do
      if !isFirst then expectMark ","
      match ← current with
      | .name word => do
          if (word == "with" || word == "without") && (← upcoming).isName "context" then
            return ([], ← contextFlag false)
          let id ← targetName
          if id.startsWith "_" then
            throw (.assertion "names starting with an underline can not be imported")
          let as_ ← if ← skipWord "as" then targetName else pure id
          let next ← current
          let seesContext ← contextFlag false
          let isFlag := (next.isName "with" || next.isName "without") &&
            !((← current).isName "with" || (← current).isName "without")
          if isFlag || !(← isMark ",") then return ([(id, as_)], seesContext)
          let (more, seesContext) ← importedNames fuel false
          return ((id, as_) :: more, seesContext)
      | _ => do
          let _ ← expectName
          return ([], false)

mutual

def parts : Nat → Option (List String) → Reader (List Part)
  | 0, _ => throw .tooDeep
  | fuel + 1, stops => do
      match ← current with
      | .data s => do
          let _ ← advance
          return .text s :: (← parts fuel stops)
      | .outputStart => do
          let _ ← advance
          let e ← tupleOf fuel (expression fuel) false []
          let _ ← expectToken Token.outputEnd.described fun t => t matches .outputEnd
          return .output [e] :: (← parts fuel stops)
      | .statementStart => do
          let _ ← advance
          let isEnd := match stops, ← current with
            | some words, .name word => words.contains word
            | _, _ => false
          if isEnd then return []
          let here ← statement fuel
          expectStatementEnd
          return here ++ (← parts fuel stops)
      | _ => return []
termination_by structural fuel => fuel

/-- The parts of a statement; what ends them is left to be read on demand. -/
def body : Nat → List String → Bool → Reader (List Part)
  | 0, _, _ => throw .tooDeep
  | fuel + 1, stops, passesEnd => do
      let _ ← skipMark ":"
      expectStatementEnd
      modify fun s => { s with endings := stops :: s.endings }
      let inner ← parts fuel (some stops)
      modify fun s => { s with endings := s.endings.drop 1 }
      match ← current with
      | .finish => unknownTag none (stops :: (← get).endings)
      | _ => pure ()
      if passesEnd then let _ ← advance
      return inner
termination_by structural fuel => fuel

def statement : Nat → Reader (List Part)
  | 0 => throw .tooDeep
  | fuel + 1 => do
      match ← current with
      | .name word => do
          modify fun s => { s with opened := word :: s.opened }
          let known ← statementNamed fuel word
          modify fun s => { s with opened := s.opened.drop 1 }
          match known with
          | some made => return made
          | none => unknownTag (some word) (← get).endings
      | _ => fail "tag name expected"
termination_by structural fuel => fuel

def statementNamed : Nat → String → Reader (Option (List Part))
  | 0, _ => throw .tooDeep
  | fuel + 1, word => do
      let one (part : Part) : Reader (Option (List Part)) := return some [part]
      match word with
      | "for" => do
          let _ ← advance
          let target ← targetTuple fuel ["in"]
          expectWord "in"
          let items ← tupleOf fuel (disjunction fuel) false ["recursive"]
          let test ← if ← skipWord "if" then do pure (some (← expression fuel)) else pure none
          let recursive ← skipWord "recursive"
          let inner ← body fuel ["endfor", "else"] false
          let ended ← advance
          let otherwise ← if ended.isName "endfor" then pure [] else body fuel ["endfor"] true
          one (.loop target items test recursive inner otherwise)
      | "if" => do
          let _ ← advance
          let (branches, otherwise) ← branches fuel
          one (.choice branches otherwise)
      | "set" => do
          let _ ← advance
          let target ← targetOrMember fuel
          if ← skipMark "=" then
            let e ← tupleOf fuel (expression fuel) false []
            one (.assign target e)
          else
            let filter ← filters fuel none
            let inner ← body fuel ["endset"] true
            one (.capture target filter inner)
      | "with" => do
          let _ ← advance
          let bindings ← bindings fuel true
          let inner ← body fuel ["endwith"] true
          one (.scoped bindings inner)
      | "autoescape" => do
          let _ ← advance
          let isMarked ← expression fuel
          let inner ← body fuel ["endautoescape"] true
          one (.marked isMarked inner)
      | "block" => do
          let _ ← advance
          let id ← expectName
          let isScoped ← skipWord "scoped"
          let isRequired ← skipWord "required"
          if ← isMark "-" then
            fail ("Block names in Jinja have to be valid Python identifiers and may not contain " ++
              "hyphens, use an underscore instead.")
          let inner ← body fuel ["endblock"] true
          let isBlankPart : Part → Bool
            | .text s => s.toList.all isBlank && !s.isEmpty
            | _ => false
          if isRequired && !inner.all isBlankPart then
            fail "Required blocks can only contain comments or whitespace"
          let _ ← skipWord id
          one (.block id isScoped isRequired inner)
      | "extends" => do
          let _ ← advance
          one (.extend (← expression fuel))
      | "print" => do
          let _ ← advance
          one (.output (← printed fuel true))
      | "macro" => do
          let _ ← advance
          let id ← targetName
          let (parameters, defaults) ← signature fuel
          let inner ← body fuel ["endmacro"] true
          one (.define id parameters defaults inner)
      | "include" => do
          let _ ← advance
          let e ← expression fuel
          let ignores ← if (← isWord "ignore") && (← upcoming).isName "missing" then do
              let _ ← advance
              let _ ← advance
              pure true
            else pure false
          one (.include e ignores (← contextFlag true))
      | "import" => do
          let _ ← advance
          let e ← expression fuel
          expectWord "as"
          let id ← targetName
          one (.importAs e id (← contextFlag false))
      | "from" => do
          let _ ← advance
          let e ← expression fuel
          expectWord "import"
          let (names, seesContext) ← importedNames fuel true
          one (.importFrom e names seesContext)
      | "call" => do
          let _ ← advance
          let (parameters, defaults) ←
            if ← isMark "(" then signature fuel else pure ([], [])
          let e ← expression fuel
          match e with
          | .call _ _ _ _ _ => pure ()
          | _ => fail "expected call"
          let inner ← body fuel ["endcall"] true
          one (.callWith parameters defaults e inner)
      | "filter" => do
          let _ ← advance
          let first ← filterNamed fuel none
          let filter ← filters fuel (some first)
          let inner ← body fuel ["endfilter"] true
          one (.filtered (filter.getD first) inner)
      | _ => return none
termination_by structural fuel => fuel

def branches : Nat → Reader (List (Expression × List Part) × List Part)
  | 0 => throw .tooDeep
  | fuel + 1 => do
      let test ← tupleOf fuel (disjunction fuel) false []
      let inner ← body fuel ["elif", "else", "endif"] false
      let ended ← advance
      if ended.isName "elif" then
        let (more, otherwise) ← branches fuel
        return ((test, inner) :: more, otherwise)
      let otherwise ← if ended.isName "else" then body fuel ["endif"] true else pure []
      return ([(test, inner)], otherwise)
termination_by structural fuel => fuel

def bindings : Nat → Bool → Reader (List (Target × Expression))
  | 0, _ => throw .tooDeep
  | fuel + 1, isFirst => do
      match ← current with
      | .statementEnd => return []
      | _ => do
          if !isFirst then expectMark ","
          let target ← targetTuple fuel []
          expectMark "="
          let e ← expression fuel
          return (target, e) :: (← bindings fuel false)
termination_by structural fuel => fuel

def printed : Nat → Bool → Reader (List Expression)
  | 0, _ => throw .tooDeep
  | fuel + 1, isFirst => do
      match ← current with
      | .statementEnd => return []
      | _ => do
          if !isFirst then expectMark ","
          let e ← expression fuel
          return e :: (← printed fuel false)
termination_by structural fuel => fuel

end

end Reader

def readingDepth (tokens : Nat) : Nat := 40 * tokens + 100

def Part.ofSource (source : String) : Except TemplateFault (List Part) := do
  let ahead := lexemes source
  let act : Reader (List Part) := do
    let _ ← Reader.current
    Reader.parts (readingDepth ahead.length) none
  let (parts, _) ← act.run ⟨ahead, [], []⟩
  .ok parts

end StillMotion.Instruction
