import StillMotion.Data.Ordering
import StillMotion.Instruction.Given
import StillMotion.Instruction.Lexer

/-!
# Operations of data

The operations that belong to texts, lists, mappings and numbers.  An operation that changes its
owner gives the changed owner beside its result.
-/

namespace StillMotion.Instruction

open StillMotion.Number StillMotion.Text

/-! ## Searching texts -/

/-- The places where a text occurs, not overlapping, up to `limit` of them. -/
def cutAt (sep : List Char) : Nat → Nat → List Char → List Char → List (List Char)
  | 0, _, piece, cs => [piece.reverse ++ cs]
  | _, 0, piece, cs => [piece.reverse ++ cs]
  | _, _, piece, [] => [piece.reverse]
  | fuel + 1, limit + 1, piece, c :: cs =>
      match dropLead? sep (c :: cs) with
      | some rest => piece.reverse :: cutAt sep fuel limit [] rest
      | none => cutAt sep fuel (limit + 1) (c :: piece) cs

def pieces (sep cs : List Char) (limit : Nat) : List (List Char) :=
  cutAt sep (cs.length + 1) limit [] cs

/-- The words of a text; with a limit the rest stays together. -/
def wordsIn : Nat → Nat → List Char → List (List Char)
  | 0, _, _ => []
  | fuel + 1, limit, cs =>
      match trimLeft cs with
      | [] => []
      | c :: rest => match limit with
          | 0 => [trimRight (c :: rest)]
          | limit + 1 =>
              let word := (c :: rest).takeWhile fun c => !isBlank c
              word :: wordsIn fuel limit ((c :: rest).drop word.length)

/-- Replace a text, at most `limit` times. -/
def replaced (old new cs : List Char) (limit : Nat) : List Char :=
  if old.isEmpty then
    let rec between : Nat → List Char → List Char
      | 0, cs => cs
      | _ + 1, [] => new
      | n + 1, c :: cs => new ++ c :: between n cs
    between limit cs
  else new.intercalate (pieces old cs limit)

def find? (needle : List Char) : Nat → List Char → Option Nat
  | at', [] => if needle.isEmpty then some at' else none
  | at', c :: cs => if startsWith (c :: cs) needle then some at' else find? needle (at' + 1) cs

def findLast? (needle cs : List Char) : Option Nat :=
  (find? needle.reverse 0 cs.reverse).map fun n => cs.length - n - needle.length

def isLineEnd (c : Char) : Bool :=
  let n := c.toNat
  (10 ≤ n && n ≤ 13) || (0x1C ≤ n && n ≤ 0x1E) || n == 0x85 || n == 0x2028 || n == 0x2029

def linesOf (keepsEnds : Bool) : List Char → List (List Char)
  | [] => []
  | '\r' :: '\n' :: rest => (if keepsEnds then ['\r', '\n'] else []) :: linesOf keepsEnds rest
  | c :: rest =>
      if isLineEnd c then (if keepsEnds then [c] else []) :: linesOf keepsEnds rest
      else match linesOf keepsEnds rest, rest with
        | line :: more, d :: _ =>
            if isLineEnd d && !keepsEnds then [c] :: more else (c :: line) :: more
        | more, _ => [c] :: more

/-! ## Texts -/

namespace TextMethod

def given (s : String) (isSafe : Bool) : Datum := .str s isSafe

def refuse {α : Type} (message : String) : Filling α := Signature.refuse message

def textAt (args : List Datum) (i : Nat) (standard : String) : Filling String := do
  match args[i]? with
  | none => return standard
  | some (.str s _) => return s
  | some d => do
      let d ← d.present
      refuse s!"argument {i + 1} must be str, not {d.kindName}"

def countAt (args : List Datum) (i : Nat) (standard : Int) : Filling Int := do
  match args[i]? with
  | none => return standard
  | some d => Datum.integerOf d

def limitOf (n : Int) (standard : Nat) : Nat := if n < 0 then standard else n.toNat

def isStripped (args : List Datum) : Filling (Char → Bool) := do
  match args.head? with
  | none | some .null => return isBlank
  | some (.str s _) => return s.toList.contains
  | some d => do
      let _ ← d.present
      refuse "strip arg must be None or str"

def within (cs : List Char) (args : List Datum) : Filling (Nat × List Char) := do
  let low ← Datum.bound cs.length false 0 (args[1]?.getD .null)
  let high ← Datum.bound cs.length false cs.length (args[2]?.getD .null)
  return (low.toNat, (cs.take high.toNat).drop low.toNat)

def splitText (s : String) (isSafe fromRight : Bool) (args : List Datum) : Filling Datum := do
  let cs := s.toList
  let limit := limitOf (← countAt args 1 (-1)) (cs.length + 1)
  let turned (cs : List Char) : List Char := if fromRight then cs.reverse else cs
  let found ← match args.head? with
    | none | some .null => pure (wordsIn (cs.length + 1) limit (turned cs))
    | some (.str sep _) =>
        if sep.isEmpty then Datum.misfit (.kindOf "ValueError" "empty separator")
        else pure (pieces (turned sep.toList) (turned cs) limit)
    | some d => do
        let d ← d.present
        refuse s!"must be str or None, not {d.kindName}"
  let found := if fromRight then (found.map List.reverse).reverse else found
  return .list (found.map fun cs => given (String.ofList cs) isSafe)

def startsOrEnds (name s : String) (args : List Datum) : Filling Datum := do
  let fits (cs edge : List Char) : Bool :=
    if name == "startswith" then startsWith cs edge else startsWith cs.reverse edge.reverse
  let (_, cs) ← within s.toList args
  match args.head? with
  | some (.str edge _) => return .bool (fits cs edge.toList)
  | some (.tuple items) => return .bool (items.any fun d => match d with
      | .str edge _ => fits cs edge.toList
      | _ => false)
  | some d => do
      let d ← d.present
      refuse s!"{name} first arg must be str or a tuple of str, not {d.kindName}"
  | none => refuse s!"{name}() takes at least 1 argument (0 given)"

def inField (s : String) (name : String) (args : List Datum) : Filling String := do
  let width ← match args.head? with
    | some d => Datum.natOf d
    | none => refuse s!"{name} expected at least 1 argument, got 0"
  let fill ← textAt args 1 " "
  match fill.toList with
  | [c] =>
      let gap := width - s.length
      let filling (n : Nat) : String := String.ofList (List.replicate n c)
      if name == "ljust" then return s ++ filling gap
      if name == "rjust" then return filling gap ++ s
      let left := gap / 2 + (if gap % 2 == 1 && width % 2 == 1 then 1 else 0)
      return filling left ++ s ++ filling (gap - left)
  | _ => refuse "The fill character must be exactly one character long"

def joinTexts (s : String) (isSafe : Bool) (d : Datum) : Filling Datum := do
  let items ← d.items
  let texts ← items.zipIdx.mapM fun (d, i) => do
    match d with
    | .str t safe => return if isSafe && !safe then Datum.escapeText t else t
    | d => do
        let d ← d.present
        if isSafe then return Datum.escapeText (← d.shown)
        refuse s!"sequence item {i}: expected str instance, {d.kindName} found"
  return given (s.intercalate texts) isSafe

def parted (s sep : String) (fromRight : Bool) : Filling Datum := do
  if sep.isEmpty then Datum.misfit (.kindOf "ValueError" "empty separator")
  let cs := s.toList
  let found := if fromRight then findLast? sep.toList cs else find? sep.toList 0 cs
  let parts := match found with
    | some n => [String.ofList (cs.take n), sep, String.ofList (cs.drop (n + sep.length))]
    | none => if fromRight then ["", "", s] else [s, "", ""]
  return .tuple (parts.map Datum.text)

def expandTabs (size : Nat) (s : String) : String :=
  let step (state : Nat × List Char) (c : Char) : Nat × List Char :=
    if c == '\t' then
      let n := if size == 0 then 0 else size - state.1 % size
      (state.1 + n, List.replicate n ' ' ++ state.2)
    else if c == '\n' || c == '\r' then (0, c :: state.2)
    else (state.1 + 1, c :: state.2)
  String.ofList (s.toList.foldl step (0, [])).2.reverse

def zeroFilled (width : Nat) (s : String) : String :=
  let (sign, rest) := match s.toList with
    | '+' :: rest => (['+'], rest)
    | '-' :: rest => (['-'], rest)
    | rest => ([], rest)
  String.ofList (sign ++ zerosText (width - s.length) ++ rest)

def isAllCased (fits : Char → Bool) (s : String) : Bool :=
  s.toList.any isCased && s.toList.all fun c => !isCased c || fits c

def fieldParts (cs : List Char) : List Char × Option Char × List Char :=
  let (head, spec) := match cut? ':' cs with
    | some (head, spec) => (head, spec)
    | none => (cs, [])
  match head.reverse with
  | c :: '!' :: rest => (rest.reverse, some c, spec)
  | _ => (head, none, spec)

def follow : Nat → Datum → List Char → Filling Datum
  | 0, d, _ => .ok d
  | _, d, [] => .ok d
  | fuel + 1, d, '.' :: rest => do
      let name := rest.takeWhile fun c => c != '.' && c != '['
      let e ← match d.own? (String.ofList name) with
        | some e => pure e
        | none => Datum.misfit (.noAttribute d.kindName (String.ofList name))
      follow fuel e (rest.drop name.length)
  | fuel + 1, d, '[' :: rest => do
      let key := rest.takeWhile (· != ']')
      let k : Datum := if !key.isEmpty && key.all isAsciiDigit then .int (digitsValue key)
        else Datum.text (String.ofList key)
      match ← d.element? k with
      | some e => follow fuel e (rest.drop (key.length + 1))
      | none => match d with
          | .mapping _ => do
              Datum.misfit (.kindOf "KeyError" (← Datum.ofMisfit k.quotedForm))
          | _ => Datum.misfit .outOfRange
  | _, _, _ => Datum.misfit (.kindOf "ValueError"
      "Only '.' or '[' may follow ']' in format field specifier")

/-- Fill in a pattern with braces; `next` counts the places without a name. -/
def fillBraces (given : Given) : Nat → Nat → List Char → Filling (List Char)
  | 0, _, _ => .error .tooDeep
  | fuel + 1, next, cs => do
      match cs with
      | [] => return []
      | '{' :: '{' :: rest => return '{' :: (← fillBraces given fuel next rest)
      | '}' :: '}' :: rest => return '}' :: (← fillBraces given fuel next rest)
      | '}' :: _ =>
          Datum.misfit (.kindOf "ValueError" "Single '\x7d' encountered in format string")
      | '{' :: rest => do
          let inner := rest.takeWhile (· != '}')
          if inner.length == rest.length then
            if rest.isEmpty then
              Datum.misfit (.kindOf "ValueError" "Single '\x7b' encountered in format string")
            Datum.misfit (.kindOf "ValueError" "expected '\x7d' before end of string")
          let (head, conversion, spec) := fieldParts inner
          let name := head.takeWhile fun c => c != '.' && c != '['
          let (d?, next) :=
            if name.isEmpty then (given.args[next]?, next + 1)
            else if name.all isAsciiDigit then (given.args[digitsValue name]?, next)
            else (given.named? (String.ofList name), next)
          let d ← match d? with
            | some d => pure d
            | none =>
                if name.isEmpty || name.all isAsciiDigit then
                  let n := if name.isEmpty then next - 1 else digitsValue name
                  Datum.misfit (.kindOf "IndexError"
                    s!"Replacement index {n} out of range for positional args tuple")
                else Datum.misfit (.kindOf "KeyError" (quoted (String.ofList name)))
          let d ← follow (inner.length + 1) d (head.drop name.length)
          let d ← match conversion with
            | some 'r' | some 'a' => do
                pure (Datum.text (← Datum.ofMisfit d.quotedForm))
            | some 's' => do pure (Datum.text (← d.shown))
            | _ => pure d
          let here ← Braces.formatted (String.ofList spec) d
          let rest := rest.drop (inner.length + 1)
          return here.toList ++ (← fillBraces given fuel next rest)
      | c :: rest => return c :: (← fillBraces given fuel next rest)

def dropTags : Nat → List Char → List Char
  | 0, cs => cs
  | _, [] => []
  | fuel + 1, '<' :: rest =>
      match dropLead? "!--".toList rest with
      | some inner => match find? "-->".toList 0 inner with
          | some n => dropTags fuel (inner.drop (n + 3))
          | none => '<' :: rest
      | none => match find? ['>'] 0 rest with
          | some n => dropTags fuel (rest.drop (n + 1))
          | none => '<' :: rest
  | fuel + 1, c :: rest => c :: dropTags fuel rest

def namedCharacters : List (String × Char) :=
  [("&lt;", '<'), ("&gt;", '>'), ("&amp;", '&'), ("&quot;", '"'), ("&#34;", '"'),
   ("&#39;", apostrophe), ("&apos;", apostrophe), ("&nbsp;", Char.ofNat 0xA0)]

def readNames : Nat → List Char → List Char
  | 0, cs => cs
  | _, [] => []
  | fuel + 1, c :: rest =>
      match namedCharacters.findSome? fun (name, d) =>
          (dropLead? name.toList (c :: rest)).map (d, ·) with
      | some (d, rest) => d :: readNames fuel rest
      | none => c :: readNames fuel rest

def withoutTags (s : String) : String :=
  let cs := s.toList
  let words := wordsIn (cs.length + 1) (cs.length + 1) (dropTags cs.length cs)
  let joined := [' '].intercalate words
  String.ofList (readNames joined.length joined)

def call (s : String) (isSafe : Bool) (name : String) (g : Given) : Filling Datum := do
  let cs := s.toList
  let args := g.args
  let same (t : String) : Datum := given t isSafe
  let bool (b : Bool) : Datum := .bool b
  let all (p : Char → Bool) : Datum := .bool (!cs.isEmpty && cs.all p)
  let plain (d : Datum) : Filling Datum := do
    if !args.isEmpty then refuse s!"str.{name}() takes no arguments ({args.length} given)"
    return d
  let needle : Filling String := do
    if args.isEmpty then refuse s!"{name}() takes at least 1 argument (0 given)"
    textAt args 0 ""
  match name with
  | "upper" => plain (same (upperCase s))
  | "lower" | "casefold" => plain (same (lowerCase s))
  | "capitalize" => plain (same (capitalize s))
  | "title" => plain (same (titleWords s))
  | "swapcase" => plain (same (swapCase s))
  | "strip" => return same (String.ofList (stripChars (← isStripped args) cs))
  | "lstrip" => return same (String.ofList (cs.dropWhile (← isStripped args)))
  | "rstrip" =>
      return same (String.ofList (cs.reverse.dropWhile (← isStripped args)).reverse)
  | "split" | "rsplit" =>
      let named := [g.named? "sep", g.named? "maxsplit"]
      let args := match named with
        | [some sep, limit?] => sep :: limit?.toList
        | [none, some limit] => [args[0]?.getD .null, limit]
        | _ => args
      splitText s isSafe (name == "rsplit") args
  | "splitlines" => do
      let keeps ← ((g.named? "keepends").getD (args[0]?.getD (.bool false))).truth
      return .list ((linesOf keeps cs).map fun line => same (String.ofList line))
  | "join" => match args with
      | [d] => joinTexts s isSafe d
      | args =>
          refuse s!"str.join() takes exactly one argument ({args.length} given)"
  | "replace" => do
      if args.length < 2 then
        refuse s!"replace expected at least 2 arguments, got {args.length}"
      let old ← textAt args 0 ""
      let new ← textAt args 1 ""
      let limit := limitOf (← countAt args 2 (-1)) (cs.length + 1)
      return same (String.ofList (replaced old.toList new.toList cs limit))
  | "startswith" | "endswith" => startsOrEnds name s args
  | "find" | "index" | "rfind" | "rindex" => do
      let needle ← needle
      let (low, cs) ← within cs args
      let found := if name == "find" || name == "index" then find? needle.toList 0 cs
        else findLast? needle.toList cs
      match found with
      | some n => return .int (n + low)
      | none =>
          if name == "index" || name == "rindex" then
            Datum.misfit (.kindOf "ValueError" "substring not found")
          return .int (-1)
  | "count" => do
      let needle ← needle
      let (_, cs) ← within cs args
      if needle.isEmpty then return .int (cs.length + 1)
      return .int ((pieces needle.toList cs (cs.length + 1)).length - 1 : Nat)
  | "center" | "ljust" | "rjust" => return same (← inField s name args)
  | "zfill" => return same (zeroFilled (← countAt args 0 0).toNat s)
  | "partition" | "rpartition" => parted s (← needle) (name == "rpartition")
  | "expandtabs" => return same (expandTabs (← countAt args 0 8).toNat s)
  | "removeprefix" => do
      let edge ← needle
      return same (String.ofList ((dropLead? edge.toList cs).getD cs))
  | "removesuffix" => do
      let edge ← needle
      return same (String.ofList
        (((dropLead? edge.toList.reverse cs.reverse).map List.reverse).getD cs))
  | "format" => return same (String.ofList (← fillBraces g (cs.length + 1) 0 cs))
  | "isdigit" | "isdecimal" | "isnumeric" => plain (all isDigit)
  | "isspace" => plain (all isBlank)
  | "isalpha" => plain (all fun c => isWordChar c && !isDigit c && c != '_')
  | "isalnum" => plain (all fun c => isWordChar c && c != '_')
  | "isascii" => plain (bool (cs.all fun c => c.toNat < 128))
  | "islower" => plain (bool (isAllCased isLowerCase s))
  | "isupper" => plain (bool (isAllCased isUpperCase s))
  | "striptags" => plain (Datum.text (withoutTags s))
  | "unescape" => plain (Datum.text (String.ofList (readNames cs.length cs)))
  | _ => return .null

end TextMethod

/-! ## Sorting -/

def sortedBy (key : Datum → Filling Datum) (isFalling : Bool) (items : List Datum) :
    Filling (List Datum) := do
  let keyed ← items.mapM fun d => return (← key d, d)
  let keyed := if isFalling then keyed.reverse else keyed
  let sorted ← Ordering.byInsertion (fun a b => Datum.compareBy .less a.1 b.1) keyed
  let sorted := sorted.map (·.2)
  return if isFalling then sorted.reverse else sorted

/-! ## Lists, mappings and numbers -/

abbrev Outcome := Datum × Option Datum

def placeOf? (x : Datum) : Nat → List Datum → Filling (Option Nat)
  | _, [] => .ok none
  | n, y :: rest => do if ← Datum.same y x then return some n else placeOf? x (n + 1) rest

def rowMethod (kind name : String) (items : List Datum) (args : List Datum) :
    Filling Datum := do
  match name, args with
  | "count", [x] => do
      let found ← items.filterM fun y => Datum.same y x
      return .int found.length
  | "index", x :: _ => do
      match ← placeOf? x 0 items with
      | some n => return .int n
      | none =>
          let shown ← Datum.ofMisfit x.quotedForm
          let told := if kind == "list" then s!"{shown} is not in list"
            else s!"{kind}.index(x): x not in {kind}"
          Datum.misfit (.kindOf "ValueError" told)
  | "index", [] => Signature.refuse "index expected at least 1 argument, got 0"
  | _, args =>
      Signature.refuse s!"{kind}.{name}() takes exactly one argument ({args.length} given)"

def listMethod (name : String) (items : List Datum) (g : Given) : Filling Outcome := do
  let changed (items : List Datum) : Filling Outcome := return (.null, some (.list items))
  match name, g.args with
  | "append", [x] => changed (items ++ [x])
  | "extend", [d] => do changed (items ++ (← d.items))
  | "insert", [at', x] => do
      let n ← Datum.bound items.length false 0 at'
      changed (items.take n.toNat ++ x :: items.drop n.toNat)
  | "pop", args => do
      if items.isEmpty then Datum.misfit (.kindOf "IndexError" "pop from empty list")
      let n ← match args with
        | [] => pure (-1)
        | d :: _ => Datum.integerOf d
      match Datum.seat? items.length n with
      | none => Datum.misfit (.kindOf "IndexError" "pop index out of range")
      | some n => return (items[n]?.getD .null, some (.list (items.eraseIdx n)))
  | "remove", [x] => do
      match ← placeOf? x 0 items with
      | some n => changed (items.eraseIdx n)
      | none => Datum.misfit (.kindOf "ValueError" "list.remove(x): x not in list")
  | "clear", [] => changed []
  | "reverse", [] => changed items.reverse
  | "copy", [] => return (.list items, none)
  | "sort", [] => do
      let isFalling ← ((g.named? "reverse").getD (.bool false)).truth
      changed (← sortedBy pure isFalling items)
  | "sort", _ => Signature.refuse "sort() takes no positional arguments"
  | "insert", args => Signature.refuse s!"insert expected 2 arguments, got {args.length}"
  | "clear", args | "reverse", args | "copy", args =>
      Signature.refuse s!"list.{name}() takes no arguments ({args.length} given)"
  | _, args => return (← rowMethod "list" name items args, none)

def entriesOf (d : Datum) : Filling (List (Datum × Datum)) := do
  match d with
  | .mapping entries => return entries
  | d => (← d.items).zipIdx.mapM fun (pair, i) => do
      match ← pair.items with
      | [key, x] => return (key, x)
      | items => Datum.misfit (.kindOf "ValueError" (s!"dictionary update sequence element #{i} " ++
          s!"has length {items.length}; 2 is required"))

def updated (entries more : List (Datum × Datum)) : Filling (List (Datum × Datum)) :=
  more.foldlM (fun seen entry => do
    Datum.checkKey entry.1
    Datum.put entry.1 entry.2 seen) entries

def namedEntries (g : Given) : List (Datum × Datum) :=
  g.named.map fun (name, d) => (Datum.text name, d)

def withoutKey (key : Datum) (entries : List (Datum × Datum)) :
    Filling (List (Datum × Datum)) :=
  entries.filterM fun entry => return !(← Datum.same key entry.1)

def mappingMethod (name : String) (entries : List (Datum × Datum)) (g : Given) :
    Filling Outcome := do
  let pairs := entries.map fun (key, d) => Datum.tuple [key, d]
  match name, g.args with
  | "keys", [] => return (.view .keys (entries.map (·.1)), none)
  | "values", [] => return (.view .values (entries.map (·.2)), none)
  | "items", [] => return (.view .items pairs, none)
  | "copy", [] => return (.mapping entries, none)
  | "clear", [] => return (.null, some (.mapping []))
  | "get", [] => Signature.refuse "get expected at least 1 argument, got 0"
  | "get", key :: rest => do
      Datum.checkKey key
      return ((← Datum.lookUp entries key).getD (rest.head?.getD .null), none)
  | "setdefault", key :: rest => do
      Datum.checkKey key
      match ← Datum.lookUp entries key with
      | some d => return (d, none)
      | none =>
          let d := rest.head?.getD .null
          return (d, some (.mapping (entries ++ [(key, d)])))
  | "pop", key :: rest => do
      Datum.checkKey key
      match ← Datum.lookUp entries key, rest with
      | some d, _ => return (d, some (.mapping (← withoutKey key entries)))
      | none, d :: _ => return (d, none)
      | none, [] => Datum.misfit (.kindOf "KeyError" (← Datum.ofMisfit key.quotedForm))
  | "popitem", [] => match entries.getLast? with
      | some (key, d) => return (.tuple [key, d], some (.mapping entries.dropLast))
      | none => Datum.misfit (.kindOf "KeyError" (quoted "popitem(): dictionary is empty"))
  | "update", args => do
      let more ← match args with
        | [] => pure []
        | d :: _ => entriesOf d
      return (.null, some (.mapping (← updated entries (more ++ namedEntries g))))
  | _, args => Signature.refuse s!"dict.{name}() takes no arguments ({args.length} given)"

namespace Datum

def callMethod (owner : Datum) (name : String) (g : Given) : Filling Outcome := do
  match owner.plain with
  | .str s isSafe => return (← TextMethod.call s isSafe name g, none)
  | .list items => listMethod name items g
  | .tuple items => return (← rowMethod "tuple" name items g.args, none)
  | .span first last step =>
      return (← rowMethod "range" name (spanItems first last step) g.args, none)
  | .mapping entries => mappingMethod name entries g
  | .float x => match classify x with
      | .finite p => return (.bool p.isIntegral, none)
      | _ => return (.bool false, none)
  | d => match d.integer? with
      | some n => return (.int (if n == 0 then 0 else n.natAbs.log2 + 1), none)
      | none => return (.null, none)

end Datum

end StillMotion.Instruction
