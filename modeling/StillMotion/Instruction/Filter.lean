import StillMotion.Data.Json.Writer
import StillMotion.Instruction.Links
import StillMotion.Instruction.Method
import StillMotion.Instruction.Spread
import StillMotion.Instruction.Wrapping
import StillMotion.Number.Numeral

/-!
# Filters and tests

A filter makes a new datum of one that it is given, and a test answers whether something holds of
one.  Both are called by name.  Filters that take other filters or tests call them by name too;
how far such calls may be nested is bounded by the number of steps they are given.
-/

namespace StillMotion.Instruction

open StillMotion.Number StillMotion.Text

/-! ## Members by a path -/

namespace Key

def steps : Datum → List Datum
  | .null => []
  | .str s _ => (split '.' s).map fun step =>
      let cs := step.toList
      if !cs.isEmpty && cs.all isDigit then .int (digitsValue cs) else Datum.text step
  | d => [d]

def follow (path : Datum) (d : Datum) : Filling Datum := (steps path).foldlM Datum.element d

/-- A text in lower case, so that capitals do not count. -/
def folded : Datum → Datum
  | .str s isSafe => .str (lowerCase s) isSafe
  | d => d

def made (path : Datum) (seesCase : Bool) (d : Datum) : Filling Datum := do
  let e ← follow path d
  return if seesCase then e else folded e

def several (paths : Datum) (seesCase : Bool) (d : Datum) : Filling Datum := do
  let all : List Datum := match paths with
    | .str s _ => (split ',' s).map Datum.text
    | d => [d]
  return .list (← all.mapM fun path => made path seesCase d)

def orStandard (path : Datum) (standard : Datum) (d : Datum) : Filling Datum := do
  let e ← follow path d
  return if e.isPresent || (standard matches .null) then e else standard

end Key

/-! ## Conversions -/

namespace Conversion

def ofDouble (x : Float) (standard : Datum) : Datum :=
  match classify x with
  | .finite p => .int p.truncate
  | _ => standard

def toInt (d standard : Datum) (base : Int) : Filling Datum := do
  match ← d.present with
  | .str s _ => match freeWhole base.toNat s with
      | .ok n => return .int n
      | .error _ => match freeReal? s with
          | some x => return ofDouble x standard
          | none => return standard
  | .float x => match classify x with
      | .finite p => return .int p.truncate
      | .nan => return standard
      | .infinite _ => Datum.misfit .infinityToInteger
  | d => return (d.integer?.map Datum.int).getD standard

def toFloat (d standard : Datum) : Filling Datum := do
  match ← d.present with
  | .str s _ => return ((freeReal? s).map Datum.float).getD standard
  | d => match d.numeric? with
      | some n => return .float (← Datum.ofMisfit n.toFloat?)
      | none => return standard

mutual

def toValue : Datum → Filling Value
  | .null => .ok .null
  | .bool b => .ok (.bool b)
  | .int n =>
      if (Value.int n).isWithin digitLimit then .ok (.int n) else Datum.misfit .integerTooWide
  | .float x => .ok (.float x)
  | .str s _ => .ok (.str s)
  | .list items => (toValues items).map .list
  | .tuple items => (toValues items).map .list
  | .group key items => do return .list [← toValue key, .list (← toValues items)]
  | .mapping entries => (toEntries entries).map .mapping
  | d => Datum.misfit (.kindOf "TypeError"
      s!"Object of type {d.kindName} is not JSON serializable")

def toValues : List Datum → Filling (List Value)
  | [] => .ok []
  | d :: rest => do return (← toValue d) :: (← toValues rest)

def toEntries : List (Datum × Datum) → Filling Entries
  | [] => .ok []
  | (key, d) :: rest => do
      let name ← match key with
        | .str s _ => pure s
        | .null => pure "null"
        | .bool b => pure (if b then "true" else "false")
        | .int n => pure (Value.intText n)
        | .float x => pure (String.ofList (dataText x))
        | d => Datum.misfit (.kindOf "TypeError"
            s!"keys must be str, int, float, bool or None, not {d.kindName}")
      return (name, ← toValue d) :: (← toEntries rest)

end

def dataText (d : Datum) (indent : Option Nat) : Filling Datum := do
  let layout : Json.Layout := ⟨true, true, if indent.isSome then [','] else [',', ' '],
    [':', ' '], indent⟩
  let s := Json.text layout (← toValue d)
  let escape (c : Char) : String :=
    if c == '<' || c == '>' || c == '&' || c == apostrophe then
      String.ofList (Json.unicodeEscape c.toNat)
    else c.toString
  return .str (String.join (s.toList.map escape)) true

/-- A number rounded to places after the point, a tie going to the even digit. -/
def rounded (n : Numeric) (places : Int) : Datum :=
  match n with
  | .int n =>
      if 0 ≤ places then .int n
      else
        let unit := Nat.pow 10 places.natAbs
        let m : Int := roundDiv n.natAbs unit * unit
        .int (if n < 0 then -m else m)
  | .float x => match classify x with
      | .finite p =>
          if 350 < places then .float x
          else
            let (num, den) := p.ratio
            let (num, den) := scaled 10 num den places
            .float (ofDecimal p.negative (natDigits (roundDiv num den)) (-places))
      | _ => .float x

end Conversion

/-! ## Filters on texts -/

namespace TextFilter

def isOpening (c : Char) : Bool :=
  c == '-' || isBlank c || c == '(' || c == '{' || c == '[' || c == '<'

def titled (cs : List Char) : List Char :=
  let rec go : Nat → List Char → List Char
    | 0, cs => cs
    | _, [] => []
    | fuel + 1, c :: rest =>
        if isOpening c then upperChar c ++ go fuel rest
        else
          let word := rest.takeWhile fun c => !isOpening c
          upperChar c ++ lowerChars word ++ go fuel (rest.drop word.length)
  go cs.length cs

def indented (s : String) (indention : String) (first blank : Bool) : String :=
  let lines := (linesOf false (s ++ "\n").toList).map String.ofList
  let body :=
    if blank then ("\n" ++ indention).intercalate lines
    else match lines with
      | [] => ""
      | line :: more =>
          "\n".intercalate (line :: more.map fun line =>
            if line.isEmpty then line else indention ++ line)
  if first then indention ++ body else body

def truncated (s : String) (length : Int) (killsWords : Bool) (ending : String) (leeway : Int) :
    Filling String := do
  if length < ending.length then
    Datum.misfit (.kindOf "AssertionError"
      s!"expected length >= {ending.length}, got {length}")
  if leeway < 0 then
    Datum.misfit (.kindOf "AssertionError" s!"expected leeway >= 0, got {leeway}")
  if s.length ≤ length + leeway then return s
  let head := s.toList.take (length - ending.length).toNat
  if killsWords then return String.ofList head ++ ending
  let kept := match findLast? [' '] head with
    | some n => head.take n
    | none => head
  return String.ofList kept ++ ending

def sizePrefixes (binary : Bool) : List String :=
  if binary then ["KiB", "MiB", "GiB", "TiB", "PiB", "EiB", "ZiB", "YiB"]
  else ["kB", "MB", "GB", "TB", "PB", "EB", "ZB", "YB"]

def sizeText (x : Float) (binary : Bool) : String :=
  let base : Float := if binary then 1024.0 else 1000.0
  if x == 1.0 then "1 Byte"
  else if x < base then
    match classify x with
    | .finite p => s!"{p.truncate} Bytes"
    | _ => "0 Bytes"
  else
    let rec go (unit : Float) : List String → String
      | [] => ""
      | [word] => String.ofList (fixedText 1 (base * x / unit)) ++ " " ++ word
      | word :: more =>
          if x < unit then String.ofList (fixedText 1 (base * x / unit)) ++ " " ++ word
          else go (unit * base) more
    go (base * base) (sizePrefixes binary)

def isUnreserved (c : Char) : Bool :=
  (c.toNat < 128 && c.isAlphanum) || c == '_' || c == '.' || c == '-' || c == '~'

def addressText (s : String) (isField : Bool) : String :=
  String.join (s.toList.map fun c =>
    if isUnreserved c || (c == '/' && !isField) then c.toString
    else if c == ' ' && isField then "+"
    else String.join (c.toString.toUTF8.toList.map fun b =>
      "%" ++ String.ofList ((hexDigits 2 b.toNat).map asciiUpper)))

def wordCount (cs : List Char) : Nat :=
  (cs.foldl (fun (state : Bool × Nat) c =>
    let isWord := isWordChar c
    (isWord, if isWord && !state.1 then state.2 + 1 else state.2)) (false, 0)).2

end TextFilter

/-! ## The parameters of filters -/

namespace Filter

def callbacks : List String := ["map", "select", "reject", "selectattr", "rejectattr"]

def no : Datum := .bool false

def signatures : List (String × Signature) :=
  let one (name callee : String) (hidden : Nat) (word : String)
      (more : List (String × Option Datum)) : String × Signature :=
    (name, ⟨callee, hidden, (word, .none) :: more⟩)
  [one "abs" "abs" 0 "x" [],
   one "attr" "do_attr" 1 "obj" [("name", .none)],
   one "batch" "do_batch" 0 "value" [("linecount", .none), ("fill_with", some .null)],
   one "capitalize" "do_capitalize" 0 "s" [],
   one "center" "do_center" 0 "value" [("width", some (.int 80))],
   one "count" "len" 0 "obj" [],
   one "d" "do_default" 0 "value"
     [("default_value", some (Datum.text "")), ("boolean", some no)],
   one "default" "do_default" 0 "value"
     [("default_value", some (Datum.text "")), ("boolean", some no)],
   one "dictsort" "do_dictsort" 0 "value"
     [("case_sensitive", some no), ("by", some (Datum.text "key")), ("reverse", some no)],
   one "e" "escape" 0 "s" [],
   one "escape" "escape" 0 "s" [],
   one "filesizeformat" "do_filesizeformat" 0 "value" [("binary", some no)],
   one "first" "sync_do_first" 1 "seq" [],
   one "float" "do_float" 0 "value" [("default", some (.float 0.0))],
   one "forceescape" "do_forceescape" 0 "value" [],
   one "groupby" "sync_do_groupby" 1 "value"
     [("attribute", .none), ("default", some .null), ("case_sensitive", some no)],
   one "indent" "do_indent" 0 "s"
     [("width", some (.int 4)), ("first", some no), ("blank", some no)],
   one "int" "do_int" 0 "value" [("default", some (.int 0)), ("base", some (.int 10))],
   one "items" "do_items" 0 "value" [],
   one "join" "sync_do_join" 1 "value" [("d", some (Datum.text "")), ("attribute", some .null)],
   one "last" "do_last" 1 "seq" [],
   one "length" "len" 0 "obj" [],
   one "list" "sync_do_list" 0 "value" [],
   one "lower" "do_lower" 0 "s" [],
   one "max" "do_max" 1 "value" [("case_sensitive", some no), ("attribute", some .null)],
   one "min" "do_min" 1 "value" [("case_sensitive", some no), ("attribute", some .null)],
   one "pprint" "do_pprint" 0 "value" [],
   one "random" "do_random" 1 "seq" [],
   one "replace" "do_replace" 1 "s" [("old", .none), ("new", .none), ("count", some .null)],
   one "reverse" "do_reverse" 0 "value" [],
   one "round" "do_round" 0 "value"
     [("precision", some (.int 0)), ("method", some (Datum.text "common"))],
   one "safe" "do_mark_safe" 0 "value" [],
   one "slice" "sync_do_slice" 0 "value" [("slices", .none), ("fill_with", some .null)],
   one "sort" "do_sort" 1 "value"
     [("reverse", some no), ("case_sensitive", some no), ("attribute", some .null)],
   one "string" "soft_str" 0 "s" [],
   one "striptags" "do_striptags" 0 "value" [],
   one "sum" "sync_do_sum" 1 "iterable" [("attribute", some .null), ("start", some (.int 0))],
   one "title" "do_title" 0 "s" [],
   one "tojson" "do_tojson" 1 "value" [("indent", some .null)],
   one "trim" "do_trim" 0 "value" [("chars", some .null)],
   one "truncate" "do_truncate" 1 "s"
     [("length", some (.int 255)), ("killwords", some no), ("end", some (Datum.text "...")),
      ("leeway", some .null)],
   one "unique" "do_unique" 1 "value" [("case_sensitive", some no), ("attribute", some .null)],
   one "upper" "do_upper" 0 "s" [],
   one "urlencode" "do_urlencode" 0 "value" [],
   one "urlize" "do_urlize" 1 "value"
     [("trim_url_limit", some .null), ("nofollow", some no), ("target", some .null),
      ("rel", some .null), ("extra_schemes", some .null)],
   one "wordcount" "do_wordcount" 0 "s" [],
   one "wordwrap" "do_wordwrap" 1 "s"
     [("width", some (.int 79)), ("break_long_words", some (.bool true)),
      ("wrapstring", some .null), ("break_on_hyphens", some (.bool true))],
   one "xmlattr" "do_xmlattr" 1 "d" [("autospace", some (.bool true))]]

def isKnown (name : String) : Bool :=
  name == "format" || callbacks.contains name || signatures.any fun entry => entry.1 == name

/-! ## Filters on rows -/

def batches (count : Nat) (fill : Datum) (items : List Datum) : List Datum :=
  let rec go : Nat → List Datum → List Datum
    | 0, _ => []
    | _, [] => []
    | fuel + 1, items =>
        let row := items.take count
        let row := match fill with
          | .null => row
          | fill => row ++ List.replicate (count - row.length) fill
        .list row :: go fuel (items.drop count)
  if count == 0 then [.list items] else go items.length items

def slices (count : Nat) (fill : Datum) (items : List Datum) : List Datum :=
  let base := items.length / count
  let extra := items.length % count
  (List.range count).map fun i =>
    let start := i * base + min i extra
    let row := (items.drop start).take (if i < extra then base + 1 else base)
    .list (match fill with
      | .null => row
      | fill => if extra ≤ i then row ++ [fill] else row)

def groups (keyed : List (Datum × Datum)) : Filling (List (Datum × List Datum)) := do
  let step (seen : List (Datum × List Datum)) (entry : Datum × Datum) :
      Filling (List (Datum × List Datum)) := do
    match seen with
    | (key, items) :: rest =>
        if ← Datum.same key entry.1 then return (key, entry.2 :: items) :: rest
        return (entry.1, [entry.2]) :: seen
    | [] => return [(entry.1, [entry.2])]
  let found ← keyed.foldlM step []
  return (found.map fun (key, items) => (key, items.reverse)).reverse

def extreme (comparison : Comparison) (key : Datum → Filling Datum) :
    List Datum → Filling Datum
  | [] => .ok (.missing "No aggregated item, sequence was empty.")
  | d :: rest => do
      let start ← key d
      let (_, best) ← rest.foldlM (fun (best : Datum × Datum) e => do
        let k ← key e
        return if ← Datum.compareBy comparison k best.1 then (k, e) else best) (start, d)
      return best

def unsuited {α : Type} (message : String) : Filling α := .error (.unsuitable message)

def roundedBy (d precision method : Datum) : Filling Datum := do
  let how ← method.shown
  if !(["common", "ceil", "floor"].contains how) then
    unsuited "method must be common, ceil or floor"
  let d ← d.present
  match d.numeric?, how with
  | some n, "common" =>
      return Conversion.rounded n (← Datum.integerOf precision)
  | none, "common" =>
      Datum.misfit (.kindOf "TypeError" s!"type {d.kindName} doesn't define __round__ method")
  | _, how => do
      let unit ← Datum.combine .power (.int 10) precision
      let product ← Datum.combine .multiply d unit
      match product.numeric? with
      | none => Datum.misfit (.kindOf "TypeError"
          s!"must be real number, not {product.kindName}")
      | some (.int n) => Datum.combine .divide (.int n) unit
      | some (.float x) => match classify x with
          | .finite p =>
              let (num, den) := p.ratio
              let signed : Int := if p.negative then -(num : Int) else num
              let n := if how == "ceil" then -((-signed).fdiv den) else signed.fdiv den
              Datum.combine .divide (.int n) unit
          | .nan => Datum.misfit .nanToInteger
          | .infinite _ => Datum.misfit .infinityToInteger

def reversed (d : Datum) : Filling Datum := do
  match d with
  | .str s isSafe => return .str (String.ofList s.toList.reverse) isSafe
  | .missing reason => throw (.undefined reason)
  | d => match d.items with
      | .ok items => return .stream "list_reverseiterator" items.reverse
      | .error _ => unsuited "argument must be iterable"

def queryText (d : Datum) : Filling String := do
  match d with
  | .str s _ => return TextFilter.addressText s false
  | .mapping _ | .list _ | .tuple _ | .group _ _ | .view _ _ | .stream _ _ | .span _ _ _ => do
      let pairs ← entriesOf d
      let texts ← pairs.mapM fun (key, e) => do
        let left := TextFilter.addressText (← key.shown) true
        return left ++ "=" ++ TextFilter.addressText (← e.shown) true
      return "&".intercalate texts
  | d => return TextFilter.addressText (← d.shown) false

def tagAttributes (entries : List (Datum × Datum)) (autospace : Bool) : Filling String := do
  let texts ← entries.filterMapM fun (key, d) => do
    match d with
    | .null | .missing _ | .blank _ => return none
    | d =>
        match key with
        | .str name _ =>
            if name.toList.any fun c => isBlank c || c == '/' || c == '>' || c == '=' then
              Datum.misfit (.kindOf "ValueError"
                s!"Invalid character in attribute name: {quoted name}")
        | d => Datum.misfit (.kindOf "TypeError"
            s!"expected string or bytes-like object, got {quoted d.kindName}")
        let left ← (← key.escaped).shown
        return some (left ++ "=\"" ++ (← (← d.escaped).shown) ++ "\"")
  let joined := " ".intercalate texts
  return if autospace && !joined.isEmpty then " " ++ joined else joined

/-- Texts put together; they are marked when one of them is safe. -/
def joinedText (sep : Datum) (items : List Datum) : Filling Datum := do
  if sep.isSafe || items.any Datum.isSafe then
    let shown (d : Datum) : Filling String := do (← d.escaped).shown
    return .str ((← shown sep).intercalate (← items.mapM shown)) true
  return Datum.text ((← sep.shown).intercalate (← items.mapM Datum.shown))

/-- A text with another one replaced; where texts are marked, what is not safe is escaped. -/
def replacedText (marks : Bool) (d old new : Datum) (count : Datum) : Filling Datum := do
  let isSafe := marks && (d.isSafe || old.isSafe || new.isSafe)
  let shown (d : Datum) : Filling String := do
    if isSafe then (← d.escaped).shown else d.shown
  let s ← shown d
  let limit ← match count with
    | .null => pure (-1)
    | n => Datum.integerOf n
  let old ← shown old
  let new ← shown new
  let limit := TextMethod.limitOf limit (s.length + 1)
  return .str (String.ofList (replaced old.toList new.toList s.toList limit)) isSafe

def linkRule (limit nofollow target rel schemes : Datum) : Filling Links.Rule := do
  let limit ← match limit with
    | .null => pure none
    | n => pure (some (← Datum.natOf n))
  let given ← match rel with
    | .null => pure []
    | d => pure (wordsIn 1000 1000 (← d.shown).toList)
  let words := given.map String.ofList ++ (if ← nofollow.truth then ["nofollow"] else []) ++
    ["noopener"]
  let rel := " ".intercalate ((words.mergeSort fun a b => a ≤ b).eraseDups)
  let target ← match target with
    | .null => pure none
    | d => pure (some (← d.shown))
  let schemes ← match schemes with
    | .null => pure []
    | d => do (← d.items).mapM Datum.shown
  match schemes.find? fun scheme => !Links.isScheme scheme with
  | some scheme => unsuited s!"{quoted scheme} is not a valid URI scheme prefix."
  | none => return ⟨limit, rel, target, schemes⟩

/-- A filter without callbacks, given the data of its parameters; `marks` tells that texts are
marked. -/
def apply (marks : Bool) (name : String) (taken : List Datum) : Filling Datum := do
  let at' (i : Nat) : Datum := taken[i]?.getD .null
  let d := at' 0
  let onText (f : String → String) : Filling Datum := do
    return .str (f (← d.shown)) d.isSafe
  let isTrue (i : Nat) : Filling Bool := (at' i).truth
  match name with
  | "abs" => match d.numeric? with
      | some (.int n) => return .int n.natAbs
      | some (.float x) => return .float x.abs
      | none => Datum.misfit (.unary "abs()" d.kindName)
  | "attr" => do
      let word ← (at' 1).shown
      let d ← d.present
      return (d.own? word).getD (Datum.absence d (Datum.text word))
  | "batch" => do
      return .stream "generator" (batches (← Datum.natOf (at' 1)) (at' 2) (← d.items))
  | "capitalize" => onText capitalize
  | "center" => do
      return .str (← TextMethod.inField (← d.shown) "center" [at' 1]) d.isSafe
  | "count" | "length" => return .int (← d.length)
  | "d" | "default" => do
      if !d.isPresent then return at' 1
      if (← isTrue 2) && !(← d.truth) then return at' 1
      return d
  | "dictsort" => do
      let by' ← (at' 2).shown
      if by' != "key" && by' != "value" then
        unsuited "You can only sort by either \"key\" or \"value\""
      let seesCase ← isTrue 1
      let position := if by' == "key" then 0 else 1
      let pairs ← match ← d.present with
        | .mapping entries => pure (entries.map fun (key, e) => Datum.tuple [key, e])
        | d => Datum.misfit (.noAttribute d.kindName "items")
      let key (pair : Datum) : Filling Datum := Key.made (.int position) seesCase pair
      return .list (← sortedBy key (← isTrue 3) pairs)
  | "e" | "escape" => d.escaped
  | "filesizeformat" => do
      let x ← match ← Conversion.toFloat d .null with
        | .float x => pure x
        | _ => do
            let shown := quoted (← d.shown)
            Datum.misfit (.kindOf "ValueError" s!"could not convert string to float: {shown}")
      return Datum.text (TextFilter.sizeText x (← isTrue 1))
  | "first" => do
      return (← d.items).head?.getD (.missing "No first item, sequence was empty.")
  | "last" => match ← d.present with
      | .stream kind _ =>
          Datum.misfit (.kindOf "TypeError" s!"'{kind}' object is not reversible")
      | d => return (← d.items).getLast?.getD (.missing "No last item, sequence was empty.")
  | "random" => do
      return (← d.items).head?.getD (.missing "No random item, sequence was empty.")
  | "float" => Conversion.toFloat d (at' 1)
  | "int" => do Conversion.toInt d (at' 1) (← Datum.integerOf (at' 2))
  | "forceescape" => return .str (Datum.escapeText (← d.shown)) true
  | "groupby" => do
      let seesCase ← isTrue 3
      let key (e : Datum) : Filling Datum := do
        let k ← Key.orStandard (at' 1) (at' 2) e
        return if seesCase then k else Key.folded k
      let sorted ← sortedBy key false (← d.items)
      let keyed ← sorted.mapM fun e => return (← key e, e)
      let found ← groups keyed
      return .list (← found.mapM fun (k, items) => do
        let shown ← if seesCase then pure k
          else Key.orStandard (at' 1) (at' 2) (items.head?.getD .null)
        return .group shown items)
  | "indent" => do
      let indention ← match at' 1 with
        | .str s _ => pure s
        | d => pure (String.ofList (List.replicate (← Datum.natOf d) ' '))
      let first ← isTrue 2
      let blank ← isTrue 3
      match ← d.present with
      | .str s isSafe => return .str (TextFilter.indented s indention first blank) isSafe
      | d => do
          let _ ← Datum.sum d (Datum.text "\n")
          return d
  | "items" => match d with
      | .missing _ | .blank _ => return .stream "generator" []
      | .mapping entries =>
          return .stream "generator" (entries.map fun (key, e) => .tuple [key, e])
      | _ => Datum.misfit (.kindOf "TypeError" "Can only get item pairs from a mapping.")
  | "join" => do
      let items ← d.items
      let items ← match at' 2 with
        | .null => pure items
        | path => items.mapM (Key.follow path)
      if marks then joinedText (at' 1) items
      else return Datum.text ((← (at' 1).shown).intercalate (← items.mapM Datum.shown))
  | "list" => return .list (← d.items)
  | "lower" => onText lowerCase
  | "upper" => onText upperCase
  | "max" => do extreme .greater (Key.made (at' 2) (← isTrue 1)) (← d.items)
  | "min" => do extreme .less (Key.made (at' 2) (← isTrue 1)) (← d.items)
  | "pprint" => return Datum.text (← Datum.ofMisfit (Spread.text d))
  | "replace" => replacedText marks d (at' 1) (at' 2) (at' 3)
  | "reverse" => reversed d
  | "round" => roundedBy d (at' 1) (at' 2)
  | "safe" => return .str (← d.shown) true
  | "slice" => do
      let count ← Datum.integerOf (at' 1)
      if count == 0 then Datum.misfit (.zeroDivisor "integer division or modulo by zero")
      return .stream "generator" (slices count.toNat (at' 2) (← d.items))
  | "sort" => do
      return .list (← sortedBy (Key.several (at' 3) (← isTrue 2)) (← isTrue 1) (← d.items))
  | "string" => match d with
      | .str s isSafe => return .str s isSafe
      | d => return Datum.text (← d.shown)
  | "striptags" => return Datum.text (TextMethod.withoutTags (← d.shown))
  | "sum" => do
      let items ← d.items
      let items ← match at' 1 with
        | .null => pure items
        | path => items.mapM (Key.follow path)
      match at' 2 with
      | .str _ _ => Datum.misfit (.kindOf "TypeError"
          "sum() can't sum strings [use ''.join(seq) instead]")
      | start => items.foldlM (Datum.combine .add) start
  | "title" => return Datum.text (String.ofList (TextFilter.titled (← d.shown).toList))
  | "tojson" => do
      let indent ← match at' 1 with
        | .null => pure none
        | n => pure (some (← Datum.natOf n))
      Conversion.dataText d indent
  | "trim" => do
      let fits ← match at' 1 with
        | .null => pure isBlank
        | chars => TextMethod.isStripped [chars]
      onText fun s => String.ofList (stripChars fits s.toList)
  | "truncate" => do
      let leeway ← match at' 4 with
        | .null => pure 5
        | n => Datum.integerOf n
      let length ← Datum.integerOf (at' 1)
      let cut ← TextFilter.truncated (← d.shown) length (← isTrue 2) (← (at' 3).shown) leeway
      return .str cut d.isSafe
  | "unique" => do
      let key := Key.made (at' 2) (← isTrue 1)
      let (_, found) ← (← d.items).foldlM (fun (seen : List Datum × List Datum) e => do
        let k ← key e
        Datum.checkKey k
        return if ← Datum.isAmong k seen.1 then seen else (k :: seen.1, e :: seen.2)) ([], [])
      return .stream "generator" found.reverse
  | "urlencode" => return Datum.text (← queryText d)
  | "urlize" => do
      let rule ← linkRule (at' 1) (at' 2) (at' 3) (at' 4) (at' 5)
      return .str (Links.text rule (← (← d.escaped).shown)) marks
  | "wordcount" => return .int (TextFilter.wordCount (← d.shown).toList)
  | "wordwrap" => do
      let s ← d.shown
      let width ← Datum.integerOf (at' 1)
      let rule : Wrapping.Rule := ⟨width.toNat, ← isTrue 2, ← isTrue 4⟩
      let sep ← match at' 3 with
        | .null => pure "\n"
        | e => e.shown
      let lines := linesOf false s.toList
      if width ≤ 0 && !lines.isEmpty then
        Datum.misfit (.kindOf "ValueError" s!"invalid width {width} (must be > 0)")
      return Datum.text (sep.intercalate (lines.map fun line =>
        sep.intercalate ((Wrapping.lines rule line).map String.ofList)))
  | "xmlattr" => do
      match ← d.present with
      | .mapping entries => return .str (← tagAttributes entries (← isTrue 1)) marks
      | d => Datum.misfit (.noAttribute d.kindName "items")
  | _ => return d

end Filter

/-! ## Tests -/

namespace Test

def signatures : List (String × Signature) :=
  let one (name callee word : String) : String × Signature := (name, ⟨callee, 0, [(word, .none)]⟩)
  let two (name callee left right : String) : String × Signature :=
    (name, ⟨callee, 0, [(left, .none), (right, .none)]⟩)
  [one "odd" "test_odd" "value", one "even" "test_even" "value",
   two "divisibleby" "test_divisibleby" "value" "num",
   one "defined" "test_defined" "value", one "undefined" "test_undefined" "value",
   ("filter", ⟨"test_filter", 1, [("value", .none)]⟩),
   ("test", ⟨"test_test", 1, [("value", .none)]⟩),
   one "none" "test_none" "value", one "boolean" "test_boolean" "value",
   one "false" "test_false" "value", one "true" "test_true" "value",
   one "integer" "test_integer" "value", one "float" "test_float" "value",
   one "lower" "test_lower" "value", one "upper" "test_upper" "value",
   one "string" "test_string" "value", one "mapping" "test_mapping" "value",
   one "number" "test_number" "value", one "sequence" "test_sequence" "value",
   one "iterable" "test_iterable" "value", one "callable" "callable" "obj",
   two "sameas" "test_sameas" "value" "other", one "escaped" "test_escaped" "value",
   two "in" "test_in" "value" "seq",
   two "==" "eq" "a" "b", two "eq" "eq" "a" "b", two "equalto" "eq" "a" "b",
   two "!=" "ne" "a" "b", two "ne" "ne" "a" "b",
   two ">" "gt" "a" "b", two "gt" "gt" "a" "b", two "greaterthan" "gt" "a" "b",
   two ">=" "ge" "a" "b", two "ge" "ge" "a" "b",
   two "<" "lt" "a" "b", two "lt" "lt" "a" "b", two "lessthan" "lt" "a" "b",
   two "<=" "le" "a" "b", two "le" "le" "a" "b"]

def isKnown (name : String) : Bool := signatures.any fun entry => entry.1 == name

def comparison? (name : String) : Option String :=
  match name with
  | "==" | "eq" | "equalto" => some "=="
  | "!=" | "ne" => some "!="
  | ">" | "gt" | "greaterthan" => some ">"
  | ">=" | "ge" => some ">="
  | "<" | "lt" | "lessthan" => some "<"
  | "<=" | "le" => some "<="
  | "in" => some "in"
  | _ => none

def leaves (d divisor : Datum) (rest : Int) : Filling Bool := do
  let found ← Datum.combine .remainder d divisor
  Datum.same found (.int rest)

def isIdentical : Datum → Datum → Bool
  | .null, .null => true
  | .missing s, .missing t => s == t
  | .bool a, .bool b => a == b
  | .int m, .int n => m == n
  | .float x, .float y => x == y
  | .str s _, .str t _ => s == t
  | .thing _ m, .thing _ n => m == n
  | _, _ => false

def apply (name : String) (taken : List Datum) : Filling Bool := do
  let d := taken.head?.getD .null
  let other := taken[1]?.getD .null
  if let some symbol := comparison? name then return ← Datum.compared symbol d other
  match name with
  | "odd" => leaves d (.int 2) 1
  | "even" => leaves d (.int 2) 0
  | "divisibleby" => leaves d other 0
  | "defined" => return d.isPresent
  | "undefined" => return !d.isPresent
  | "filter" => match d with
      | .str s _ => return Filter.isKnown s
      | .missing reason => throw (.undefined reason)
      | _ => return false
  | "test" => match d with
      | .str s _ => return isKnown s
      | .missing reason => throw (.undefined reason)
      | _ => return false
  | "none" => return (d matches .null)
  | "boolean" => return (d matches .bool _)
  | "false" => return (d matches .bool false)
  | "true" => return (d matches .bool true)
  | "integer" => return (d matches .int _)
  | "float" => return (d matches .float _)
  | "number" => return d.numeric?.isSome
  | "string" => return (d matches .str _ _)
  | "mapping" => return (d matches .mapping _)
  | "sequence" => match d with
      | .str _ _ | .list _ | .tuple _ | .group _ _ | .mapping _ | .span _ _ _ => return true
      | _ => return false
  | "iterable" => match d with
      | .missing reason => throw (.undefined reason)
      | d => return d.items.isOk
  | "callable" => match d with
      | .missing _ | .blank _ | .method _ _ | .function _ | .kindOf _ => return true
      | .thing .macroOf _ | .thing .joiner _ => return true
      | _ => return false
  | "sameas" => return isIdentical d other
  | "escaped" => return d.isSafe
  | "lower" => return TextMethod.isAllCased isLowerCase (← d.shown)
  | "upper" => return TextMethod.isAllCased isUpperCase (← d.shown)
  | _ => return false

def ask (name : String) (d : Datum) (g : Given) : Filling Bool := do
  match signatures.find? fun entry => entry.1 == name with
  | none => throw (.refused s!"No test named {quoted name}.")
  | some (_, signature) => apply name (← signature.bind { g with args := d :: g.args })

end Test

namespace Filter

def condition (args : List Datum) (named : List (String × Datum)) (d : Datum) : Filling Bool := do
  match args with
  | [] => d.truth
  | name :: rest => Test.ask (← name.shown) d ⟨rest, named⟩

/-- Use a filter by its name.  `steps` bounds the filters that call other ones. -/
def use (marks : Bool) : Nat → String → Datum → Given → Filling Datum
  | 0, _, _, _ => .error .tooDeep
  | steps + 1, name, d, g => do
      match name with
      | "format" => do
          if !g.args.isEmpty && !g.named.isEmpty then
            unsuited "can't handle positional and keyword arguments at the same time"
          let pattern ← d.shown
          let supply := if g.named.isEmpty then Datum.tuple g.args else .mapping (namedEntries g)
          return .str (← Percent.fill pattern supply) d.isSafe
      | "map" => do
          if !(← d.truth) then return .stream "generator" []
          let one : Datum → Filling Datum ←
            match g.args, g.named? "attribute" with
            | [], some path => do
                match (g.without "attribute").without "default" with
                | ⟨_, (word, _) :: _⟩ =>
                    unsuited s!"Unexpected keyword argument {quoted word}"
                | _ => pure (Key.orStandard path ((g.named? "default").getD .null))
            | [], none => unsuited "map requires a filter argument"
            | word :: rest, _ => do
                let word ← word.shown
                if !isKnown word then throw (.refused s!"No filter named {quoted word}.")
                pure fun e => use marks steps word e ⟨rest, g.named⟩
          return .stream "generator" (← (← d.items).mapM one)
      | "select" | "reject" => do
          if !(← d.truth) then return .stream "generator" []
          let wanted := name == "select"
          return .stream "generator" (← (← d.items).filterM fun e =>
            return (← condition g.args g.named e) == wanted)
      | "selectattr" | "rejectattr" => do
          if !(← d.truth) then return .stream "generator" []
          let wanted := name == "selectattr"
          match g.args with
          | [] => unsuited "Missing parameter for attribute name"
          | path :: rest =>
              return .stream "generator" (← (← d.items).filterM fun e => do
                return (← condition rest g.named (← Key.follow path e)) == wanted)
      | name => match signatures.find? fun entry => entry.1 == name with
          | none => throw (.unavailable "filter" name)
          | some (_, signature) =>
              apply marks name (← signature.bind { g with args := d :: g.args })

def sparing : List String :=
  ["d", "default", "string", "safe", "e", "escape", "forceescape", "pprint", "attr", "length",
   "count", "last", "random"]

def left (name : String) (items : List Datum) : List Datum :=
  if sparing.contains name then items
  else if name == "first" then items.drop 1
  else []

end Filter

end StillMotion.Instruction
