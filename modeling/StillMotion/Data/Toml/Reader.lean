import StillMotion.Data.Value
import StillMotion.Number.Numeral
import StillMotion.Text.Quoted

/-!
# TOML values

The values of a configuration file: strings of four kinds, numbers, dates and times, arrays and
inline tables.  A reader takes a value from the start of a text and returns the rest; nothing
is the answer when the text does not start with one.
-/

namespace StillMotion.Toml

open StillMotion.Text StillMotion.Number

def isBlankChar (c : Char) : Bool := c == ' ' || c == '\t'

def skipBlanks (cs : List Char) : List Char := cs.dropWhile isBlankChar

def isControl (c : Char) : Bool := (c.toNat < 32 && c != '\t') || c.toNat == 127

/-! ## Keys and strings -/

def isBareKeyChar (c : Char) : Bool :=
  ('a' ≤ c && c ≤ 'z') || ('A' ≤ c && c ≤ 'Z') || isAsciiDigit c || c == '_' || c == '-'

def codePoint? (count : Nat) (cs : List Char) : Option (Char × List Char) :=
  let digits := cs.take count
  if digits.length == count && digits.all fun c => (hexValue? c).isSome then
    let n := baseValue 16 digits
    if n < 0xD800 || (0xDFFF < n && n < 0x110000) then some (Char.ofNat n, cs.drop count) else none
  else none

def escape? : List Char → Option (Char × List Char)
  | 'b' :: rest => some (Char.ofNat 8, rest)
  | 't' :: rest => some ('\t', rest)
  | 'n' :: rest => some ('\n', rest)
  | 'f' :: rest => some (Char.ofNat 12, rest)
  | 'r' :: rest => some ('\r', rest)
  | '"' :: rest => some ('"', rest)
  | '\\' :: rest => some ('\\', rest)
  | 'u' :: rest => codePoint? 4 rest
  | 'U' :: rest => codePoint? 8 rest
  | _ => none

def basicBody? (seen : List Char) : Nat → List Char → Option (String × List Char)
  | 0, _ => none
  | _, [] => none
  | fuel + 1, c :: rest =>
      if c == '"' then some (String.ofList seen.reverse, rest)
      else if c == '\\' then do
        let (d, rest) ← escape? rest
        basicBody? (d :: seen) fuel rest
      else if isControl c then none
      else basicBody? (c :: seen) fuel rest

def literalBody? (seen : List Char) : List Char → Option (String × List Char)
  | [] => none
  | c :: rest =>
      if c == apostrophe then some (String.ofList seen.reverse, rest)
      else if isControl c then none
      else literalBody? (c :: seen) rest

def isBlankOrNewline (c : Char) : Bool := isBlankChar c || c == '\n'

def joinedLine? (cs : List Char) : Option (List Char) :=
  match cs.dropWhile isBlankChar with
  | [] => some []
  | '\n' :: rest => some (rest.dropWhile isBlankOrNewline)
  | _ => none

def closing (quote : Char) (seen rest : List Char) : String × List Char :=
  match rest with
  | a :: b :: more =>
      if a == quote then
        if b == quote then (String.ofList (quote :: quote :: seen).reverse, more)
        else (String.ofList (quote :: seen).reverse, b :: more)
      else (String.ofList seen.reverse, rest)
  | [a] => if a == quote then (String.ofList (quote :: seen).reverse, [])
      else (String.ofList seen.reverse, rest)
  | [] => (String.ofList seen.reverse, [])

def multilineBody? (quote : Char) (seen : List Char) : Nat → List Char → Option (String × List Char)
  | 0, _ => none
  | _, [] => none
  | fuel + 1, c :: rest =>
      match dropLead? [quote, quote, quote] (c :: rest) with
      | some rest => some (closing quote seen rest)
      | none =>
          if c == '\\' && quote == '"' then
            match rest with
            | d :: _ =>
                if isBlankOrNewline d then do
                  let rest ← joinedLine? rest
                  multilineBody? quote seen fuel rest
                else do
                  let (d, rest) ← escape? rest
                  multilineBody? quote (d :: seen) fuel rest
            | [] => none
          else if isControl c && c != '\n' then none
          else multilineBody? quote (c :: seen) fuel rest

def dropNewline : List Char → List Char
  | '\n' :: rest => rest
  | rest => rest

def lineString? : List Char → Option (String × List Char)
  | c :: rest =>
      if c == '"' then basicBody? [] (rest.length + 1) rest
      else if c == apostrophe then literalBody? [] rest
      else none
  | [] => none

def string? (cs : List Char) : Option (String × List Char) :=
  match cs with
  | a :: b :: c :: rest =>
      if (a == '"' || a == apostrophe) && b == a && c == a then
        multilineBody? a [] (rest.length + 1) (dropNewline rest)
      else lineString? cs
  | _ => lineString? cs

def keyPart? (cs : List Char) : Option (String × List Char) :=
  match cs with
  | [] => none
  | c :: _ =>
      if isBareKeyChar c then
        some (String.ofList (cs.takeWhile isBareKeyChar), cs.dropWhile isBareKeyChar)
      else lineString? cs

def key? : Nat → List Char → Option (List String × List Char)
  | 0, _ => none
  | fuel + 1, cs => do
      let (part, rest) ← keyPart? cs
      match skipBlanks rest with
      | '.' :: rest => do
          let (parts, rest) ← key? fuel (skipBlanks rest)
          some (part :: parts, rest)
      | rest => some ([part], rest)

/-! ## Numbers -/

/-- Digits of a base with single underscores between them; the text starts with a digit. -/
def separatedDigits (isDigitChar : Char → Bool) : List Char → List Char × List Char
  | [] => ([], [])
  | '_' :: d :: rest =>
      if isDigitChar d then
        let (ds, rest) := separatedDigits isDigitChar rest
        (d :: ds, rest)
      else ([], '_' :: d :: rest)
  | d :: rest =>
      if isDigitChar d then
        let (ds, rest) := separatedDigits isDigitChar rest
        (d :: ds, rest)
      else ([], d :: rest)

def startsWithDigit (isDigitChar : Char → Bool) : List Char → Bool
  | c :: _ => isDigitChar c
  | [] => false

def isHexDigit (c : Char) : Bool := (hexValue? c).isSome
def isOctalDigit (c : Char) : Bool := '0' ≤ c && c ≤ '7'
def isBinaryDigit (c : Char) : Bool := c == '0' || c == '1'

def based? (isDigitChar : Char → Bool) (base : Nat) (cs : List Char) :
    Option (Value × List Char) :=
  if startsWithDigit isDigitChar cs then
    let (ds, rest) := separatedDigits isDigitChar cs
    some (.int (baseValue base ds), rest)
  else none

def fraction (cs : List Char) : Option (List Char) × List Char :=
  match cs with
  | '.' :: rest =>
      if startsWithDigit isAsciiDigit rest then
        let (ds, rest) := separatedDigits isAsciiDigit rest
        (some ds, rest)
      else (none, cs)
  | _ => (none, cs)

def exponent (cs : List Char) : Option Int × List Char :=
  match cs with
  | c :: rest =>
      if c == 'e' || c == 'E' then
        let (negative, ds) := takeSign rest
        if startsWithDigit isAsciiDigit ds then
          let (ds, rest) := separatedDigits isAsciiDigit ds
          let n : Int := digitsValue ds
          (some (if negative then -n else n), rest)
        else (none, cs)
      else (none, cs)
  | [] => (none, cs)

def wholeDigits? : List Char → Option (List Char × List Char)
  | '0' :: rest => some (['0'], rest)
  | cs => if startsWithDigit isAsciiDigit cs then some (separatedDigits isAsciiDigit cs) else none

def decimal? (cs : List Char) : Option (Value × List Char) := do
  let (negative, rest) := takeSign cs
  let (whole, rest) ← wholeDigits? rest
  let (fractionDigits, rest) := fraction rest
  let (power, rest) := exponent rest
  if fractionDigits.isNone && power.isNone then
    if digitLimit < whole.length then none
    else
      let n : Int := digitsValue whole
      some (.int (if negative then -n else n), rest)
  else
    let ds := fractionDigits.getD []
    some (.float (ofDecimal negative (whole ++ ds) (power.getD 0 - ds.length)), rest)

def wordNumbers : List (String × Float) :=
  [("inf", infinity false), ("+inf", infinity false), ("-inf", infinity true),
   ("nan", notANumber), ("+nan", notANumber), ("-nan", notANumber)]

def number? (cs : List Char) : Option (Value × List Char) :=
  let inBase := match cs with
    | '0' :: 'x' :: rest => based? isHexDigit 16 rest
    | '0' :: 'o' :: rest => based? isOctalDigit 8 rest
    | '0' :: 'b' :: rest => based? isBinaryDigit 2 rest
    | _ => none
  match inBase with
  | some result => some result
  | none =>
      let (_, unsigned) := takeSign cs
      if startsWithDigit isAsciiDigit unsigned then decimal? cs
      else wordNumbers.findSome? fun (word, x) =>
        (dropLead? word.toList cs).map fun rest => (.float x, rest)

/-! ## Dates and times -/

/-- A number of exactly `count` digits. -/
def fixedNumber? (count : Nat) (cs : List Char) : Option (Nat × List Char) :=
  let ds := cs.take count
  if ds.length == count && ds.all isAsciiDigit then some (digitsValue ds, cs.drop count) else none

def expect? (c : Char) : List Char → Option (List Char)
  | d :: rest => if c == d then some rest else none
  | [] => none

def daysIn (year month : Nat) : Nat :=
  if month == 2 then
    if year % 4 == 0 && (year % 100 != 0 || year % 400 == 0) then 29 else 28
  else if month == 4 || month == 6 || month == 9 || month == 11 then 30 else 31

/-- The text that a reader has taken from the start of `cs`. -/
def taken (cs rest : List Char) : List Char := cs.take (cs.length - rest.length)

/-- What remains after a date of the right form; whether the date exists is told apart. -/
def date? (cs : List Char) : Option (Bool × List Char) := do
  let (year, rest) ← fixedNumber? 4 cs
  let rest ← expect? '-' rest
  let (month, rest) ← fixedNumber? 2 rest
  let rest ← expect? '-' rest
  let (day, rest) ← fixedNumber? 2 rest
  if 1 ≤ month && month ≤ 12 && 1 ≤ day && day ≤ 31 then
    some (1 ≤ year && day ≤ daysIn year month, rest)
  else none

def minute? (cs : List Char) : Option (List Char) := do
  let (hour, rest) ← fixedNumber? 2 cs
  let rest ← expect? ':' rest
  let (minute, rest) ← fixedNumber? 2 rest
  if hour < 24 && minute < 60 then some rest else none

def time? (cs : List Char) : Option (List Char) := do
  let rest ← minute? cs
  let rest ← expect? ':' rest
  let (second, rest) ← fixedNumber? 2 rest
  if second < 60 then
    match rest with
    | '.' :: more =>
        if startsWithDigit isAsciiDigit more then some (more.dropWhile isAsciiDigit) else some rest
    | _ => some rest
  else none

def offset (cs : List Char) : List Char :=
  match cs with
  | 'Z' :: rest => rest
  | c :: rest => if c == '+' || c == '-' then (minute? rest).getD cs else cs
  | [] => []

def dayTime (cs : List Char) : List Char :=
  match cs with
  | c :: rest =>
      if c == 'T' || c == 't' || c == ' ' then
        match time? rest with
        | some rest => offset rest
        | none => cs
      else cs
  | [] => []

/-- A date, a time, or both; nothing inside when the date does not exist. -/
def stamp? (cs : List Char) : Option (Option (Value × List Char)) :=
  match date? cs with
  | some (real, rest) =>
      let rest := dayTime rest
      some (if real then some (.stamp (String.ofList (taken cs rest)), rest) else none)
  | none => (time? cs).map fun rest => some (.stamp (String.ofList (taken cs rest)), rest)

/-! ## Arrays and inline tables -/

def skipComment? : List Char → Option (List Char)
  | '#' :: rest =>
      let comment := rest.takeWhile (· != '\n')
      if comment.any isControl then none else some (rest.dropWhile (· != '\n'))
  | cs => some cs

def skipFiller? : Nat → List Char → Option (List Char)
  | 0, cs => some cs
  | fuel + 1, cs =>
      match cs.dropWhile isBlankOrNewline with
      | '#' :: rest => do
          let rest ← skipComment? ('#' :: rest)
          skipFiller? fuel rest
      | rest => some rest

def nestingLimit : Nat := 480

/-- Put a value under a dotted key of an inline table.  Tables on the way may only be ones that
dotted keys of the same table opened, which `closed` tells. -/
def putInline (closed : List (List String)) (seen : List String) (value : Value) :
    List String → Entries → Option Entries
  | [], _ => none
  | [key], entries => if Entries.has entries key then none else some (Entries.put key value entries)
  | key :: rest, entries =>
      let path := seen ++ [key]
      if closed.contains path then none
      else match Entries.get? entries key with
        | none => do
            let inner ← putInline closed path value rest []
            some (Entries.put key (.mapping inner) entries)
        | some (.mapping inner) => do
            let inner ← putInline closed path value rest inner
            some (Entries.put key (.mapping inner) entries)
        | some _ => none

def isContainer : Value → Bool
  | .mapping _ => true
  | .list _ => true
  | _ => false

mutual

def value? (depth : Nat) : Nat → List Char → Option (Value × List Char)
  | 0, _ => none
  | fuel + 1, cs =>
      match cs with
      | [] => none
      | '[' :: rest =>
          match depth with
          | 0 => none
          | depth + 1 => do
              let rest ← skipFiller? (rest.length + 1) rest
              match rest with
              | ']' :: rest => some (.list [], rest)
              | rest => items? depth [] fuel rest
      | '{' :: rest =>
          match depth with
          | 0 => none
          | depth + 1 =>
              match skipBlanks rest with
              | '}' :: rest => some (.mapping [], rest)
              | rest => inlineEntries? depth [] [] fuel rest
      | c :: _ =>
          if c == '"' || c == apostrophe then (string? cs).map fun (s, rest) => (.str s, rest)
          else match dropLead? "true".toList cs with
            | some rest => some (.bool true, rest)
            | none => match dropLead? "false".toList cs with
              | some rest => some (.bool false, rest)
              | none => match stamp? cs with
                | some result => result
                | none => number? cs

def items? (depth : Nat) (seen : List Value) : Nat → List Char → Option (Value × List Char)
  | 0, _ => none
  | fuel + 1, cs => do
      let (item, rest) ← value? depth fuel cs
      let rest ← skipFiller? (rest.length + 1) rest
      match rest with
      | ']' :: rest => some (.list (item :: seen).reverse, rest)
      | ',' :: rest => do
          let rest ← skipFiller? (rest.length + 1) rest
          match rest with
          | ']' :: rest => some (.list (item :: seen).reverse, rest)
          | rest => items? depth (item :: seen) fuel rest
      | _ => none

def inlineEntries? (depth : Nat) (closed : List (List String)) (entries : Entries) :
    Nat → List Char → Option (Value × List Char)
  | 0, _ => none
  | fuel + 1, cs => do
      let (key, rest) ← key? (cs.length + 1) cs
      let rest ← expect? '=' rest
      let (value, rest) ← value? depth fuel (skipBlanks rest)
      let entries ← putInline closed [] value key entries
      match skipBlanks rest with
      | '}' :: rest => some (.mapping entries, rest)
      | ',' :: rest =>
          inlineEntries? depth (if isContainer value then key :: closed else closed) entries fuel
            (skipBlanks rest)
      | _ => none

end

def readValue? (cs : List Char) : Option (Value × List Char) :=
  value? nestingLimit (2 * cs.length + 2) cs

end StillMotion.Toml
