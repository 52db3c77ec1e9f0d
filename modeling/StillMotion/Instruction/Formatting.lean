import StillMotion.Instruction.Datum
import StillMotion.Text.Case
import StillMotion.Text.Search

/-!
# Formatted texts

A pattern is a text with places that data are put into.  A place gives a width, which side is
filled and with what, a precision, and the form of the datum: as text, as an integer in some base
or as a decimal.
-/

namespace StillMotion.Instruction

open StillMotion.Number StillMotion.Text

inductive Side where
  | left
  | right
  | middle
  /-- To the right, with the sign at the left end. -/
  | afterSign
deriving DecidableEq, Repr

structure FieldForm where
  fill : Char
  side : Option Side
  sign : Option Char
  isAlternate : Bool
  width : Nat
  separator : Option Char
  precision : Option Nat
  code : Option Char
deriving Repr

namespace FieldForm

def plain : FieldForm := ⟨' ', none, none, false, 0, none, none, none⟩

def place (form : FieldForm) (standard : Side) (sign body : List Char) : String :=
  let gap := form.width - (sign.length + body.length)
  let filling (n : Nat) : List Char := List.replicate n form.fill
  String.ofList <| match form.side.getD standard with
    | .left => sign ++ body ++ filling gap
    | .right => filling gap ++ sign ++ body
    | .middle => filling (gap / 2) ++ sign ++ body ++ filling (gap - gap / 2)
    | .afterSign => sign ++ filling gap ++ body

def signText (form : FieldForm) (isNegative : Bool) : List Char :=
  if isNegative then ['-'] else match form.sign with
    | some '+' => ['+']
    | some ' ' => [' ']
    | _ => []

def grouped (separator : Char) (digits : List Char) : List Char :=
  let step (d : Char) (state : Nat × List Char) : Nat × List Char :=
    if state.1 != 0 && state.1 % 3 == 0 then (state.1 + 1, d :: separator :: state.2)
    else (state.1 + 1, d :: state.2)
  (digits.foldr step (0, [])).2

def group (form : FieldForm) (text : List Char) : List Char :=
  match form.separator with
  | none => text
  | some separator =>
      grouped separator (text.takeWhile isAsciiDigit) ++ text.dropWhile isAsciiDigit

def scientific (places : Nat) (mark : Char) (num den : Nat) : List Char :=
  if num == 0 then
    '0' :: ((if places == 0 then [] else '.' :: zerosText places) ++ mark :: exponentText 0)
  else
    let d := significant (places + 1) num den
    let digits := natDigits d.digits
    let lead := d.exponent + digits.length - 1
    let digits := digits ++ zerosText (places + 1 - digits.length)
    let mantissa := digits.take 1 ++ (if places == 0 then [] else '.' :: digits.drop 1)
    mantissa ++ mark :: exponentText lead

def general (count : Nat) (num den : Nat) : List Char :=
  let count := max count 1
  if num == 0 then ['0']
  else Style.text ⟨-4, (count : Int) - 1, false, brief.words⟩ (significant count num den)

/-- The magnitude of a double in the form of a code; nothing when there is no such code. -/
def magnitude? (form : FieldForm) (code : Char) (num den : Nat) : Option (List Char) :=
  let places := form.precision.getD 6
  match code with
  | 'f' | 'F' => some (fixedMagnitude places num den)
  | 'e' => some (scientific places 'e' num den)
  | 'E' => some ((scientific places 'e' num den).map asciiUpper)
  | 'g' => some (general places num den)
  | 'G' => some ((general places num den).map asciiUpper)
  | '%' => some (fixedMagnitude places (num * 100) den ++ ['%'])
  | _ => none

def double? (form : FieldForm) (code : Char) (standard : Side) (x : Float) : Option String :=
  match classify x with
  | .nan => some (form.place standard (form.signText false) "nan".toList)
  | .infinite isNegative =>
      let body := "inf".toList ++ (if code == '%' then ['%'] else [])
      some (form.place standard (form.signText isNegative) body)
  | .finite p =>
      let (num, den) := p.ratio
      (form.magnitude? code num den).map fun body =>
        form.place standard (form.signText p.negative) (form.group body)

def digitsIn? (form : FieldForm) (code : Char) (n : Nat) : Option (List Char) :=
  let marked (mark : Char) (digits : List Char) : List Char :=
    if form.isAlternate then '0' :: mark :: digits else digits
  match code with
  | 'd' => some (form.group (natDigits n))
  | 'x' => some (marked 'x' (Nat.toDigits 16 n))
  | 'X' => some (marked 'X' ((Nat.toDigits 16 n).map asciiUpper))
  | 'o' => some (marked 'o' (Nat.toDigits 8 n))
  | 'b' => some (marked 'b' (Nat.toDigits 2 n))
  | _ => none

def integer? (form : FieldForm) (code : Char) (standard : Side) (n : Int) : Option String :=
  (form.digitsIn? code n.natAbs).map (form.place standard (form.signText (n < 0)))

def textual (form : FieldForm) (s : String) : String :=
  let cs := match form.precision with
    | none => s.toList
    | some n => s.toList.take n
  form.place .left [] cs

end FieldForm

/-! ## Patterns with percent signs -/

namespace Percent

def badPattern {α : Type} (kind message : String) : Filling α :=
  Datum.misfit (.kindOf kind message)

inductive Supply where
  | row (items : List Datum) (isWhole : Bool)
  | named (entries : List (Datum × Datum))

def takeFlags : FieldForm → List Char → FieldForm × List Char
  | form, '-' :: rest => takeFlags { form with side := some .left } rest
  | form, '+' :: rest => takeFlags { form with sign := some '+' } rest
  | form, ' ' :: rest =>
      takeFlags { form with sign := if form.sign == some '+' then some '+' else some ' ' } rest
  | form, '#' :: rest => takeFlags { form with isAlternate := true } rest
  | form, '0' :: rest =>
      let side := if form.side == some .left then some Side.left else some .afterSign
      takeFlags { form with fill := '0', side := side } rest
  | form, rest => (form, rest)

def takeNumber (cs : List Char) : Option Nat × List Char :=
  let ds := cs.takeWhile isAsciiDigit
  (if ds.isEmpty then none else some (digitsValue ds), cs.dropWhile isAsciiDigit)

def wholeOf (code : Char) (d : Datum) : Filling Int := do
  match d with
  | .int n => return n
  | .bool b => return if b then 1 else 0
  | .float x => match classify x with
      | .nan => Datum.misfit .nanToInteger
      | .infinite _ => Datum.misfit .infinityToInteger
      | .finite p => if code == 'd' then return p.truncate else wrong d
  | .missing reason => throw (.undefined reason)
  | d => wrong d
where
  wrong {α : Type} (d : Datum) : Filling α :=
    let wanted := if code == 'd' then "a real number" else "an integer"
    badPattern "TypeError"
      ("%" ++ code.toString ++ s!" format: {wanted} is required, not {d.kindName}")

def realOf (d : Datum) : Filling Float :=
  match d, d.numeric? with
  | _, some n => Datum.ofMisfit n.toFloat?
  | .missing reason, none => .error (.undefined reason)
  | d, none => badPattern "TypeError" s!"must be real number, not {d.kindName}"

def placed (form : FieldForm) (code : Char) (d : Datum) : Filling String := do
  let side := if form.side == some Side.left then Side.left else .right
  let blankForm := { form with fill := ' ', side := some side }
  match code with
  | 's' => return blankForm.textual (← d.shown)
  | 'r' | 'a' => return blankForm.textual (← Datum.ofMisfit d.quotedForm)
  | 'c' => match d with
      | .str s _ =>
          if s.length == 1 then return blankForm.textual s
          badPattern "TypeError" "%c requires int or char"
      | .int n => return blankForm.textual (Char.ofNat n.toNat).toString
      | _ => badPattern "TypeError" "%c requires int or char"
  | _ =>
      let code := if code == 'i' || code == 'u' then 'd' else code
      if ['d', 'x', 'X', 'o'].contains code then
        let n ← wholeOf code d
        let body := (form.digitsIn? code n.natAbs).getD []
        let body := zerosText (form.precision.getD 0 - body.length) ++ body
        return form.place .right (form.signText (n < 0)) body
      let x ← realOf d
      return (form.double? code .right x).getD ""

def codes : List Char :=
  ['s', 'r', 'a', 'c', 'd', 'i', 'u', 'x', 'X', 'o', 'f', 'F', 'e', 'E', 'g', 'G']

def next : Supply → Filling (Datum × Supply)
  | .row (d :: rest) isWhole => .ok (d, .row rest isWhole)
  | .row [] _ => badPattern "TypeError" "not enough arguments for format string"
  | .named entries => .ok (.mapping entries, .row [] true)

def measure (cs : List Char) (supply : Supply) : Filling (Option Nat × List Char × Supply) := do
  match cs with
  | '*' :: rest => do
      let (d, supply) ← next supply
      match d.integer? with
      | some n => return (some n.toNat, rest, supply)
      | none => badPattern "TypeError" "* wants int"
  | cs =>
      let (n, rest) := takeNumber cs
      return (n, rest, supply)

/-- Fill in the rest of a pattern; `position` counts the characters before it. -/
def fillFrom : Nat → Nat → List Char → Supply → Filling (List Char)
  | 0, _, _, _ => .error .tooDeep
  | fuel + 1, total, cs, supply => do
      match cs with
      | [] =>
          match supply with
          | .row (_ :: _) false =>
              badPattern "TypeError" "not all arguments converted during string formatting"
          | _ => return []
      | '%' :: '%' :: rest => return '%' :: (← fillFrom fuel total rest supply)
      | '%' :: rest => do
          let (key?, rest) ← match rest with
            | '(' :: more =>
                let name := more.takeWhile (· != ')')
                if name.length == more.length then
                  badPattern "ValueError" "incomplete format key"
                pure (some (String.ofList name), more.drop (name.length + 1))
            | rest => pure (none, rest)
          let (keyed, supply) ← match key?, supply with
            | none, supply => pure (none, supply)
            | some key, .named entries => do
                match ← Datum.lookUp entries (Datum.text key) with
                | some d => pure (some d, supply)
                | none => badPattern "KeyError" (quoted key)
            | some _, .row _ _ => badPattern "TypeError" "format requires a mapping"
          let (form, rest) := takeFlags .plain rest
          let (width, rest, supply) ← measure rest supply
          let (precision, rest, supply) ← match rest with
            | '.' :: more => do
                let (n, rest, supply) ← measure more supply
                pure (some (n.getD 0), rest, supply)
            | rest => pure (none, rest, supply)
          let form := { form with width := width.getD 0, precision := precision }
          match rest with
          | [] => badPattern "ValueError" "incomplete format"
          | code :: rest => do
              if !codes.contains code then
                let at_ := total - rest.length - 1
                badPattern "ValueError" (s!"unsupported format character '{code}' (0x" ++
                  String.ofList (Nat.toDigits 16 code.toNat) ++ s!") at index {at_}")
              let (d, supply) ← match keyed with
                | some d => pure (d, supply)
                | none => next supply
              let here ← placed form code d
              return here.toList ++ (← fillFrom fuel total rest supply)
      | c :: rest => return c :: (← fillFrom fuel total rest supply)

/-- Fill in a pattern with one datum; a tuple gives one for each place. -/
def fill (pattern : String) (d : Datum) : Filling String := do
  let supply := match d.plain with
    | .tuple items => Supply.row items false
    | .mapping entries => .named entries
    | .list _ => .row [d] true
    | d => .row [d] false
  let cs := pattern.toList
  return String.ofList (← fillFrom (cs.length + 1) cs.length cs supply)

end Percent

/-! ## Patterns with braces -/

namespace Braces

def formOf (cs : List Char) : Filling FieldForm := do
  let sideOf? (c : Char) : Option Side :=
    if c == '<' then some .left else if c == '>' then some .right
    else if c == '^' then some .middle else if c == '=' then some .afterSign else none
  let (form, rest) := match cs with
    | c :: d :: rest => match sideOf? d, sideOf? c with
        | some side, _ => ({ FieldForm.plain with fill := c, side := some side }, rest)
        | none, some side => ({ FieldForm.plain with side := some side }, d :: rest)
        | none, none => (FieldForm.plain, cs)
    | [c] => match sideOf? c with
        | some side => ({ FieldForm.plain with side := some side }, [])
        | none => (FieldForm.plain, cs)
    | [] => (FieldForm.plain, [])
  let (form, rest) := match rest with
    | '+' :: more => ({ form with sign := some '+' }, more)
    | '-' :: more => (form, more)
    | ' ' :: more => ({ form with sign := some ' ' }, more)
    | rest => (form, rest)
  let (form, rest) := match rest with
    | '#' :: more => ({ form with isAlternate := true }, more)
    | rest => (form, rest)
  let (form, rest) := match rest with
    | '0' :: more =>
        if form.side.isNone then
          ({ form with fill := '0', side := some .afterSign }, more) else (form, more)
    | rest => (form, rest)
  let (width, rest) := Percent.takeNumber rest
  let (separator, rest) := match rest with
    | ',' :: more => (some ',', more)
    | '_' :: more => (some '_', more)
    | rest => (none, rest)
  let (precision, rest) ← match rest with
    | '.' :: more =>
        let (n, rest) := Percent.takeNumber more
        if n.isNone then Percent.badPattern "ValueError" "Format specifier missing precision"
        pure (n, rest)
    | rest => pure (none, rest)
  let form := { form with width := width.getD 0, separator := separator, precision := precision }
  match rest with
  | [] => return form
  | [code] => return { form with code := some code }
  | _ => Percent.badPattern "ValueError" "Invalid format specifier"

def formatted (spec : String) (d : Datum) : Filling String := do
  if spec.isEmpty then return ← d.shown
  match d with
  | .missing reason => throw (.undefined reason)
  | .str s _ => do
      let form ← formOf spec.toList
      match form.code with
      | none | some 's' =>
          if form.side == some .afterSign && form.fill != '0' then
            Percent.badPattern "ValueError"
              "'=' alignment not allowed in string format specifier"
          return form.textual s
      | some c => Datum.misfit (.formatCode c.toString "str")
  | d => do
      match d.numeric? with
      | none =>
          Percent.badPattern "TypeError"
            s!"unsupported format string passed to {d.kindName}.__format__"
      | some n => do
          let form ← formOf spec.toList
          let wrong {α : Type} (c : Char) : Filling α :=
            Datum.misfit (.formatCode c.toString d.kindName)
          match n, form.code with
          | .int n, none => return (form.integer? 'd' .right n).getD ""
          | .int n, some c =>
              match form.integer? c .right n with
              | some s => return s
              | none =>
                  let x ← Datum.ofMisfit (Numeric.int n).toFloat?
                  match form.double? c .right x with
                  | some s => return s
                  | none => wrong c
          | .float x, none =>
              match form.precision with
              | none =>
                  let body := plainText x
                  let isNegative := body.head? == some '-'
                  let body := if isNegative then body.drop 1 else body
                  return form.place .right (form.signText isNegative) (form.group body)
              | some _ => return (form.double? 'g' .right x).getD ""
          | .float x, some c =>
              match form.double? c .right x with
              | some s => return s
              | none => wrong c

end Braces

end StillMotion.Instruction
