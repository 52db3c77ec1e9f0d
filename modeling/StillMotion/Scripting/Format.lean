import StillMotion.Number.Notation
import StillMotion.Number.Numeral
import StillMotion.Scripting.Escape
import StillMotion.Text.Quoted

/-!
# Formatted text

A format is text with conversions, each of which takes an argument.  The format is used again as
long as arguments are left.  An argument that is no number is read as far as it is one.
-/

namespace StillMotion.Scripting

open StillMotion.Text StillMotion.Number

structure Conversion where
  left : Bool
  zeros : Bool
  plus : Bool
  width : Nat
  precision : Option Nat
  letter : Char

/-- The conversion after a percent sign; nothing when its letter is missing. -/
def conversion? (cs : List Char) : Option (Conversion × List Char) :=
  let flags := cs.takeWhile fun c => ['-', '0', '+', ' ', '#'].contains c
  let cs := cs.drop flags.length
  let width := cs.takeWhile isAsciiDigit
  let cs := cs.drop width.length
  let (precision, cs) := match cs with
    | '.' :: rest => (some (digitsValue (rest.takeWhile isAsciiDigit)), rest.dropWhile isAsciiDigit)
    | cs => (none, cs)
  match cs with
  | letter :: rest =>
      some (⟨flags.contains '-', flags.contains '0', flags.contains '+', digitsValue width,
        precision, letter⟩, rest)
  | [] => none

/-! ## Numbers -/

inductive Reach where
  | all
  | none
  | part
deriving DecidableEq, Repr

inductive FormatFault where
  | noNumber (arg : String)
  | partlyNumber (arg : String)
  | noConversion (letter : Char)
  | missingLetter
deriving DecidableEq, Repr

def FormatFault.words (isOwnProgram : Bool) : FormatFault → String
  | .noNumber arg =>
      if isOwnProgram then s!"‘{arg}’: expected a numeric value"
      else s!"{arg}: expected numeric value"
  | .partlyNumber arg =>
      if isOwnProgram then s!"‘{arg}’: value not completely converted"
      else s!"{arg}: not completely converted"
  | .noConversion letter =>
      if isOwnProgram then s!"%{letter}: invalid conversion specification"
      else s!"%{letter}: invalid directive"
  | .missingLetter =>
      if isOwnProgram then "%: invalid conversion specification" else "missing format character"

def Reach.fault? (arg : String) : Reach → Option FormatFault
  | .all => Option.none
  | .none => some (.noNumber arg)
  | .part => some (.partlyNumber arg)

def reachOf (taken : Bool) (rest : List Char) : Reach :=
  if rest.isEmpty then .all else if taken then .part else .none

/-- The integer that an argument begins with: decimal, octal, hexadecimal, or the code of a
character after a quote. -/
def leadingInteger (arg : String) : Int × Reach :=
  match trimLeft arg.toList with
  | '"' :: c :: _ => (c.toNat, .all)
  | cs =>
      if cs.head? == some apostrophe then
        (((cs.drop 1).head?.map Char.toNat).getD 0 |> Int.ofNat, .all)
      else
        let (isNegative, digits) := takeSign cs
        let (n, rest, taken) := match digits with
          | '0' :: 'x' :: more =>
              let hex := more.takeWhile fun c => (hexValue? c).isSome
              (baseValue 16 hex, more.drop hex.length, true)
          | '0' :: more =>
              let octal := more.takeWhile isOctal
              (baseValue 8 octal, more.drop octal.length, true)
          | more =>
              let decimal := more.takeWhile isAsciiDigit
              (digitsValue decimal, more.drop decimal.length, !decimal.isEmpty)
        let signed : Int := if isNegative then -n else n
        (signed, reachOf taken rest)

def leadingReal (arg : String) : Float × Reach :=
  let cs := trimLeft arg.toList
  let lengths := (List.range (cs.length + 1)).reverse
  match lengths.findSome? fun n => (real? (cs.take n)).map fun x => (x, cs.drop n) with
  | some (x, rest) => (x, reachOf true rest)
  | none => (0.0, reachOf false cs)

/-! ## Conversions -/

def fillUp (c : Conversion) (isNumber : Bool) (text : List Char) : List Char :=
  let missing := c.width - text.length
  if c.left then text ++ List.replicate missing ' '
  else if c.zeros && isNumber then
    match text with
    | '-' :: digits => '-' :: List.replicate missing '0' ++ digits
    | digits => List.replicate missing '0' ++ digits
  else List.replicate missing ' ' ++ text

def Conversion.sign (c : Conversion) (isNegative : Bool) : List Char :=
  if isNegative then ['-'] else if c.plus then ['+'] else []

/-- The digits of an integer, at least as many as the precision asks for. -/
def Conversion.digits (c : Conversion) (base n : Nat) : List Char :=
  let digits := Nat.toDigits base n
  zerosText (c.precision.getD 1 - digits.length) ++ digits

def unsigned (n : Int) : Nat := (n % 0x10000000000000000).toNat

def upper (cs : List Char) : List Char := cs.map asciiUpper

def integerText (c : Conversion) (n : Int) : List Char :=
  match c.letter with
  | 'x' => c.digits 16 (unsigned n)
  | 'X' => upper (c.digits 16 (unsigned n))
  | 'o' => c.digits 8 (unsigned n)
  | 'u' => c.digits 10 (unsigned n)
  | _ => c.sign (n < 0) ++ c.digits 10 n.natAbs

def scientificMagnitude (places num den : Nat) : List Char :=
  let layout (digits : List Char) (lead : Int) : List Char :=
    let fraction := digits.drop 1 ++ zerosText (places + 1 - digits.length)
    digits.take 1 ++ (if places == 0 then [] else '.' :: fraction) ++ 'e' :: exponentText lead
  if num == 0 then layout ['0'] 0
  else
    let d := significant (places + 1) num den
    let digits := natDigits d.digits
    layout digits (d.exponent + digits.length - 1)

def realText (c : Conversion) (x : Float) : List Char :=
  let places := c.precision.getD 6
  let text := match c.letter with
    | 'e' => signed brief.words (fun p =>
        let (n, d) := p.ratio
        scientificMagnitude places n d) x
    | 'g' => briefText x
    | _ => fixedText places x
  if c.plus && text.head? != some '-' then '+' :: text else text

structure Converted where
  bytes : ByteArray
  /-- Whether the output ends there. -/
  ended : Bool
  fault : Option FormatFault

def integerLetters : List Char := ['d', 'i', 'u', 'x', 'X', 'o']

def realLetters : List Char := ['f', 'F', 'e', 'g']

/-- A converted argument; nothing when there is no such conversion. -/
def converted? (isExtended : Bool) (c : Conversion) (arg : Option String) : Option Converted :=
  let text := arg.getD ""
  let plain (cs : List Char) : Option Converted :=
    some ⟨textBytes (fillUp c false cs), false, none⟩
  let number (cs : List Char) (reach : Reach) : Option Converted :=
    some ⟨textBytes (fillUp c true cs), false, reach.fault? text⟩
  if c.letter == 's' then
    plain (match c.precision with
      | some n => text.toList.take n
      | none => text.toList)
  else if c.letter == 'c' then plain (text.toList.take 1)
  else if c.letter == 'b' then
    let (bytes, ended) := escaped ⟨true, isExtended⟩ text
    some ⟨bytes, ended, none⟩
  else if integerLetters.contains c.letter then
    let (n, reach) := leadingInteger text
    number (integerText c n) reach
  else if realLetters.contains c.letter then
    let (x, reach) := leadingReal text
    number (realText c x) reach
  else none

/-! ## Formats -/

structure Formatted where
  bytes : ByteArray
  faults : List FormatFault
  left : List String
  /-- Whether the output ends, and whether it ends for a fault of the format. -/
  ended : Bool
  failed : Bool

namespace Formatted

def start (args : List String) : Formatted := ⟨ByteArray.empty, [], args, false, false⟩

def add (made : Formatted) (bytes : ByteArray) : Formatted :=
  { made with bytes := made.bytes ++ bytes }

def fail (made : Formatted) (fault : FormatFault) : Formatted :=
  { made with faults := made.faults ++ [fault], ended := true, failed := true }

def convert (isExtended : Bool) (made : Formatted) (conversion : Conversion) : Formatted :=
  match converted? isExtended conversion made.left.head? with
  | none => made.fail (.noConversion conversion.letter)
  | some result =>
      { made.add result.bytes with
        left := made.left.drop 1
        ended := result.ended
        faults := made.faults ++ result.fault.toList }

/-- One pass over a format; `fuel` bounds its length.  `isExtended` tells whether there are the
escapes of a program on its own. -/
def pass (isExtended : Bool) : Nat → List Char → Formatted → Formatted
  | 0, _, made => made
  | _, [], made => made
  | fuel + 1, '%' :: '%' :: rest, made =>
      pass isExtended fuel rest (made.add (charBytes '%'))
  | fuel + 1, '%' :: rest, made =>
      match conversion? rest with
      | none => made.fail .missingLetter
      | some (conversion, rest) =>
          let made := made.convert isExtended conversion
          if made.ended then made else pass isExtended fuel rest made
  | _ + 1, ['\\'], made => made.add (charBytes '\\')
  | fuel + 1, '\\' :: c :: rest, made =>
      match escape? ⟨false, isExtended⟩ c rest with
      | none => { made with ended := true }
      | some (bytes, rest) => pass isExtended fuel rest (made.add bytes)
  | fuel + 1, c :: rest, made => pass isExtended fuel rest (made.add (charBytes c))

/-- All passes over a format, `fuel` bounding their number. -/
def passes (isExtended : Bool) (format : List Char) : Nat → Formatted → Formatted
  | 0, made => made
  | fuel + 1, made =>
      let next := pass isExtended (format.length + 1) format made
      if next.ended || next.left.isEmpty || next.left.length == made.left.length then next
      else passes isExtended format fuel next

def ofFormat (isExtended : Bool) (format : String) (args : List String) : Formatted :=
  passes isExtended format.toList (args.length + 1) (start args)

def status (isOwnProgram : Bool) (made : Formatted) : Nat :=
  if made.failed && !isOwnProgram then 2 else if made.faults.isEmpty then 0 else 1

end Formatted

end StillMotion.Scripting
