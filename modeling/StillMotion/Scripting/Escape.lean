import StillMotion.Text.Digit

/-!
# Text with escapes

A backslash and a letter or octal digits stand for a byte.
-/

namespace StillMotion.Scripting

open StillMotion.Text

def isOctal (c : Char) : Bool := '0' ≤ c && c ≤ '7'

def letterCodes : List (Char × Nat) :=
  [('a', 7), ('b', 8), ('f', 12), ('n', 10), ('r', 13), ('t', 9), ('v', 11), ('\\', 92)]

def byteOf (n : Nat) : ByteArray := ⟨#[UInt8.ofNat n]⟩

def charBytes (c : Char) : ByteArray := (String.singleton c).toUTF8

def textBytes (cs : List Char) : ByteArray := (String.ofList cs).toUTF8

structure EscapeStyle where
  /-- Octal escapes begin with a zero. -/
  needsZero : Bool
  /-- There are also hexadecimal escapes, and octal ones without a zero in any case. -/
  isExtended : Bool
deriving DecidableEq, Repr

def EscapeStyle.text : EscapeStyle := ⟨true, false⟩
def EscapeStyle.format : EscapeStyle := ⟨false, false⟩

def isHex (c : Char) : Bool := (hexValue? c).isSome

/-- What an escape stands for, which begins with a character after the backslash, and what follows
it; nothing when the output ends there. -/
def escape? (style : EscapeStyle) (c : Char) (rest : List Char) :
    Option (ByteArray × List Char) :=
  let octal (cs : List Char) : ByteArray × List Char :=
    let digits := (cs.take 3).takeWhile isOctal
    (byteOf (baseValue 8 digits % 256), cs.drop digits.length)
  let hexDigits (count : Nat) : List Char := (rest.take count).takeWhile isHex
  let asItIs := (charBytes '\\' ++ charBytes c, rest)
  if c == 'c' then none
  else match letterCodes.find? fun entry => entry.1 == c with
    | some (_, code) => some (byteOf code, rest)
    | none =>
        some <|
          if style.needsZero && c == '0' then octal rest
          else if isOctal c && (!style.needsZero || style.isExtended) then octal (c :: rest)
          else if !style.isExtended then asItIs
          else if c == 'e' then (byteOf 27, rest)
          else if c == 'x' then
            let digits := hexDigits 2
            if digits.isEmpty then asItIs
            else (byteOf (baseValue 16 digits), rest.drop digits.length)
          else if c == 'u' || c == 'U' then
            let count := if c == 'u' then 4 else 8
            let digits := hexDigits count
            if digits.length < count then asItIs
            else (charBytes (Char.ofNat (baseValue 16 digits)), rest.drop count)
          else asItIs

def escapedText (style : EscapeStyle) : Nat → List Char → ByteArray × Bool
  | 0, _ => (ByteArray.empty, false)
  | _, [] => (ByteArray.empty, false)
  | fuel + 1, '\\' :: c :: rest =>
      match escape? style c rest with
      | none => (ByteArray.empty, true)
      | some (bytes, rest) =>
          let (more, ended) := escapedText style fuel rest
          (bytes ++ more, ended)
  | fuel + 1, c :: rest =>
      let (more, ended) := escapedText style fuel rest
      (charBytes c ++ more, ended)

def escaped (style : EscapeStyle) (s : String) : ByteArray × Bool :=
  escapedText style (s.length + 1) s.toList

end StillMotion.Scripting
