import StillMotion.Text.Digit
import StillMotion.Text.Visible

/-!
# Quoted text

Names and paths in messages stand in quotes.  Single quotes are used, unless the text holds
single quotes and no double ones; characters without a visible form are written by code point.
-/

namespace StillMotion.Text

def hexDigits (count n : Nat) : List Char :=
  ((List.range count).map fun i => hexDigit (n / Nat.pow 16 i % 16)).reverse

def quoteChar (quote c : Char) : List Char :=
  if c == quote || c == '\\' then ['\\', c]
  else if c == '\n' then ['\\', 'n']
  else if c == '\r' then ['\\', 'r']
  else if c == '\t' then ['\\', 't']
  else if isVisible c then [c]
  else if c.toNat < 0x100 then '\\' :: 'x' :: hexDigits 2 c.toNat
  else if c.toNat < 0x10000 then '\\' :: 'u' :: hexDigits 4 c.toNat
  else '\\' :: 'U' :: hexDigits 8 c.toNat

def apostrophe : Char := Char.ofNat 39

def quoteFor (cs : List Char) : Char :=
  if cs.contains apostrophe && !cs.contains '"' then '"' else apostrophe

def quoted (s : String) : String :=
  let quote := quoteFor s.toList
  String.ofList (quote :: (s.toList.flatMap (quoteChar quote) ++ [quote]))

def quotedList (texts : List String) : String :=
  "[" ++ ", ".intercalate (texts.map quoted) ++ "]"

end StillMotion.Text
