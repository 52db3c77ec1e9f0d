import StillMotion.Data.Value
import StillMotion.Text.Quoted

/-!
# Values in running text

Inside a text a value stands as itself; inside a list or mapping text is quoted.
-/

namespace StillMotion.Value

open StillMotion.Number StillMotion.Text

def intText (n : Int) : String :=
  String.ofList (if n < 0 then '-' :: natDigits n.natAbs else natDigits n.natAbs)

/-- Bytes in quotes; those that are no printable ASCII are written by their numbers. -/
def quotedBytes (content : ByteArray) : String :=
  let cs := content.toList.map fun byte => Char.ofNat byte.toNat
  let quote := quoteFor cs
  let shownByte (c : Char) : List Char :=
    if 126 < c.toNat then '\\' :: 'x' :: hexDigits 2 c.toNat else quoteChar quote c
  String.ofList ('b' :: quote :: (cs.flatMap shownByte ++ [quote]))

mutual

def quotedForm : Value → String
  | .null => "None"
  | .bool b => if b then "True" else "False"
  | .int n => intText n
  | .float x => String.ofList (plainText x)
  | .str s => quoted s
  | .stamp s => s
  | .list items => "[" ++ ", ".intercalate (quotedItems items) ++ "]"
  | .mapping entries => "\x7b" ++ ", ".intercalate (quotedEntries entries) ++ "\x7d"
  | .bytes content => quotedBytes content
  | .table pairs => "\x7b" ++ ", ".intercalate (quotedPairs pairs) ++ "\x7d"
  | .cycle isMapping => if isMapping then "\x7b...\x7d" else "[...]"

def quotedItems : List Value → List String
  | [] => []
  | item :: rest => quotedForm item :: quotedItems rest

def quotedEntries : List (String × Value) → List String
  | [] => []
  | (key, value) :: rest => (quoted key ++ ": " ++ quotedForm value) :: quotedEntries rest

def quotedPairs : List (Value × Value) → List String
  | [] => []
  | (key, value) :: rest => (quotedForm key ++ ": " ++ quotedForm value) :: quotedPairs rest

end

def shown : Value → String
  | .str s => s
  | value => quotedForm value

end StillMotion.Value
