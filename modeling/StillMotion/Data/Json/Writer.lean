import StillMotion.Data.Shown
import StillMotion.Text.Digit

/-!
# JSON texts

A value is written in one of three layouts: `compact` is the canonical text, with sorted
keys and no blanks; `spaced` is one line; `indented` is the layout of files.  The last two
escape everything outside printable ASCII.
-/

namespace StillMotion.Json

open StillMotion.Number StillMotion.Text

structure Layout where
  /-- Escape all but printable ASCII. -/
  asciiOnly : Bool
  sortKeys : Bool
  comma : List Char
  colon : List Char
  /-- Blanks per level when each item stands on a line of its own. -/
  indent : Option Nat

def compact : Layout := ⟨false, true, [','], [':'], none⟩
def spaced : Layout := ⟨true, false, [',', ' '], [':', ' '], none⟩
def indented : Layout := ⟨true, false, [','], [':', ' '], some 2⟩

/-! ## Strings -/

def unicodeEscape (n : Nat) : List Char :=
  ['\\', 'u', hexDigit (n / 4096 % 16), hexDigit (n / 256 % 16), hexDigit (n / 16 % 16),
    hexDigit (n % 16)]

def escapeChar (c : Char) : List Char :=
  let n := c.toNat
  if n < 0x10000 then unicodeEscape n
  else
    let m := n - 0x10000
    unicodeEscape (0xD800 + m / 1024) ++ unicodeEscape (0xDC00 + m % 1024)

def encodeChar (asciiOnly : Bool) (c : Char) : List Char :=
  if c == '"' then ['\\', '"']
  else if c == '\\' then ['\\', '\\']
  else if c == '\n' then ['\\', 'n']
  else if c == '\r' then ['\\', 'r']
  else if c == '\t' then ['\\', 't']
  else if c.toNat == 12 then ['\\', 'f']
  else if c.toNat == 8 then ['\\', 'b']
  else if c.toNat < 32 then unicodeEscape c.toNat
  else if asciiOnly && 126 < c.toNat then escapeChar c
  else [c]

def encodeString (asciiOnly : Bool) (s : String) : List Char :=
  '"' :: (s.toList.flatMap (encodeChar asciiOnly) ++ ['"'])

/-! ## Values -/

def encodeInt (n : Int) : List Char :=
  if n < 0 then '-' :: natDigits n.natAbs else natDigits n.natAbs

def Layout.newline (layout : Layout) (level : Nat) : List Char :=
  match layout.indent with
  | none => []
  | some width => '\n' :: List.replicate (width * level) ' '

def Layout.block (layout : Layout) (level : Nat) (left right : Char)
    (items : List (List Char)) : List Char :=
  match items with
  | [] => [left, right]
  | item :: rest =>
      left :: (layout.newline (level + 1) ++ item ++
        rest.flatMap (fun next => layout.comma ++ layout.newline (level + 1) ++ next) ++
        layout.newline level ++ [right])

def sortByKey (entries : List (String × List Char)) : List (String × List Char) :=
  entries.mergeSort fun a b => !decide (b.1 < a.1)

mutual

/-- A value as JSON.  Bytes, and a value inside itself, have no JSON form. -/
def encode (layout : Layout) (level : Nat) : Value → List Char
  | .null => ['n', 'u', 'l', 'l']
  | .bool true => ['t', 'r', 'u', 'e']
  | .bool false => ['f', 'a', 'l', 's', 'e']
  | .int n => encodeInt n
  | .float x => dataText x
  | .str s => encodeString layout.asciiOnly s
  | .stamp s => encodeString layout.asciiOnly s
  | .list items => layout.block level '[' ']' (encodeItems layout (level + 1) items)
  | .mapping entries =>
      let written := encodeEntries layout (level + 1) entries
      let written := if layout.sortKeys then sortByKey written else written
      layout.block level '{' '}' (written.map (·.2))
  | .table pairs =>
      layout.block level '{' '}' ((encodePairs layout (level + 1) pairs).map (·.2))
  | .bytes _ => ['n', 'u', 'l', 'l']
  | .cycle _ => ['n', 'u', 'l', 'l']

def encodeItems (layout : Layout) (level : Nat) : List Value → List (List Char)
  | [] => []
  | item :: rest => encode layout level item :: encodeItems layout level rest

def encodeEntries (layout : Layout) (level : Nat) :
    List (String × Value) → List (String × List Char)
  | [] => []
  | (key, value) :: rest =>
      (key, encodeString layout.asciiOnly key ++ layout.colon ++ encode layout level value) ::
        encodeEntries layout level rest

def encodePairs (layout : Layout) (level : Nat) :
    List (Value × Value) → List (String × List Char)
  | [] => []
  | (key, value) :: rest =>
      (key.shown, encodeString layout.asciiOnly key.shown ++ layout.colon ++
        encode layout level value) :: encodePairs layout level rest

end

def text (layout : Layout) (value : Value) : String := String.ofList (encode layout 0 value)

def requireText (value : Value) : Except ArithmeticFault Unit :=
  if value.isWithin digitLimit then .ok () else .error .integerTooWide

def canonical (value : Value) : String := text compact value

end StillMotion.Json
