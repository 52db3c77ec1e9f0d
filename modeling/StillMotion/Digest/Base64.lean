/-!
# Bytes as printable text

Three bytes are written as four characters of an alphabet of sixty-four; the last group is
filled up with equals signs.  What stands between the characters of the alphabet is passed over
when such a text is read.
-/

namespace StillMotion.Base64

def alphabet : ByteArray :=
  "ABCDEFGHIJKLMNOPQRSTUVWXYZabcdefghijklmnopqrstuvwxyz0123456789+/".toUTF8

def fillByte : UInt8 := 61

@[inline] def symbol (n : UInt32) : UInt8 :=
  let i := (n &&& 63).toNat
  if h : i < alphabet.size then alphabet.get i h else fillByte

@[inline] def byteAt (data : ByteArray) (i : Nat) : UInt32 :=
  if h : i < data.size then (data.get i h).toUInt32 else 0

/-- Write `groups` groups of three bytes from a position on. -/
def groupsFrom (data : ByteArray) : Nat → Nat → ByteArray → ByteArray
  | 0, _, out => out
  | groups + 1, i, out =>
      let n := (byteAt data i <<< 16) ||| (byteAt data (i + 1) <<< 8) ||| byteAt data (i + 2)
      groupsFrom data groups (i + 3)
        ((((out.push (symbol (n >>> 18))).push (symbol (n >>> 12))).push
          (symbol (n >>> 6))).push (symbol n))

def tail (data : ByteArray) (i : Nat) (out : ByteArray) : ByteArray :=
  let n := (byteAt data i <<< 16) ||| (byteAt data (i + 1) <<< 8)
  match data.size - i with
  | 0 => out
  | 1 => (((out.push (symbol (n >>> 18))).push (symbol (n >>> 12))).push fillByte).push fillByte
  | _ => (((out.push (symbol (n >>> 18))).push (symbol (n >>> 12))).push
      (symbol (n >>> 6))).push fillByte

def encodeBytes (data : ByteArray) : ByteArray :=
  let groups := data.size / 3
  tail data (3 * groups) (groupsFrom data groups 0 (ByteArray.emptyWithCapacity (4 * groups + 4)))

def encode (data : ByteArray) : String := (String.fromUTF8? (encodeBytes data)).getD ""

/-! ## Reading -/

def value? (c : Char) : Option Nat :=
  if 'A' ≤ c && c ≤ 'Z' then some (c.toNat - 65)
  else if 'a' ≤ c && c ≤ 'z' then some (c.toNat - 71)
  else if '0' ≤ c && c ≤ '9' then some (c.toNat + 4)
  else if c == '+' then some 62
  else if c == '/' then some 63
  else none

/-- A group under way: how many of its characters are there, how many signs that fill it up, and
the bits that belong to the next byte. -/
structure Group where
  size : Nat
  fills : Nat
  bits : Nat

def decodeFrom (group : Group) (out : ByteArray) : List Char → Option ByteArray
  | [] => if group.size == 0 then some out else none
  | c :: rest =>
      if c == '=' then
        let fills := if 2 ≤ group.size then group.fills + 1 else group.fills
        if 2 ≤ group.size && 4 ≤ group.size + fills then some out
        else decodeFrom { group with fills } out rest
      else match value? c with
        | none => decodeFrom group out rest
        | some v =>
            let push (byte : Nat) : ByteArray := out.push (UInt8.ofNat byte)
            match group.size with
            | 0 => decodeFrom ⟨1, 0, v⟩ out rest
            | 1 => decodeFrom ⟨2, 0, v % 16⟩ (push (4 * group.bits + v / 16)) rest
            | 2 => decodeFrom ⟨3, 0, v % 4⟩ (push (16 * group.bits + v / 4)) rest
            | _ => decodeFrom ⟨0, 0, 0⟩ (push (64 * group.bits + v)) rest

/-- The bytes that a text stands for, unless its last group is not complete. -/
def decode? (s : String) : Option ByteArray := decodeFrom ⟨0, 0, 0⟩ ByteArray.empty s.toList

end StillMotion.Base64
