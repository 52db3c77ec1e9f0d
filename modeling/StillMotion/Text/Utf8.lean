import StillMotion.Failure.Fault

/-!
# Bytes as text

UTF-8 read strictly.  A malformed sequence is told by its cause and place: a byte that starts
no character, a byte that does not go on with the character begun, or the end of the bytes
within a character.
-/

namespace StillMotion.Utf8

def lead? (b : Nat) : Option (Nat × Nat × Nat) :=
  if 0xC2 ≤ b && b < 0xE0 then some (1, 0x80, 0xBF)
  else if b == 0xE0 then some (2, 0xA0, 0xBF)
  else if b == 0xED then some (2, 0x80, 0x9F)
  else if 0xE1 ≤ b && b < 0xF0 then some (2, 0x80, 0xBF)
  else if b == 0xF0 then some (3, 0x90, 0xBF)
  else if b == 0xF4 then some (3, 0x80, 0x8F)
  else if 0xF1 ≤ b && b < 0xF4 then some (3, 0x80, 0xBF)
  else none

/-- How far the bytes after a leading byte go on with its character: all of them, to an
unfitting byte after so many, or to the end. -/
inductive Run where
  | whole
  | broken (fitting : Nat)
  | cut (fitting : Nat)

/-- Follow `more` continuation bytes of which the first lies in a range. -/
def follow (low high : Nat) : Nat → Nat → List UInt8 → Run
  | 0, _, _ => .whole
  | _ + 1, fitting, [] => .cut fitting
  | more + 1, fitting, b :: rest =>
      if low ≤ b.toNat && b.toNat ≤ high then follow 0x80 0xBF more (fitting + 1) rest
      else .broken fitting

/-- The first malformed sequence, where `place` is the position of the first byte. -/
def faultFrom? : Nat → Nat → List UInt8 → Option EncodingFault
  | 0, _, _ => none
  | _, _, [] => none
  | fuel + 1, place, b :: rest =>
      if b.toNat < 0x80 then faultFrom? fuel (place + 1) rest
      else match lead? b.toNat with
        | none => some ⟨.invalidStart, b, place, place⟩
        | some (more, low, high) =>
            match follow low high more 0 rest with
            | .whole => faultFrom? fuel (place + more + 1) (rest.drop more)
            | .broken fitting => some ⟨.invalidContinuation, b, place, place + fitting⟩
            | .cut fitting => some ⟨.unexpectedEnd, b, place, place + fitting⟩

/-- Why bytes are no text; nothing when they are. -/
def fault? (bytes : ByteArray) : Option EncodingFault :=
  faultFrom? bytes.size 0 bytes.toList

def decode (bytes : ByteArray) : Except EncodingFault String :=
  match String.fromUTF8? bytes with
  | some s => .ok s
  | none => .error ((fault? bytes).getD ⟨.invalidStart, 0, 0, 0⟩)

def decodeLossy (bytes : ByteArray) : String :=
  match String.fromUTF8? bytes with
  | some s => s
  | none => String.ofList (bytes.toList.map fun b =>
      if b.toNat < 0x80 then Char.ofNat b.toNat else Char.ofNat 0xFFFD)

end StillMotion.Utf8
