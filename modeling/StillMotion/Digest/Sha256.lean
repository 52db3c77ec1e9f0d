import StillMotion.Text.Quoted

/-!
# Content digests

The SHA-256 digest of a byte sequence, with its usual writing in hexadecimal digits.
-/

namespace StillMotion.Sha256

/-- The first 32 bits of the fractional parts of the cube roots of the first 64 primes. -/
def roundConstants : Array UInt32 := #[
  0x428a2f98, 0x71374491, 0xb5c0fbcf, 0xe9b5dba5, 0x3956c25b, 0x59f111f1, 0x923f82a4, 0xab1c5ed5,
  0xd807aa98, 0x12835b01, 0x243185be, 0x550c7dc3, 0x72be5d74, 0x80deb1fe, 0x9bdc06a7, 0xc19bf174,
  0xe49b69c1, 0xefbe4786, 0x0fc19dc6, 0x240ca1cc, 0x2de92c6f, 0x4a7484aa, 0x5cb0a9dc, 0x76f988da,
  0x983e5152, 0xa831c66d, 0xb00327c8, 0xbf597fc7, 0xc6e00bf3, 0xd5a79147, 0x06ca6351, 0x14292967,
  0x27b70a85, 0x2e1b2138, 0x4d2c6dfc, 0x53380d13, 0x650a7354, 0x766a0abb, 0x81c2c92e, 0x92722c85,
  0xa2bfe8a1, 0xa81a664b, 0xc24b8b70, 0xc76c51a3, 0xd192e819, 0xd6990624, 0xf40e3585, 0x106aa070,
  0x19a4c116, 0x1e376c08, 0x2748774c, 0x34b0bcb5, 0x391c0cb3, 0x4ed8aa4a, 0x5b9cca4f, 0x682e6ff3,
  0x748f82ee, 0x78a5636f, 0x84c87814, 0x8cc70208, 0x90befffa, 0xa4506ceb, 0xbef9a3f7, 0xc67178f2]

structure Chain where
  a : UInt32
  b : UInt32
  c : UInt32
  d : UInt32
  e : UInt32
  f : UInt32
  g : UInt32
  h : UInt32

/-- The first 32 bits of the fractional parts of the square roots of the first 8 primes. -/
def Chain.start : Chain :=
  ⟨0x6a09e667, 0xbb67ae85, 0x3c6ef372, 0xa54ff53a, 0x510e527f, 0x9b05688c, 0x1f83d9ab, 0x5be0cd19⟩

@[inline] def rotate (x n : UInt32) : UInt32 := (x >>> n) ||| (x <<< (32 - n))

/-! ## Padding -/

def pad (data : ByteArray) : ByteArray :=
  let zeros := (119 - data.size % 64) % 64
  let bits := data.size * 8
  let padded := (List.range zeros).foldl (fun acc _ => acc.push 0) (data.push 0x80)
  (List.range 8).foldl (fun acc i => acc.push (UInt8.ofNat (bits / Nat.pow 256 (7 - i)))) padded

/-! ## Compression -/

@[inline] def byteAt (data : ByteArray) (i : Nat) : UInt32 :=
  if h : i < data.size then (data.get i h).toUInt32 else 0

@[inline] def wordAt (data : ByteArray) (i : Nat) : UInt32 :=
  (byteAt data i <<< 24) ||| (byteAt data (i + 1) <<< 16) ||| (byteAt data (i + 2) <<< 8) |||
    byteAt data (i + 3)

@[inline] def entry (words : Array UInt32) (i : Nat) : UInt32 := words.getD i 0

def schedule : Nat → Array UInt32 → Array UInt32
  | 0, words => words
  | more + 1, words =>
      let i := words.size
      let x := entry words (i - 15)
      let y := entry words (i - 2)
      let s0 := rotate x 7 ^^^ rotate x 18 ^^^ (x >>> 3)
      let s1 := rotate y 17 ^^^ rotate y 19 ^^^ (y >>> 10)
      schedule more (words.push (entry words (i - 16) + s0 + entry words (i - 7) + s1))

@[inline] def Chain.step (s : Chain) (constant word : UInt32) : Chain :=
  let s1 := rotate s.e 6 ^^^ rotate s.e 11 ^^^ rotate s.e 25
  let ch := (s.e &&& s.f) ^^^ ((~~~ s.e) &&& s.g)
  let t1 := s.h + s1 + ch + constant + word
  let s0 := rotate s.a 2 ^^^ rotate s.a 13 ^^^ rotate s.a 22
  let maj := (s.a &&& s.b) ^^^ (s.a &&& s.c) ^^^ (s.b &&& s.c)
  ⟨t1 + (s0 + maj), s.a, s.b, s.c, s.d + t1, s.e, s.f, s.g⟩

def Chain.rounds (words : Array UInt32) : Nat → Nat → Chain → Chain
  | 0, _, s => s
  | more + 1, i, s => rounds words more (i + 1) (s.step (entry roundConstants i) (entry words i))

def Chain.add (s t : Chain) : Chain :=
  ⟨s.a + t.a, s.b + t.b, s.c + t.c, s.d + t.d, s.e + t.e, s.f + t.f, s.g + t.g, s.h + t.h⟩

def blockWords (data : ByteArray) (start : Nat) : Nat → Nat → Array UInt32 → Array UInt32
  | 0, _, words => words
  | more + 1, i, words =>
      blockWords data start more (i + 1) (words.push (wordAt data (start + 4 * i)))

def Chain.absorb (s : Chain) (data : ByteArray) (start : Nat) : Chain :=
  let words := schedule 48 (blockWords data start 16 0 (Array.mkEmpty 64))
  s.add (s.rounds words 64 0)

def Chain.absorbAll (data : ByteArray) : Nat → Nat → Chain → Chain
  | 0, _, s => s
  | more + 1, start, s => absorbAll data more (start + 64) (s.absorb data start)

/-! ## Digests -/

def Chain.words (s : Chain) : List UInt32 := [s.a, s.b, s.c, s.d, s.e, s.f, s.g, s.h]

def digest (data : ByteArray) : List UInt32 :=
  let padded := pad data
  (Chain.absorbAll padded (padded.size / 64) 0 .start).words

def hex (data : ByteArray) : String :=
  String.ofList ((digest data).flatMap fun word => Text.hexDigits 8 word.toNat)

end StillMotion.Sha256
