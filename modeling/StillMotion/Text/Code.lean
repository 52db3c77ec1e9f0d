/-!
# Code points

A text that is given by escapes can hold half of a pair of surrogates, which is no character.  As a
text of characters it has the replacement character in its place.
-/

namespace StillMotion.Text

inductive Code where
  | char (c : Char)
  | half (n : Fin 0x800)
deriving DecidableEq, Repr, Inhabited

def isHighHalf (n : Nat) : Bool := 0xD800 ≤ n && n < 0xDC00

def isLowHalf (n : Nat) : Bool := 0xDC00 ≤ n && n < 0xE000

def ofPair (high low : Nat) : Char := Char.ofNat (0x10000 + (high - 0xD800) * 1024 + (low - 0xDC00))

namespace Code

def toNat : Code → Nat
  | char c => c.toNat
  | half n => 0xD800 + n

def ofNat (n : Nat) : Code :=
  if h : 0xD800 ≤ n ∧ n < 0xE000 then .half ⟨n - 0xD800, by omega⟩ else .char (Char.ofNat n)

def ofString (s : String) : List Code := s.toList.map .char

/-- The characters of a text.  The halves of a pair become one, and a half alone is replaced. -/
def characters : List Code → List Char
  | [] => []
  | .char c :: rest => c :: characters rest
  | .half high :: .half low :: rest =>
      if isHighHalf (half high).toNat && isLowHalf (half low).toNat then
        ofPair (half high).toNat (half low).toNat :: characters rest
      else Char.ofNat 0xFFFD :: characters (.half low :: rest)
  | .half _ :: rest => Char.ofNat 0xFFFD :: characters rest

def string (codes : List Code) : String := String.ofList (characters codes)

theorem characters_map_char (cs : List Char) : characters (cs.map .char) = cs := by
  induction cs with
  | nil => rfl
  | cons c cs ih => rw [List.map_cons, characters, ih]

theorem string_map_char (cs : List Char) : string (cs.map .char) = String.ofList cs :=
  congrArg String.ofList (characters_map_char cs)

theorem string_ofString (s : String) : string (ofString s) = s := by
  rw [ofString, string_map_char, String.ofList_toList]

theorem ofNat_toNat (code : Code) : ofNat code.toNat = code := by
  cases code with
  | char c =>
      have valid : c.toNat < 0xD800 ∨ 0xDFFF < c.toNat ∧ c.toNat < 0x110000 := c.valid
      rw [toNat, ofNat, dif_neg (by omega), Char.ofNat_toNat]
  | half n =>
      have bound := n.isLt
      rw [toNat, ofNat, dif_pos (by omega)]
      simp

end Code

end StillMotion.Text
