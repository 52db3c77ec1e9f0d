import StillMotion.Data.Json.Reader
import StillMotion.Data.Json.Writer
import StillMotion.Proofs.Data.RoundTrip
import StillMotion.Proofs.Number.FreeText
import StillMotion.Proofs.Number.Reading
import StillMotion.Proofs.Text.Search

/-!
# JSON texts are read back

A value that is written on one line is read back from the front of any text that goes on in
another way than a number does: the reader takes exactly the characters that the writer wrote.
-/

namespace StillMotion.Json

open StillMotion.Number StillMotion.Text

/-! ## Characters -/

section Characters

variable {asciiOnly : Bool} {c : Char} {more rest : List Char}

def codeDigits (n : Nat) : List Char :=
  [hexDigit (n / 4096 % 16), hexDigit (n / 256 % 16), hexDigit (n / 16 % 16), hexDigit (n % 16)]

theorem unicodeEscape_eq (n : Nat) : unicodeEscape n = '\\' :: 'u' :: codeDigits n := rfl

theorem hex4?_codeDigits {n : Nat} (h : n < 0x10000) (rest : List Char) :
    hex4? (codeDigits n ++ rest) = some (n, rest) := by
  have value (k : Nat) : hexValue? (hexDigit (k % 16)) = some (k % 16) :=
    hexValue?_hexDigit (Nat.mod_lt k (by decide))
  simp only [codeDigits, List.cons_append, List.nil_append, hex4?, value, Option.bind_eq_bind,
    Option.bind_some, Option.some.injEq, Prod.mk.injEq, and_true]
  omega

theorem secondHalf?_eq_none {high : Nat} {cs : List Char}
    (other : ∀ more, cs ≠ '\\' :: 'u' :: more) : secondHalf? high cs = none := by
  unfold secondHalf?
  split
  next more => exact absurd rfl (other more)
  next => rfl

theorem secondHalf?_of_not_isHighHalf {n : Nat} (noHigh : isHighHalf n = false) (cs : List Char) :
    secondHalf? n cs = none := by
  unfold secondHalf?
  split
  · simp [noHigh]
  · rfl

theorem secondHalf?_unicodeEscape {high n : Nat} (h : n < 0x10000) (rest : List Char) :
    secondHalf? high (unicodeEscape n ++ rest) =
      if isHighHalf high && isLowHalf n then some (n, rest) else none := by
  rw [unicodeEscape_eq, List.cons_append, List.cons_append, secondHalf?, hex4?_codeDigits h,
    Option.filter_some]

theorem codeEscape?_single {n : Nat} (read : hex4? more = some (n, rest))
    (alone : secondHalf? n rest = none) : codeEscape? more = some (.ofNat n, rest) := by
  simp only [codeEscape?, read, Option.bind_eq_bind, Option.bind_some, alone]

theorem codeEscape?_pair {after : List Char} {high low : Nat}
    (first : hex4? more = some (high, after)) (second : secondHalf? high after = some (low, rest)) :
    codeEscape? more = some (.char (ofPair high low), rest) := by
  simp only [codeEscape?, first, Option.bind_eq_bind, Option.bind_some, second]

theorem exists_halves (c : Char) (wide : ¬ c.toNat < 0x10000) :
    ∃ high low, escapeChar c = unicodeEscape high ++ unicodeEscape low ∧ high < 0x10000 ∧
      low < 0x10000 ∧ isHighHalf high = true ∧ isLowHalf low = true ∧ ofPair high low = c := by
  have valid : c.toNat < 0xD800 ∨ 0xDFFF < c.toNat ∧ c.toNat < 0x110000 := c.valid
  refine ⟨0xD800 + (c.toNat - 0x10000) / 1024, 0xDC00 + (c.toNat - 0x10000) % 1024, ?_⟩
  have bound : c.toNat - 0x10000 < 0x100000 := by omega
  have whole : c.toNat = 0x10000 + (c.toNat - 0x10000) := by omega
  rw [escapeChar]
  dsimp only
  rw [if_neg wide]
  generalize c.toNat - 0x10000 = m at bound whole
  refine ⟨rfl, by omega, by omega, ?_, ?_, ?_⟩
  · rw [isHighHalf, Bool.and_eq_true, decide_eq_true_eq, decide_eq_true_eq]
    omega
  · rw [isLowHalf, Bool.and_eq_true, decide_eq_true_eq, decide_eq_true_eq]
    omega
  · have joined : 0x10000 + (0xD800 + m / 1024 - 0xD800) * 1024 +
        (0xDC00 + m % 1024 - 0xDC00) = c.toNat := by omega
    rw [ofPair, joined, Char.ofNat_toNat]

theorem noHalf_of_basic (c : Char) : isHighHalf c.toNat = false ∧ isLowHalf c.toNat = false := by
  have valid : c.toNat < 0xD800 ∨ 0xDFFF < c.toNat ∧ c.toNat < 0x110000 := c.valid
  rw [isHighHalf, isLowHalf, Bool.and_eq_false_iff, Bool.and_eq_false_iff, decide_eq_false_iff_not,
    decide_eq_false_iff_not, decide_eq_false_iff_not, decide_eq_false_iff_not]
  omega

theorem exists_escapeChar (c : Char) (rest : List Char) :
    ∃ digits, escapeChar c = '\\' :: 'u' :: digits ∧
      codeEscape? (digits ++ rest) = some (.char c, rest) := by
  by_cases basic : c.toNat < 0x10000
  · refine ⟨codeDigits c.toNat, ?_, ?_⟩
    · rw [escapeChar]
      exact if_pos basic
    · rw [codeEscape?_single (hex4?_codeDigits basic rest)
        (secondHalf?_of_not_isHighHalf (noHalf_of_basic c).1 rest)]
      exact congrArg (fun code => some (code, rest)) (Code.ofNat_toNat (.char c))
  · obtain ⟨high, low, written, first, second, isFirst, isSecond, joined⟩ := exists_halves c basic
    refine ⟨codeDigits high ++ unicodeEscape low, written, ?_⟩
    have follows : secondHalf? high (unicodeEscape low ++ rest) = some (low, rest) := by
      rw [secondHalf?_unicodeEscape second, isFirst, isSecond]
      rfl
    rw [List.append_assoc, codeEscape?_pair (hex4?_codeDigits first _) follows, joined]

theorem encodeChar_forms (asciiOnly : Bool) (c : Char) :
    (∃ e, encodeChar asciiOnly c = ['\\', e] ∧ (e == 'u') = false ∧ simpleEscape? e = some c) ∨
    encodeChar asciiOnly c = escapeChar c ∨
    encodeChar asciiOnly c = [c] ∧ c ≠ '"' ∧ c ≠ '\\' ∧ ¬ c.toNat < 32 := by
  have code {n : Nat} (same : (c.toNat == n) = true) : Char.ofNat n = c := by
    rw [← beq_iff_eq.mp same, Char.ofNat_toNat]
  unfold encodeChar
  split
  next quote => exact .inl ⟨'"', rfl, rfl, congrArg some (beq_iff_eq.mp quote).symm⟩
  split
  next slash => exact .inl ⟨'\\', rfl, rfl, congrArg some (beq_iff_eq.mp slash).symm⟩
  split
  next line => exact .inl ⟨'n', rfl, rfl, congrArg some (beq_iff_eq.mp line).symm⟩
  split
  next start => exact .inl ⟨'r', rfl, rfl, congrArg some (beq_iff_eq.mp start).symm⟩
  split
  next tab => exact .inl ⟨'t', rfl, rfl, congrArg some (beq_iff_eq.mp tab).symm⟩
  split
  next feed => exact .inl ⟨'f', rfl, rfl, congrArg some (code feed)⟩
  split
  next back => exact .inl ⟨'b', rfl, rfl, congrArg some (code back)⟩
  split
  next control =>
      refine .inr (.inl ?_)
      rw [escapeChar, if_pos (by omega)]
  next quote slash _ _ _ _ _ above =>
  split
  next high => exact .inr (.inl rfl)
  next low => exact .inr (.inr ⟨rfl, by simpa using quote, by simpa using slash, above⟩)

theorem encodeChar_ne_nil (asciiOnly : Bool) (c : Char) : encodeChar asciiOnly c ≠ [] := by
  rcases encodeChar_forms asciiOnly c with ⟨e, written, _⟩ | written | ⟨written, _⟩
  · simp [written]
  · obtain ⟨digits, escaped, _⟩ := exists_escapeChar c []
    simp [written, escaped]
  · simp [written]

end Characters

/-! ## Codes -/

section Codes

variable {asciiOnly : Bool} {code : Code} {codes : List Code} {more rest : List Char}

def encodeCode (asciiOnly : Bool) : Code → List Char
  | .char c => encodeChar asciiOnly c
  | .half n => unicodeEscape (Code.half n).toNat

def encodeCodes (asciiOnly : Bool) (codes : List Code) : List Char :=
  '"' :: (codes.flatMap (encodeCode asciiOnly) ++ ['"'])

theorem encodeString_eq (asciiOnly : Bool) (s : String) :
    encodeString asciiOnly s = encodeCodes asciiOnly (Code.ofString s) := by
  rw [encodeString, encodeCodes, Code.ofString, List.flatMap_map]
  rfl

theorem encodeCode_ne_nil (asciiOnly : Bool) (code : Code) : encodeCode asciiOnly code ≠ [] := by
  cases code with
  | char c => exact encodeChar_ne_nil asciiOnly c
  | half n => exact List.cons_ne_nil _ _

/-- In a text the halves of a pair do not stand side by side: they would be read as one. -/
def IsJoined (codes : List Code) : Prop :=
  codes.IsChain fun a b : Code => ¬ (isHighHalf a.toNat = true ∧ isLowHalf b.toNat = true)

theorem isJoined_ofString (s : String) : IsJoined (Code.ofString s) := by
  refine List.Pairwise.isChain (List.pairwise_map.mpr (List.pairwise_of_forall ?_))
  rintro c - ⟨high, -⟩
  rw [Code.toNat, (noHalf_of_basic c).1] at high
  cases high

theorem Code.toNat_half_lt (n : Fin 0x800) : (Code.half n).toNat < 0x10000 := by
  have bound := n.isLt
  rw [Code.toNat]
  omega

/-- What is written behind a code is not taken for its second half. -/
theorem secondHalf?_encode (joined : IsJoined (code :: codes)) (rest : List Char) :
    secondHalf? code.toNat (codes.flatMap (encodeCode asciiOnly) ++ '"' :: rest) = none := by
  cases codes with
  | nil => exact secondHalf?_eq_none nofun
  | cons next codes =>
      have apart := List.isChain_cons_cons.mp joined |>.1
      rw [List.flatMap_cons, List.append_assoc]
      have noPair {n : Nat} (h : n < 0x10000)
          (apart : ¬ (isHighHalf code.toNat = true ∧ isLowHalf n = true)) (rest : List Char) :
          secondHalf? code.toNat (unicodeEscape n ++ rest) = none := by
        rw [secondHalf?_unicodeEscape h, if_neg (by rwa [Bool.and_eq_true])]
      cases next with
      | half n => exact noPair (Code.toNat_half_lt n) apart _
      | char c =>
          rw [encodeCode]
          rcases encodeChar_forms asciiOnly c with ⟨e, written, letter, -⟩ | written |
            ⟨written, -, slash, -⟩
          · rw [written]
            refine secondHalf?_eq_none fun more same => ?_
            cases same
            cases letter
          · rw [written]
            by_cases basic : c.toNat < 0x10000
            · have single : escapeChar c = unicodeEscape c.toNat := if_pos basic
              rw [single]
              exact noPair basic apart _
            · obtain ⟨high, low, halves, first, -, isFirst, -⟩ := exists_halves c basic
              rw [halves, List.append_assoc]
              refine noPair first ?_ _
              rintro ⟨-, isSecond⟩
              rw [isHighHalf, Bool.and_eq_true, decide_eq_true_eq, decide_eq_true_eq] at isFirst
              rw [isLowHalf, Bool.and_eq_true, decide_eq_true_eq, decide_eq_true_eq] at isSecond
              omega
          · rw [written]
            exact secondHalf?_eq_none fun more same => slash (List.cons.inj same).1

theorem stringBody?_code (seen : List Code) (fuel : Nat)
    (alone : secondHalf? code.toNat more = none) :
    stringBody? seen (fuel + 1) (encodeCode asciiOnly code ++ more) =
      stringBody? (code :: seen) fuel more := by
  have noQuote : ('\\' == '"') = false := rfl
  cases code with
  | half n =>
      have read := codeEscape?_single (hex4?_codeDigits (Code.toNat_half_lt n) more) alone
      rw [Code.ofNat_toNat] at read
      rw [encodeCode, unicodeEscape_eq, List.cons_append, List.cons_append, stringBody?]
      simp only [noQuote, beq_self_eq_true, read, Bool.false_eq_true, if_false, if_true]
  | char c =>
      rw [encodeCode]
      rcases encodeChar_forms asciiOnly c with ⟨e, written, letter, read⟩ | written |
        ⟨written, quote, slash, shown⟩
      · rw [written, List.cons_append, List.cons_append, List.nil_append, stringBody?]
        simp only [noQuote, beq_self_eq_true, letter, read, Bool.false_eq_true, if_false, if_true]
      · obtain ⟨digits, escaped, read⟩ := exists_escapeChar c more
        rw [written, escaped, List.cons_append, List.cons_append, stringBody?]
        simp only [noQuote, beq_self_eq_true, read, Bool.false_eq_true, if_false, if_true]
      · rw [written, List.singleton_append]
        simp only [stringBody?, beq_eq_false_iff_ne.mpr quote, beq_eq_false_iff_ne.mpr slash, shown,
          Bool.false_eq_true, if_false]

theorem stringBody?_encode (seen : List Code) (joined : IsJoined codes) {fuel : Nat}
    (enough : codes.length < fuel) :
    stringBody? seen fuel (codes.flatMap (encodeCode asciiOnly) ++ '"' :: rest) =
      some (seen.reverse ++ codes, rest) := by
  -- A code takes one step however many characters it is written with.
  induction codes generalizing seen fuel with
  | nil =>
      obtain ⟨fuel, rfl⟩ := Nat.exists_eq_add_one.mpr enough
      simp [stringBody?]
  | cons code codes ih =>
      obtain ⟨fuel, rfl⟩ := Nat.exists_eq_add_one.mpr (Nat.zero_lt_of_lt enough)
      rw [List.flatMap_cons, List.append_assoc,
        stringBody?_code seen fuel (secondHalf?_encode joined rest),
        ih (code :: seen) joined.tail (by simpa using enough)]
      simp

theorem length_le_flatMap {α : Type} {f : α → List Char} (present : ∀ a, f a ≠ []) (xs : List α) :
    xs.length ≤ (xs.flatMap f).length := by
  induction xs with
  | nil => simp
  | cons x xs ih =>
      have positive := List.length_pos_iff.mpr (present x)
      simp only [List.flatMap_cons, List.length_cons, List.length_append]
      omega

theorem string?_encodeCodes (joined : IsJoined codes) (rest : List Char) :
    string? (encodeCodes asciiOnly codes ++ rest) = some (codes, rest) := by
  have long := length_le_flatMap (encodeCode_ne_nil asciiOnly) codes
  rw [encodeCodes, List.cons_append, List.append_assoc, List.singleton_append, string?,
    stringBody?_encode [] joined]
  · rfl
  · simp only [List.length_append, List.length_cons]
    omega

end Codes

/-! ## Numbers -/

theorem lt_of_isWithin {limit : Nat} {n : Int} (within : (Value.int n).isWithin limit = true) :
    n.natAbs < 10 ^ limit := by
  change (decide (n.natAbs.log2 < 3 * limit) || decide (n.natAbs < 10 ^ limit)) = true at within
  rw [Bool.or_eq_true, decide_eq_true_eq, decide_eq_true_eq] at within
  rcases within with few | less
  · calc n.natAbs < 2 ^ (n.natAbs.log2 + 1) := Nat.lt_log2_self
      _ ≤ 2 ^ (3 * limit) := Nat.pow_le_pow_right (by decide) few
      _ = 8 ^ limit := by rw [Nat.pow_mul]
      _ ≤ 10 ^ limit := Nat.pow_le_pow_left (by decide) limit
  · exact less

theorem encodeInt_eq (n : Int) :
    encodeInt n = signText (decide (n < 0)) ++ natDigits n.natAbs := by
  unfold encodeInt signText
  by_cases negative : n < 0 <;> simp [negative]

/-- The text does not go on as a number does. -/
def EndsNumber (rest : List Char) : Prop :=
  rest.head?.all (fun c => !(isAsciiDigit c || c == '.' || c == 'e' || c == 'E')) = true

section Numbers

variable {negative : Bool} {c : Char} {whole more rest : List Char}

theorem EndsNumber.noDigit (ends : EndsNumber rest) :
    rest.head?.all (fun c => !isAsciiDigit c) = true := by
  cases rest with
  | nil => rfl
  | cons c rest =>
      simp only [EndsNumber, List.head?_cons, Option.all_some, Bool.not_or,
        Bool.and_eq_true] at ends
      exact ends.1.1.1

theorem EndsNumber.fractionPart_eq (ends : EndsNumber rest) : fractionPart rest = (none, rest) := by
  cases rest with
  | nil => rfl
  | cons c rest =>
      simp only [EndsNumber, List.head?_cons, Option.all_some, Bool.not_or,
        Bool.and_eq_true] at ends
      unfold fractionPart
      split
      next point =>
          cases point
          exact absurd ends.1.1.2 (by decide)
      next => rfl

theorem EndsNumber.exponentPart_eq (ends : EndsNumber rest) : exponentPart rest = (none, rest) := by
  cases rest with
  | nil => rfl
  | cons c rest =>
      simp only [EndsNumber, List.head?_cons, Option.all_some, Bool.not_or, Bool.and_eq_true,
        Bool.not_eq_true'] at ends
      simp [exponentPart, ends.1.2, ends.2]

theorem wholePart?_digits (digits : whole.all isAsciiDigit = true) (present : whole ≠ [])
    (lead : whole.head? = some '0' → whole = ['0'])
    (stop : more.head?.all (fun c => !isAsciiDigit c) = true) :
    wholePart? (whole ++ more) = some (whole, more) := by
  have taken := takeWhile_digits digits stop
  have dropped := dropWhile_digits digits stop
  cases whole with
  | nil => exact absurd rfl present
  | cons c cs =>
      by_cases zero : c = '0'
      · subst zero
        rw [lead rfl]
        rfl
      · rw [List.all_cons, Bool.and_eq_true] at digits
        rw [List.cons_append] at taken dropped ⊢
        unfold wholePart?
        split
        next same => exact absurd (List.cons.inj same).1 zero
        next same =>
            cases same
            rw [if_pos digits.1, taken, dropped]
        next same => cases same

theorem fractionPart_digits {fraction : List Char} (digits : fraction.all isAsciiDigit = true)
    (present : fraction ≠ []) (stop : more.head?.all (fun c => !isAsciiDigit c) = true) :
    fractionPart ('.' :: (fraction ++ more)) = (some fraction, more) := by
  have taken := takeWhile_digits digits stop
  have dropped := dropWhile_digits digits stop
  cases fraction with
  | nil => exact absurd rfl present
  | cons d ds =>
      rw [List.all_cons, Bool.and_eq_true] at digits
      rw [List.cons_append] at taken dropped ⊢
      simp only [fractionPart, digits.1, if_true, taken, dropped]

theorem exponentPart_exponentText (e : Int)
    (stop : rest.head?.all (fun c => !isAsciiDigit c) = true) :
    exponentPart ('e' :: (exponentText e ++ rest)) = (some e, rest) := by
  obtain ⟨ds, written, digits, present, value⟩ := exists_exponentText e
  have taken := takeWhile_digits digits stop
  have dropped := dropWhile_digits digits stop
  have some : ds.isEmpty = false := by simpa using present
  rw [written, List.cons_append]
  simp only [exponentPart, beq_self_eq_true, Bool.true_or, if_true, takeSign_exponent, taken,
    dropped, some, Bool.false_eq_true, if_false, value]

theorem ne_minus_of_digit (digit : isAsciiDigit c = true) : c ≠ '-' := by
  rintro rfl
  cases digit

theorem number?_signText (digit : isAsciiDigit c = true) :
    number? (signText negative ++ c :: more) =
      match wholePart? (c :: more) with
      | none => .error .malformed
      | some (whole, rest) =>
          let (fraction, rest) := fractionPart rest
          let (exponent, rest) := exponentPart rest
          if fraction.isNone && exponent.isNone then
            if digitLimit < whole.length then .error (.integerTooLong whole.length)
            else
              let n : Int := digitsValue whole
              .ok (.int (if negative then -n else n), rest)
          else
            let digits := fraction.getD []
            .ok (.float (ofDecimal negative (whole ++ digits) (exponent.getD 0 - digits.length)),
              rest) := by
  unfold number?
  cases negative with
  | true => rfl
  | false =>
      have unsigned : signText false ++ c :: more = c :: more := rfl
      rw [unsigned]
      split
      next sign rest split =>
      have same : (false, c :: more) = (sign, rest) := by
        rw [← split]
        split
        next minus => exact absurd (List.cons.inj minus).1 (ne_minus_of_digit digit)
        next => rfl
      cases same
      rfl

theorem number?_whole (digit : isAsciiDigit c = true)
    (read : wholePart? (c :: more) = some (whole, rest)) (ends : EndsNumber rest)
    (short : whole.length ≤ digitLimit) :
    number? (signText negative ++ c :: more) =
      .ok (.int (if negative then -(digitsValue whole : Int) else digitsValue whole), rest) := by
  rw [number?_signText digit, read]
  simp only [ends.fractionPart_eq, ends.exponentPart_eq, Option.isNone_none, Bool.and_self,
    if_true, if_neg (not_lt.mpr short)]

theorem number?_real {fraction : Option (List Char)} {exponent : Option Int} {tail : List Char}
    (digit : isAsciiDigit c = true) (read : wholePart? (c :: more) = some (whole, tail))
    (parts : (fractionPart tail).1 = fraction ∧
      exponentPart (fractionPart tail).2 = (exponent, rest))
    (some : (fraction.isNone && exponent.isNone) = false) :
    number? (signText negative ++ c :: more) =
      .ok (.float (ofDecimal negative (whole ++ fraction.getD [])
        (exponent.getD 0 - (fraction.getD []).length)), rest) := by
  obtain ⟨rfl, last⟩ := parts
  rw [number?_signText digit, read]
  simp only [last, some, Bool.false_eq_true, if_false]

theorem number?_encodeInt {n : Int} (within : (Value.int n).isWithin digitLimit = true)
    (ends : EndsNumber rest) : number? (encodeInt n ++ rest) = .ok (.int n, rest) := by
  obtain ⟨c, ds, written, digit⟩ := natDigits_eq_cons n.natAbs
  have short : (natDigits n.natAbs).length ≤ digitLimit :=
    length_natDigits_le (by decide) (lt_of_isWithin within)
  have lead : (natDigits n.natAbs).head? = some '0' → natDigits n.natAbs = ['0'] := by
    intro zero
    rw [written, List.head?_cons, Option.some_inj] at zero
    subst zero
    rw [written, (natDigits_eq_singleton written).2]
  have read := wholePart?_digits (all_natDigits n.natAbs) (natDigits_ne_nil _) lead ends.noDigit
  rw [encodeInt_eq, List.append_assoc]
  rw [written, List.cons_append] at read
  rw [written] at short
  rw [written, List.cons_append, number?_whole digit read ends short, ← written,
    digitsValue_natDigits]
  by_cases negative : n < 0
  · rw [decide_eq_true negative, if_pos rfl, show -(n.natAbs : Int) = n by omega]
  · rw [decide_eq_false negative, if_neg Bool.false_ne_true, show (n.natAbs : Int) = n by omega]

theorem fraction_and_exponent (t : PointedNumeral) (ends : EndsNumber rest) :
    fractionPart ('.' :: (t.fraction ++ (t.tail ++ rest))) = (some t.fraction, t.tail ++ rest) ∧
      exponentPart (t.tail ++ rest) = (t.exponent, rest) := by
  unfold PointedNumeral.tail
  split
  next none =>
      rw [List.nil_append, none]
      exact ⟨fractionPart_digits t.fraction_digits t.fraction_ne_nil ends.noDigit,
        ends.exponentPart_eq⟩
  next e given =>
      rw [List.cons_append, given]
      exact ⟨fractionPart_digits t.fraction_digits t.fraction_ne_nil rfl,
        exponentPart_exponentText e ends.noDigit⟩

theorem number?_dataText {x : Float} (finite : isFinite x = true) (ends : EndsNumber rest) :
    number? (dataText x ++ rest) = .ok (.float x, rest) := by
  rcases dataText_denotes finite with ⟨negative, t, written, same⟩ |
    ⟨negative, c, e, digit, nonzero, written, same⟩
  · obtain ⟨fraction, exponent⟩ := fraction_and_exponent t ends
    have read : wholePart? (t.whole ++ '.' :: (t.fraction ++ (t.tail ++ rest))) =
        some (t.whole, '.' :: (t.fraction ++ (t.tail ++ rest))) :=
      wholePart?_digits t.whole_digits t.whole_ne_nil t.whole_lead rfl
    obtain ⟨c, ds, first⟩ := List.exists_cons_of_ne_nil t.whole_ne_nil
    have digit : isAsciiDigit c = true := List.all_eq_true.mp t.whole_digits c (by simp [first])
    have text : dataText x ++ rest =
        signText negative ++ c :: (ds ++ '.' :: (t.fraction ++ (t.tail ++ rest))) := by
      simp [written, PointedNumeral.text, first]
    rw [first, List.cons_append] at read
    rw [text, number?_real digit read ⟨congrArg Prod.fst fraction, by rw [fraction, exponent]⟩ rfl,
      ← first]
    exact congrArg (fun y => Except.ok (Tree.float y, rest)) same
  · have read : wholePart? ([c] ++ 'e' :: (exponentText e ++ rest)) =
        some ([c], 'e' :: (exponentText e ++ rest)) :=
      wholePart?_digits (by simpa using digit) (by simp) (by simp) rfl
    rw [List.singleton_append] at read
    have fraction : fractionPart ('e' :: (exponentText e ++ rest)) =
        (none, 'e' :: (exponentText e ++ rest)) := rfl
    have text : dataText x ++ rest =
        signText negative ++ c :: ('e' :: (exponentText e ++ rest)) := by
      simp [written]
    rw [text, number?_real digit read ⟨congrArg Prod.fst fraction,
      by rw [fraction, exponentPart_exponentText e ends.noDigit]⟩ rfl]
    simpa using same

end Numbers

/-! ## Layouts on one line -/

structure Layout.IsInline (layout : Layout) : Prop where
  unsorted : layout.sortKeys = false
  indent : layout.indent = none
  comma : ∃ blanks, layout.comma = ',' :: blanks ∧ blanks.all isSpace = true
  colon : ∃ blanks, layout.colon = ':' :: blanks ∧ blanks.all isSpace = true

theorem skipSpace_append {blanks rest : List Char} (blank : blanks.all isSpace = true) :
    skipSpace (blanks ++ rest) = skipSpace rest :=
  List.dropWhile_append_of_pos (List.all_eq_true.mp blank)

theorem skipSpace_cons {c : Char} {rest : List Char} (shown : isSpace c = false) :
    skipSpace (c :: rest) = c :: rest :=
  List.dropWhile_cons_of_neg (by simp [shown])

theorem intercalate_cons (comma text : List Char) (texts : List (List Char)) :
    comma.intercalate (text :: texts) = text ++ texts.flatMap (comma ++ ·) := by
  induction texts generalizing text with
  | nil => simp
  | cons next texts ih => rw [List.intercalate_cons_cons, ih]; simp

theorem Layout.block_inline {layout : Layout} (inline : layout.indent = none) (level : Nat)
    (left right : Char) (texts : List (List Char)) :
    layout.block level left right texts =
      left :: (layout.comma.intercalate texts ++ [right]) := by
  cases texts with
  | nil => rfl
  | cons text texts => simp [Layout.block, Layout.newline, inline, intercalate_cons]

/-! ## Trees -/

namespace Tree

mutual

def encode (layout : Layout) : Tree → List Char
  | .null => ['n', 'u', 'l', 'l']
  | .bool true => ['t', 'r', 'u', 'e']
  | .bool false => ['f', 'a', 'l', 's', 'e']
  | .int n => encodeInt n
  | .float x => dataText x
  | .str codes => encodeCodes layout.asciiOnly codes
  | .list items => '[' :: (layout.comma.intercalate (encodeItems layout items) ++ [']'])
  | .mapping members =>
      '{' :: (layout.comma.intercalate (encodeMembers layout members) ++ ['}'])

def encodeItems (layout : Layout) : List Tree → List (List Char)
  | [] => []
  | item :: rest => item.encode layout :: encodeItems layout rest

def encodeMembers (layout : Layout) : List (List Code × Tree) → List (List Char)
  | [] => []
  | (key, tree) :: rest =>
      (encodeCodes layout.asciiOnly key ++ layout.colon ++ tree.encode layout) ::
        encodeMembers layout rest

end

def text (layout : Layout) (tree : Tree) : String := String.ofList (tree.encode layout)

mutual

/-- Every number can be spelled, no key comes twice and no two codes are taken for one. -/
def IsProper : Tree → Prop
  | .int n => (Value.int n).isWithin digitLimit = true
  | .float x => isFinite x = true
  | .str codes => IsJoined codes
  | .list items => AreProper items
  | .mapping members => (members.map (·.1)).Nodup ∧ MembersAreProper members
  | _ => True

def AreProper : List Tree → Prop
  | [] => True
  | item :: rest => item.IsProper ∧ AreProper rest

def MembersAreProper : List (List Code × Tree) → Prop
  | [] => True
  | (key, tree) :: rest => IsJoined key ∧ tree.IsProper ∧ MembersAreProper rest

end

mutual

def levels : Tree → Nat
  | .list items => levelsOfItems items + 1
  | .mapping members => levelsOfMembers members + 1
  | _ => 0

def levelsOfItems : List Tree → Nat
  | [] => 0
  | item :: rest => max item.levels (levelsOfItems rest)

def levelsOfMembers : List (List Code × Tree) → Nat
  | [] => 0
  | (_, tree) :: rest => max tree.levels (levelsOfMembers rest)

end

end Tree

section Trees

open StillMotion.Json.Tree

variable {layout : Layout} {depth fuel : Nat} {rest : List Char}

/-- The tree is read from the front of a text, with nesting and steps enough. -/
def Reads (layout : Layout) (tree : Tree) : Prop :=
  ∀ (depth fuel : Nat) (rest : List Char), tree.levels ≤ depth →
    (tree.encode layout).length ≤ fuel → EndsNumber rest →
    readTree depth fuel (tree.encode layout ++ rest) = .ok (tree, rest)

theorem exists_number_cons {negative : Bool} {c : Char} {more : List Char}
    (digit : isAsciiDigit c = true) :
    ∃ d cs, signText negative ++ c :: more = d :: cs ∧ isSpace d = false ∧ d ≠ ']' := by
  cases negative with
  | true => exact ⟨'-', c :: more, rfl, rfl, by decide⟩
  | false =>
      have lead := of_isWordChar (p := fun c => !isSpace c && c != ']') (by decide)
        (isWordChar_of_isAsciiDigit digit)
      rw [Bool.and_eq_true, Bool.not_eq_true', bne_iff_ne] at lead
      exact ⟨c, more, rfl, lead⟩

theorem exists_dataText_cons {x : Float} (finite : isFinite x = true) :
    ∃ negative c more, dataText x = signText negative ++ c :: more ∧ isAsciiDigit c = true := by
  rcases dataText_cases finite with ⟨negative, t, _, written, _⟩ |
    ⟨negative, c, e, digit, _, written⟩
  · obtain ⟨c, more, shown, digit⟩ := t.exists_cons
    exact ⟨negative, c, more, by rw [written, shown], digit⟩
  · exact ⟨negative, c, _, written, digit⟩

theorem exists_encode_cons {tree : Tree} (proper : tree.IsProper) (layout : Layout) :
    ∃ c cs, tree.encode layout = c :: cs ∧ isSpace c = false ∧ c ≠ ']' := by
  cases tree with
  | null => exact ⟨'n', _, rfl, rfl, by decide⟩
  | bool b =>
      cases b with
      | false => exact ⟨'f', _, rfl, rfl, by decide⟩
      | true => exact ⟨'t', _, rfl, rfl, by decide⟩
  | int n =>
      obtain ⟨c, more, written, digit⟩ := natDigits_eq_cons n.natAbs
      rw [Tree.encode, encodeInt_eq, written]
      exact exists_number_cons digit
  | float x =>
      obtain ⟨negative, c, more, written, digit⟩ := exists_dataText_cons proper
      rw [Tree.encode, written]
      exact exists_number_cons digit
  | str codes => exact ⟨'"', _, rfl, rfl, by decide⟩
  | list items => exact ⟨'[', _, rfl, rfl, by decide⟩
  | mapping members => exact ⟨'{', _, rfl, rfl, by decide⟩

theorem skipSpace_encode {tree : Tree} (proper : tree.IsProper) (rest : List Char) :
    skipSpace (tree.encode layout ++ rest) = tree.encode layout ++ rest := by
  obtain ⟨c, cs, written, shown, _⟩ := exists_encode_cons proper layout
  rw [written, List.cons_append, skipSpace_cons shown]

theorem readItems_of_reads {items : List Tree} (inline : layout.IsInline)
    (proper : AreProper items) (each : ∀ item ∈ items, Reads layout item)
    (some : items ≠ []) {seen : List Tree} (deep : levelsOfItems items ≤ depth)
    (long : (layout.comma.intercalate (Tree.encodeItems layout items)).length < fuel) :
    readItems depth seen fuel
        (layout.comma.intercalate (Tree.encodeItems layout items) ++ ']' :: rest) =
      .ok (.list (seen.reverse ++ items), rest) := by
  -- An item and its comma are longer than one step, so the length bounds the steps that are left.
  induction items generalizing seen fuel with
  | nil => exact absurd rfl some
  | cons item others ih =>
      obtain ⟨fuel, rfl⟩ := Nat.exists_eq_add_one.mpr (Nat.zero_lt_of_lt long)
      rw [levelsOfItems, Nat.max_le] at deep
      have first := each item (by simp) depth fuel
      cases others with
      | nil =>
          have ends : EndsNumber (']' :: rest) := rfl
          rw [Tree.encodeItems, Tree.encodeItems, List.intercalate_singleton] at long ⊢
          rw [readItems, first _ deep.1 (by omega) ends]
          simp only [skipSpace_cons (show isSpace ']' = false from rfl)]
          simp
      | cons next more =>
          obtain ⟨blanks, comma, blank⟩ := inline.comma
          have start (tail : List Char) : skipSpace (blanks ++
              (layout.comma.intercalate (Tree.encodeItems layout (next :: more)) ++ tail)) =
                layout.comma.intercalate (Tree.encodeItems layout (next :: more)) ++ tail := by
            rw [skipSpace_append blank, Tree.encodeItems, intercalate_cons, List.append_assoc,
              skipSpace_encode proper.2.1]
          have whole : layout.comma.intercalate (Tree.encodeItems layout (item :: next :: more)) =
              item.encode layout ++ ',' :: (blanks ++
                layout.comma.intercalate (Tree.encodeItems layout (next :: more))) := by
            rw [Tree.encodeItems, Tree.encodeItems, List.intercalate_cons_cons, ← Tree.encodeItems,
              List.append_assoc, comma]
            rfl
          rw [whole] at long ⊢
          simp only [List.length_append, List.length_cons] at long
          rw [List.append_assoc, List.cons_append, List.append_assoc, readItems,
            first _ deep.1 (by omega) (show EndsNumber (',' :: _) from rfl)]
          simp only [skipSpace_cons (show isSpace ',' = false from rfl), start]
          rw [ih proper.2 (fun item member => each item (by simp [member])) (List.cons_ne_nil _ _)
            deep.2 (by omega)]
          simp

def memberText (layout : Layout) (member : List Code × Tree) : List Char :=
  encodeCodes layout.asciiOnly member.1 ++ layout.colon ++ member.2.encode layout

theorem encodeMembers_eq (layout : Layout) (members : List (List Code × Tree)) :
    encodeMembers layout members = members.map (memberText layout) := by
  induction members with
  | nil => rfl
  | cons member members ih => rw [encodeMembers, ih, List.map_cons, memberText]

theorem Tree.put_of_not_mem {key : List Code} {tree : Tree} {members : List (List Code × Tree)}
    (absent : key ∉ members.map (·.1)) : put key tree members = members ++ [(key, tree)] := by
  induction members with
  | nil => rfl
  | cons member members ih =>
      rw [List.map_cons, List.mem_cons, not_or] at absent
      have other : ¬ (member.1 == key) = true := by simpa using Ne.symm absent.1
      rw [put, if_neg other, ih absent.2, List.cons_append]

theorem readMembers_member {member : List Code × Tree} {seen : List (List Code × Tree)}
    {tail : List Char} (inline : layout.IsInline) (joined : IsJoined member.1)
    (proper : member.2.IsProper) (read : Reads layout member.2) (deep : member.2.levels ≤ depth)
    (long : (memberText layout member).length ≤ fuel) (absent : member.1 ∉ seen.map (·.1))
    (ends : EndsNumber tail) :
    readMembers depth seen (fuel + 1) (memberText layout member ++ tail) =
      match skipSpace tail with
      | '}' :: rest => .ok (.mapping (seen ++ [member]), rest)
      | ',' :: rest => readMembers depth (seen ++ [member]) fuel (skipSpace rest)
      | _ => .error .malformed := by
  obtain ⟨blanks, colon, blank⟩ := inline.colon
  have text : memberText layout member ++ tail =
      encodeCodes layout.asciiOnly member.1 ++
        ':' :: (blanks ++ (member.2.encode layout ++ tail)) := by
    simp [memberText, colon]
  simp only [memberText, List.length_append] at long
  rw [text, readMembers, string?_encodeCodes joined]
  simp only [skipSpace_cons (show isSpace ':' = false from rfl), skipSpace_append blank,
    skipSpace_encode proper, read depth fuel tail deep (by omega) ends]
  rewrite [Tree.put_of_not_mem absent]
  rfl

theorem readMembers_of_reads {members : List (List Code × Tree)} (inline : layout.IsInline)
    (proper : MembersAreProper members) (each : ∀ member ∈ members, Reads layout member.2)
    (some : members ≠ []) {seen : List (List Code × Tree)}
    (distinct : ((seen ++ members).map (·.1)).Nodup) (deep : levelsOfMembers members ≤ depth)
    (long : (layout.comma.intercalate (members.map (memberText layout))).length < fuel) :
    readMembers depth seen fuel
        (layout.comma.intercalate (members.map (memberText layout)) ++ '}' :: rest) =
      .ok (.mapping (seen ++ members), rest) := by
  induction members generalizing seen fuel with
  | nil => exact absurd rfl some
  | cons member others ih =>
      obtain ⟨fuel, rfl⟩ := Nat.exists_eq_add_one.mpr (Nat.zero_lt_of_lt long)
      rw [levelsOfMembers, Nat.max_le] at deep
      obtain ⟨joined, proper, properRest⟩ := proper
      have first := each member (by simp)
      have absent : member.1 ∉ seen.map (·.1) := by
        rw [List.map_append, List.nodup_append] at distinct
        exact fun listed => distinct.2.2 _ listed _ List.mem_cons_self rfl
      cases others with
      | nil =>
          have ends : EndsNumber ('}' :: rest) := rfl
          rw [List.map_singleton, List.intercalate_singleton] at long ⊢
          rw [readMembers_member inline joined proper first deep.1 (by omega) absent ends]
          simp only [skipSpace_cons (show isSpace '}' = false from rfl)]
      | cons next more =>
          obtain ⟨blanks, comma, blank⟩ := inline.comma
          have start (tail : List Char) : skipSpace (blanks ++
              (layout.comma.intercalate ((next :: more).map (memberText layout)) ++ tail)) =
                layout.comma.intercalate ((next :: more).map (memberText layout)) ++ tail := by
            rw [skipSpace_append blank, List.map_cons, intercalate_cons, memberText, encodeCodes]
            rfl
          have whole : layout.comma.intercalate ((member :: next :: more).map (memberText layout)) =
              memberText layout member ++ ',' :: (blanks ++
                layout.comma.intercalate ((next :: more).map (memberText layout))) := by
            rw [List.map_cons, List.map_cons, List.intercalate_cons_cons, ← List.map_cons,
              List.append_assoc, comma]
            rfl
          rw [whole] at long ⊢
          simp only [List.length_append, List.length_cons] at long
          rw [List.append_assoc, List.cons_append, List.append_assoc,
            readMembers_member inline joined proper first deep.1 (by omega) absent
              (show EndsNumber (',' :: _) from rfl)]
          simp only [skipSpace_cons (show isSpace ',' = false from rfl), start]
          rw [ih properRest (fun member listed => each member (by simp [listed]))
            (List.cons_ne_nil _ _) (by rwa [List.append_assoc, List.singleton_append]) deep.2
            (by omega)]
          simp

theorem reads_list {items : List Tree} (inline : layout.IsInline) (proper : AreProper items)
    (each : ∀ item ∈ items, Reads layout item) : Reads layout (.list items) := by
  intro depth fuel rest deep long ends
  rw [Tree.encode] at long ⊢
  rw [levels] at deep
  simp only [List.length_cons, List.length_append, List.length_nil] at long
  obtain ⟨depth, rfl⟩ := Nat.exists_eq_add_one.mpr (Nat.zero_lt_of_lt deep)
  obtain ⟨fuel, rfl⟩ := Nat.exists_eq_add_one.mpr (Nat.zero_lt_of_lt long)
  rw [List.cons_append, List.append_assoc, List.singleton_append, readTree]
  cases items with
  | nil => rfl
  | cons item others =>
      have read : readItems depth [] fuel
          (layout.comma.intercalate (Tree.encodeItems layout (item :: others)) ++ ']' :: rest) =
            .ok (.list (item :: others), rest) :=
        readItems_of_reads inline proper each (List.cons_ne_nil _ _) (Nat.le_of_succ_le_succ deep)
          (by omega)
      obtain ⟨c, cs, start, shown, other⟩ := exists_encode_cons proper.1 layout
      rw [Tree.encodeItems, intercalate_cons, start] at read ⊢
      simp only [List.cons_append] at read ⊢
      simp only [skipSpace_cons shown]
      split
      next closing => exact absurd (List.cons.inj closing).1 other
      next => exact read

theorem readTree_encode_mapping {members : List (List Code × Tree)} (inline : layout.IsInline)
    (proper : (Tree.mapping members).IsProper) (each : ∀ member ∈ members, Reads layout member.2)
    (deep : (Tree.mapping members).levels ≤ depth)
    (long : ((Tree.mapping members).encode layout).length ≤ fuel) (rest : List Char) :
    readTree depth fuel ((Tree.mapping members).encode layout ++ rest) =
      .ok (.mapping members, rest) := by
  obtain ⟨distinct, proper⟩ := proper
  rw [Tree.encode, encodeMembers_eq] at long ⊢
  rw [levels] at deep
  simp only [List.length_cons, List.length_append, List.length_nil] at long
  obtain ⟨depth, rfl⟩ := Nat.exists_eq_add_one.mpr (Nat.zero_lt_of_lt deep)
  obtain ⟨fuel, rfl⟩ := Nat.exists_eq_add_one.mpr (Nat.zero_lt_of_lt long)
  rw [List.cons_append, List.append_assoc, List.singleton_append, readTree]
  cases members with
  | nil => rfl
  | cons member others =>
      have read : readMembers depth [] fuel
          (layout.comma.intercalate ((member :: others).map (memberText layout)) ++ '}' :: rest) =
            .ok (.mapping (member :: others), rest) :=
        readMembers_of_reads inline proper each (List.cons_ne_nil _ _) distinct
          (Nat.le_of_succ_le_succ deep) (by omega)
      rw [List.map_cons, intercalate_cons, memberText, encodeCodes] at read ⊢
      simp only [List.cons_append] at read ⊢
      simp only [skipSpace_cons (show isSpace '"' = false from rfl)]
      exact read

theorem word?_number {negative : Bool} {c : Char} {more : List Char}
    (digit : isAsciiDigit c = true) : word? (signText negative ++ c :: more) = none := by
  have leads : (['n', 't', 'f', 'N', 'I', '-'].all fun d => !isAsciiDigit d) = true := by decide
  have apart : ∀ d ∈ ['n', 't', 'f', 'N', 'I', '-'], (d == c) = false := by
    intro d member
    have letter := List.all_eq_true.mp leads d member
    rw [beq_eq_false_iff_ne]
    rintro rfl
    simp [digit] at letter
  simp only [List.forall_mem_cons] at apart
  obtain ⟨null, true, false, nan, infinity, minus, _⟩ := apart
  cases negative <;>
    simp [word?, words, signText, dropLead?, null, true, false, nan, infinity, minus]

theorem readTree_scalar {c : Char} {cs : List Char} (quote : c ≠ '"') (brace : c ≠ '{')
    (bracket : c ≠ '[') (depth fuel : Nat) :
    readTree depth (fuel + 1) (c :: cs) =
      match word? (c :: cs) with
      | some result => .ok result
      | none => number? (c :: cs) := by
  unfold readTree
  split
  next same => cases same
  next same => exact absurd (List.cons.inj same).1 quote
  next same => exact absurd (List.cons.inj same).1 brace
  next same => exact absurd (List.cons.inj same).1 bracket
  next => rfl

theorem readTree_number {negative : Bool} {c : Char} {more : List Char}
    (digit : isAsciiDigit c = true) (depth fuel : Nat) :
    readTree depth (fuel + 1) (signText negative ++ c :: more) =
      number? (signText negative ++ c :: more) := by
  have none : word? (signText negative ++ c :: more) = .none := word?_number digit
  cases negative with
  | true =>
      change word? ('-' :: c :: more) = _ at none
      change readTree depth (fuel + 1) ('-' :: c :: more) = _
      rw [readTree_scalar (by decide) (by decide) (by decide), none]
      rfl
  | false =>
      have lead := of_isWordChar (p := fun c => c != '"' && (c != '{' && c != '[')) (by decide)
        (isWordChar_of_isAsciiDigit digit)
      simp only [Bool.and_eq_true, bne_iff_ne] at lead
      change word? (c :: more) = _ at none
      change readTree depth (fuel + 1) (c :: more) = _
      rw [readTree_scalar lead.1 lead.2.1 lead.2.2, none]
      rfl

mutual

/-- A tree that is written on one line is read back. -/
theorem reads_of_isProper {tree : Tree} (inline : layout.IsInline) (proper : tree.IsProper) :
    Reads layout tree := by
  -- Each text has a character, so there is a step to begin with.
  cases tree with
  | null =>
      intro depth fuel rest _ long _
      obtain ⟨fuel, rfl⟩ := Nat.exists_eq_add_one.mpr (Nat.zero_lt_of_lt long)
      rfl
  | bool b =>
      intro depth fuel rest _ long _
      cases b with
      | false =>
          obtain ⟨fuel, rfl⟩ := Nat.exists_eq_add_one.mpr (Nat.zero_lt_of_lt long)
          rfl
      | true =>
          obtain ⟨fuel, rfl⟩ := Nat.exists_eq_add_one.mpr (Nat.zero_lt_of_lt long)
          rfl
  | int n =>
      intro depth fuel rest _ long ends
      have read := number?_encodeInt proper ends
      obtain ⟨c, more, written, digit⟩ := natDigits_eq_cons n.natAbs
      rw [Tree.encode, encodeInt_eq, written] at long
      rw [Tree.encode]
      rw [encodeInt_eq, written, List.append_assoc, List.cons_append] at read ⊢
      obtain ⟨fuel, rfl⟩ := Nat.exists_eq_add_one.mpr (Nat.lt_of_lt_of_le (by simp) long)
      rw [readTree_number digit, read]
  | float x =>
      intro depth fuel rest _ long ends
      have read := number?_dataText proper ends
      obtain ⟨negative, c, more, written, digit⟩ := exists_dataText_cons proper
      rw [Tree.encode, written] at long
      rw [Tree.encode]
      rw [written, List.append_assoc, List.cons_append] at read ⊢
      obtain ⟨fuel, rfl⟩ := Nat.exists_eq_add_one.mpr (Nat.lt_of_lt_of_le (by simp) long)
      rw [readTree_number digit, read]
  | str codes =>
      intro depth fuel rest _ long _
      have read := @string?_encodeCodes layout.asciiOnly codes proper rest
      rw [Tree.encode] at long ⊢
      rw [encodeCodes] at long read ⊢
      obtain ⟨fuel, rfl⟩ := Nat.exists_eq_add_one.mpr (Nat.zero_lt_of_lt long)
      rw [List.cons_append] at read ⊢
      rw [readTree, read]
  | list items => exact reads_list inline proper (reads_items inline proper)
  | mapping members =>
      exact fun _ _ rest deep long _ =>
        readTree_encode_mapping inline proper (reads_members inline proper.2) deep long rest

theorem reads_items {items : List Tree} (inline : layout.IsInline) (proper : AreProper items) :
    ∀ item ∈ items, Reads layout item := by
  match items with
  | [] => simp
  | item :: rest =>
      exact List.forall_mem_cons.mpr ⟨reads_of_isProper inline proper.1,
        reads_items inline proper.2⟩

theorem reads_members {members : List (List Code × Tree)} (inline : layout.IsInline)
    (proper : MembersAreProper members) : ∀ member ∈ members, Reads layout member.2 := by
  match members with
  | [] => simp
  | (key, tree) :: rest =>
      exact List.forall_mem_cons.mpr ⟨reads_of_isProper inline proper.2.1,
        reads_members inline proper.2.2⟩

end

end Trees

/-! ## Values as trees -/

namespace Tree

mutual

def ofValue : Value → Tree
  | .null => .null
  | .bool b => .bool b
  | .int n => .int n
  | .float x => .float x
  | .str s => .str (Code.ofString s)
  | .list items => .list (ofValues items)
  | .mapping entries => .mapping (ofEntries entries)
  | .stamp _ | .bytes _ | .table _ | .cycle _ => .null

def ofValues : List Value → List Tree
  | [] => []
  | item :: rest => ofValue item :: ofValues rest

def ofEntries : List (String × Value) → List (List Code × Tree)
  | [] => []
  | (key, value) :: rest => (Code.ofString key, ofValue value) :: ofEntries rest

end

mutual

theorem value_ofValue {v : Value} (plain : v.isPlain = true) (apart : v.isApart = true) :
    (ofValue v).value = v := by
  cases v with
  | str s => rw [ofValue, value, Code.string_ofString]
  | list items => rw [ofValue, value, values_ofValues plain apart]
  | mapping entries =>
      rw [ofValue, value, entries_ofEntries plain apart,
        Entries.ofList_of_nodup (Value.nodup_of_entriesApart apart)]
  | stamp | bytes | table | cycle => cases plain
  | _ => rfl

theorem values_ofValues {items : List Value} (plain : Value.arePlain items = true)
    (apart : Value.areApart items = true) : values (ofValues items) = items := by
  match items with
  | [] => rfl
  | item :: rest =>
      rw [Value.arePlain, Bool.and_eq_true] at plain
      rw [Value.areApart, Bool.and_eq_true] at apart
      rw [ofValues, values, value_ofValue plain.1 apart.1, values_ofValues plain.2 apart.2]

theorem entries_ofEntries {members : Entries} (plain : Value.entriesPlain members = true)
    (apart : Value.entriesApart members = true) : entries (ofEntries members) = members := by
  match members with
  | [] => rfl
  | (key, v) :: rest =>
      rw [Value.entriesPlain, Bool.and_eq_true] at plain
      rw [Value.entriesApart, Bool.and_eq_true, Bool.and_eq_true] at apart
      rw [ofEntries, entries, Code.string_ofString, value_ofValue plain.1 apart.1.2,
        entries_ofEntries plain.2 apart.2]

end

theorem keys_ofEntries (members : Entries) :
    (ofEntries members).map (·.1) = (members.map (·.1)).map Code.ofString := by
  induction members with
  | nil => rfl
  | cons member members ih => rw [ofEntries, List.map_cons, ih, List.map_cons, List.map_cons]

mutual

theorem isProper_ofValue {v : Value} (plain : v.isPlain = true) (apart : v.isApart = true)
    (within : v.isWithin digitLimit = true) : (ofValue v).IsProper := by
  cases v with
  | int n => exact within
  | float x => exact plain
  | str s => exact isJoined_ofString s
  | list items => exact areProper_ofValues plain apart within
  | mapping members =>
      refine ⟨?_, membersAreProper_ofEntries plain apart within⟩
      rw [keys_ofEntries]
      exact (Value.nodup_of_entriesApart apart).map
        (Function.LeftInverse.injective Code.string_ofString)
  | stamp | bytes | table | cycle => cases plain
  | _ => trivial

theorem areProper_ofValues {items : List Value} (plain : Value.arePlain items = true)
    (apart : Value.areApart items = true) (within : Value.areWithin digitLimit items = true) :
    AreProper (ofValues items) := by
  match items with
  | [] => trivial
  | item :: rest =>
      rw [Value.arePlain, Bool.and_eq_true] at plain
      rw [Value.areApart, Bool.and_eq_true] at apart
      rw [Value.areWithin, Bool.and_eq_true] at within
      exact ⟨isProper_ofValue plain.1 apart.1 within.1,
        areProper_ofValues plain.2 apart.2 within.2⟩

theorem membersAreProper_ofEntries {members : Entries}
    (plain : Value.entriesPlain members = true) (apart : Value.entriesApart members = true)
    (within : Value.entriesWithin digitLimit members = true) :
    MembersAreProper (ofEntries members) := by
  match members with
  | [] => trivial
  | (key, v) :: rest =>
      rw [Value.entriesPlain, Bool.and_eq_true] at plain
      rw [Value.entriesApart, Bool.and_eq_true, Bool.and_eq_true] at apart
      rw [Value.entriesWithin, Bool.and_eq_true] at within
      exact ⟨isJoined_ofString key, isProper_ofValue plain.1 apart.1.2 within.1,
        membersAreProper_ofEntries plain.2 apart.2 within.2⟩

end

end Tree

section Values

variable {layout : Layout}

def entryText (layout : Layout) (level : Nat) (entry : String × Value) : List Char :=
  encodeString layout.asciiOnly entry.1 ++ layout.colon ++ encode layout level entry.2

theorem encodeEntries_eq (layout : Layout) (level : Nat) (entries : Entries) :
    encodeEntries layout level entries =
      entries.map fun entry => (entry.1, entryText layout level entry) := by
  induction entries with
  | nil => rfl
  | cons entry entries ih => rw [encodeEntries, ih, List.map_cons, entryText]

mutual

/-- On one line a value is written as its tree is. -/
theorem encode_eq {v : Value} (inline : layout.IsInline) (plain : v.isPlain = true) (level : Nat) :
    encode layout level v = (Tree.ofValue v).encode layout := by
  cases v with
  | bool b => cases b <;> rfl
  | str s => rw [encode, encodeString_eq, Tree.ofValue, Tree.encode]
  | list items =>
      rw [encode, layout.block_inline inline.indent, encodeItems_ofValues inline plain,
        Tree.ofValue, Tree.encode]
  | mapping entries =>
      simp only [encode, inline.unsorted, Bool.false_eq_true, if_false,
        layout.block_inline inline.indent, texts_ofEntries inline plain, Tree.ofValue, Tree.encode]
  | stamp | bytes | table | cycle => cases plain
  | _ => rfl

theorem encodeItems_ofValues {items : List Value} (inline : layout.IsInline)
    (plain : Value.arePlain items = true) (level : Nat) :
    encodeItems layout level items = Tree.encodeItems layout (Tree.ofValues items) := by
  match items with
  | [] => rfl
  | item :: rest =>
      rw [Value.arePlain, Bool.and_eq_true] at plain
      rw [encodeItems, encode_eq inline plain.1, encodeItems_ofValues inline plain.2,
        Tree.ofValues, Tree.encodeItems]

theorem texts_ofEntries {entries : Entries} (inline : layout.IsInline)
    (plain : Value.entriesPlain entries = true) (level : Nat) :
    (encodeEntries layout level entries).map (·.2) =
      Tree.encodeMembers layout (Tree.ofEntries entries) := by
  match entries with
  | [] => rfl
  | (key, value) :: rest =>
      rw [Value.entriesPlain, Bool.and_eq_true] at plain
      rw [encodeEntries, List.map_cons, encode_eq inline plain.1, encodeString_eq,
        texts_ofEntries inline plain.2, Tree.ofEntries, Tree.encodeMembers]

end

end Values

end StillMotion.Json
