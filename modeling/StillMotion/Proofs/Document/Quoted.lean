import StillMotion.Document.ScalarText
import StillMotion.Proofs.Data.JsonText
import StillMotion.Proofs.Document.Cursor

/-!
# Quoted texts are read back

A text is written between quotes, all but printable ASCII escaped.  The escapes of JSON mean the
same in a quoted scalar, so the text is read back, but for characters beyond sixteen bits, whose
two escapes need not be joined.
-/

namespace StillMotion.Document

open StillMotion.Text StillMotion.Json

variable {ch : Char} {c c' : Cursor} {more tail : List Char}

/-! ## Escapes -/

def isBasic (ch : Char) : Bool := ch.toNat < 0x10000

theorem codeOf?_unicodeEscape {n : Nat} (h : n < 0x10000)
    (here : c.rest = [hexDigit (n / 4096 % 16), hexDigit (n / 256 % 16), hexDigit (n / 16 % 16),
      hexDigit (n % 16)] ++ more) : codeOf? 4 c = some n := by
  have value (k : Nat) : hexValue? (hexDigit (k % 16)) = some (k % 16) :=
    hexValue?_hexDigit (Nat.mod_lt k (by decide))
  rw [codeOf?, here]
  simp [value, baseValue]
  omega

theorem codePoint_toNat (ch : Char) : codePoint ch.toNat = .ok (.char ch) := by
  have valid : ch.toNat < 0xD800 ∨ 0xDFFF < ch.toNat ∧ ch.toNat < 0x110000 := ch.valid
  rw [codePoint, if_neg (by omega), if_neg (by omega)]
  exact congrArg Except.ok (Code.ofNat_toNat (.char ch))

def isShown (ch : Char) : Bool := 32 < ch.toNat && ch.toNat ≤ 126

theorem encodeChar_cases (basic : isBasic ch = true) :
    (∃ e entry, encodeChar true ch = ['\\', e] ∧ isShown e = true ∧
      letterEscapes.find? (fun entry => entry.1 == e) = some entry ∧ Char.ofNat entry.2 = ch) ∨
    encodeChar true ch = unicodeEscape ch.toNat ∨
    encodeChar true ch = [ch] ∧ (ch = ' ' ∨ isShown ch = true ∧ ch ≠ '"' ∧ ch ≠ '\\') := by
  have code {n : Nat} (same : (ch.toNat == n) = true) : Char.ofNat n = ch := by
    rw [← beq_iff_eq.mp same, Char.ofNat_toNat]
  unfold encodeChar
  split
  next quote => exact .inl ⟨'"', ('"', 34), rfl, rfl, rfl, (beq_iff_eq.mp quote).symm⟩
  split
  next slash => exact .inl ⟨'\\', ('\\', 92), rfl, rfl, rfl, (beq_iff_eq.mp slash).symm⟩
  split
  next line => exact .inl ⟨'n', ('n', 10), rfl, rfl, rfl, (beq_iff_eq.mp line).symm⟩
  split
  next start => exact .inl ⟨'r', ('r', 13), rfl, rfl, rfl, (beq_iff_eq.mp start).symm⟩
  split
  next tab => exact .inl ⟨'t', ('t', 9), rfl, rfl, rfl, (beq_iff_eq.mp tab).symm⟩
  split
  next feed => exact .inl ⟨'f', ('f', 12), rfl, rfl, rfl, code feed⟩
  split
  next back => exact .inl ⟨'b', ('b', 8), rfl, rfl, rfl, code back⟩
  split
  next control => exact .inr (.inl rfl)
  next quote slash _ _ _ _ _ above =>
  split
  next high =>
      refine .inr (.inl ?_)
      rw [escapeChar, if_pos (by simpa [isBasic] using basic)]
  next low =>
      refine .inr (.inr ⟨rfl, ?_⟩)
      have most : ch.toNat ≤ 126 := by simpa using low
      rcases Nat.lt_or_eq_of_le (Nat.le_of_not_lt above) with more | space
      · exact .inr ⟨by simp [isShown, more, most], by simpa using quote, by simpa using slash⟩
      · exact .inl (Char.toNat_inj.mp (show ch.toNat = (' ' : Char).toNat from space.symm))

theorem isShown_hexDigit (n : Nat) : isShown (hexDigit (n % 16)) = true := by
  have each : ∀ k : Fin 16, isShown (hexDigit k) = true := by decide
  exact each ⟨n % 16, Nat.mod_lt n (by decide)⟩

theorem isShown_of_mem_encodeChar (basic : isBasic ch = true) (other : ch ≠ ' ') {d : Char}
    (member : d ∈ encodeChar true ch) : isShown d = true := by
  rcases encodeChar_cases basic with ⟨e, _, written, shown, -⟩ | written | ⟨written, itself⟩
  · rw [written] at member
    simp only [List.mem_cons, List.not_mem_nil, or_false] at member
    rcases member with rfl | rfl
    · rfl
    · exact shown
  · rw [written, unicodeEscape] at member
    simp only [List.mem_cons, List.not_mem_nil, or_false] at member
    rcases member with rfl | rfl | rfl | rfl | rfl | rfl
    · rfl
    · rfl
    all_goals exact isShown_hexDigit _
  · rw [written, List.mem_singleton] at member
    subst member
    exact (itself.resolve_left other).1

theorem isBlank_of_isShown (shown : isShown ch = true) :
    isSpaceOrTab ch = false ∧ isBreak ch = false := by
  rw [isShown, Bool.and_eq_true, decide_eq_true_eq, decide_eq_true_eq] at shown
  have other {d : Char} (far : d.toNat ≤ 32) : (ch == d) = false := by
    rw [beq_eq_false_iff_ne]
    rintro rfl
    omega
  have code {n : Nat} (far : 126 < n) : (ch.toNat == n) = false := by
    rw [beq_eq_false_iff_ne]
    omega
  constructor
  · rw [isSpaceOrTab, other (by decide), other (by decide), Bool.or_self]
  · rw [isBreak, other (by decide), code (by decide), code (by decide), code (by decide)]
    rfl

theorem unbroken_encodeChar (basic : isBasic ch = true) :
    ∀ d ∈ encodeChar true ch, isBreak d = false := by
  intro d member
  by_cases space : ch = ' '
  · subst space
    rw [List.mem_singleton.mp member]
    rfl
  · exact (isBlank_of_isShown (isShown_of_mem_encodeChar basic space member)).2

/-! ## Bodies -/

def prepend (codes : List Code) (outcome : Except Fault (List Code × Cursor)) :
    Except Fault (List Code × Cursor) :=
  outcome.map fun read => (codes ++ read.1, read.2)

theorem prepend_eq (codes : List Code) (outcome : Except Fault (List Code × Cursor)) :
    (do
      let (rest, c) ← outcome
      .ok (codes ++ rest, c)) = prepend codes outcome := by
  cases outcome <;> rfl

theorem quotedBody_letter {fuel : Nat} {e : Char} {entry : Char × Nat}
    (here : c.rest = ['\\', e] ++ more)
    (found : letterEscapes.find? (fun entry => entry.1 == e) = some entry) :
    quotedBody true (fuel + 1) c =
      prepend [.char (Char.ofNat entry.2)] (quotedBody true fuel c.next.next) := by
  have first : c.here = some '\\' := Cursor.here_of_rest here
  have second : c.next.here = some e := Cursor.here_of_rest (by rw [Cursor.rest_next, here]; rfl)
  rw [quotedBody]
  simp only [first, second, found, prepend_eq]
  rfl

theorem quotedBody_code {fuel : Nat} (basic : isBasic ch = true)
    (here : c.rest = unicodeEscape ch.toNat ++ more) :
    quotedBody true (fuel + 1) c = prepend [.char ch] (quotedBody true fuel (c.skip 6)) := by
  have first : c.here = some '\\' := Cursor.here_of_rest here
  have second : c.next.here = some 'u' := Cursor.here_of_rest (by rw [Cursor.rest_next, here]; rfl)
  have code : codeOf? 4 c.next.next = some ch.toNat := by
    have digits : c.next.next.rest = (unicodeEscape ch.toNat).drop 2 ++ more := by
      rw [Cursor.rest_next, Cursor.rest_next, here]
      rfl
    exact codeOf?_unicodeEscape (by simpa [isBasic] using basic) digits
  have letter : letterEscapes.find? (fun entry => entry.1 == 'u') = none := rfl
  have digits : codeEscapes.find? (fun entry => entry.1 == 'u') = some ('u', 4) := rfl
  rw [quotedBody]
  simp only [first, second, letter, digits, code, codePoint_toNat, prepend_eq]
  rfl

theorem quotedBody_shown {fuel : Nat} (here : c.rest = ch :: more) (shown : isShown ch = true)
    (quote : ch ≠ '"') (slash : ch ≠ '\\') :
    quotedBody true (fuel + 1) c = prepend [.char ch] (quotedBody true fuel c.next) := by
  have first : c.here = some ch := Cursor.here_of_rest here
  have blank : (isSpaceOrTab ch || isBreak ch) = false := by
    rw [(isBlank_of_isShown shown).1, (isBlank_of_isShown shown).2, Bool.or_self]
  rw [quotedBody]
  simp only [first, blank, prepend_eq, beq_eq_false_iff_ne.mpr quote,
    beq_eq_false_iff_ne.mpr slash, Bool.false_eq_true, if_false, if_true]

theorem quotedBody_end {fuel : Nat} (here : c.rest = '"' :: more) :
    quotedBody true (fuel + 1) c = .ok ([], c.next) := by
  have first : c.here = some '"' := Cursor.here_of_rest here
  rw [quotedBody]
  simp only [first]
  rfl

theorem quotedBody_spaces {fuel : Nat} {spaces : List Char} (some : spaces ≠ [])
    (blank : ∀ ch ∈ spaces, ch = ' ') (here : c.rest = spaces ++ ch :: more)
    (shown : isSpaceOrTab ch = false) (unbroken : isBreak ch = false) :
    quotedBody true (fuel + 1) c =
      prepend (spaces.map .char) (quotedBody true fuel (c.skip spaces.length)) := by
  have first : c.here = Option.some ' ' := by
    rcases spaces with _ | ⟨space, rest⟩
    · exact absurd rfl some
    · rw [Cursor.here_of_rest here, blank space (by simp)]
  have run : c.span isSpaceOrTab = (spaces, c.skip spaces.length) := by
    have taken : (spaces ++ ch :: more).takeWhile isSpaceOrTab = spaces := by
      rw [List.takeWhile_append_of_pos fun space member => by rw [blank space member]; rfl,
        List.takeWhile_cons, if_neg (by simp [shown]), List.append_nil]
    rw [Cursor.span, here, taken]
  have next : (c.skip spaces.length).here = Option.some ch :=
    Cursor.here_of_rest (by rw [Cursor.rest_skip, here, List.drop_left])
  have noBreak : (c.skip spaces.length).lineBreak? = none := by
    simp [Cursor.lineBreak?, next, unbroken]
  rw [quotedBody]
  simp only [first, run, next, noBreak, prepend_eq]
  rfl

/-! ## Texts -/

theorem quotedBody_char (basic : isBasic ch = true) (other : ch ≠ ' ')
    (here : c.rest = encodeChar true ch ++ more) :
    ∃ c', c.Passes (encodeChar true ch) c' ∧
      ∀ fuel, quotedBody true (fuel + 1) c = prepend [.char ch] (quotedBody true fuel c') := by
  refine ⟨c.skip (encodeChar true ch).length,
    Cursor.passes_skip here (unbroken_encodeChar basic), fun fuel => ?_⟩
  rcases encodeChar_cases basic with ⟨e, entry, written, -, found, same⟩ | written |
    ⟨written, itself⟩
  · rw [written] at here ⊢
    rw [quotedBody_letter here found, same]
    rfl
  · rw [written] at here ⊢
    rw [quotedBody_code basic here]
    rfl
  · rw [written] at here ⊢
    obtain ⟨shown, quote, slash⟩ := itself.resolve_left other
    rw [quotedBody_shown here shown quote slash]
    rfl

theorem flatMap_spaces {spaces : List Char} (blank : ∀ ch ∈ spaces, ch = ' ') :
    spaces.flatMap (encodeChar true) = spaces := by
  induction spaces with
  | nil => rfl
  | cons ch spaces ih =>
      rw [List.flatMap_cons, ih fun d member => blank d (by simp [member]), blank ch (by simp)]
      rfl

theorem exists_shown {cs : List Char} (basic : ∀ ch ∈ cs, isBasic ch = true)
    (lead : cs.head? ≠ some ' ') (tail : List Char) :
    ∃ d more, cs.flatMap (encodeChar true) ++ '"' :: tail = d :: more ∧ isShown d = true := by
  rcases cs with _ | ⟨ch, rest⟩
  · exact ⟨'"', tail, rfl, rfl⟩
  · have other : ch ≠ ' ' := by simpa using lead
    rcases written : encodeChar true ch with _ | ⟨d, more⟩
    · exact absurd written (encodeChar_ne_nil true ch)
    · refine ⟨d, more ++ (rest.flatMap (encodeChar true) ++ '"' :: tail), ?_,
        isShown_of_mem_encodeChar (basic ch (by simp)) other (by simp [written])⟩
      simp [written]

theorem exists_spaces (cs : List Char) : ∃ spaces after, cs = spaces ++ after ∧
    (∀ ch ∈ spaces, ch = ' ') ∧ after.head? ≠ some ' ' := by
  induction cs with
  | nil => exact ⟨[], [], rfl, by simp, by simp⟩
  | cons ch cs ih =>
      by_cases space : ch = ' '
      · obtain ⟨spaces, after, rfl, blank, lead⟩ := ih
        exact ⟨ch :: spaces, after, rfl, by simpa [space] using blank, lead⟩
      · exact ⟨[], ch :: cs, rfl, by simp, by simpa using space⟩

theorem quotedBody_encode {cs : List Char} (basic : ∀ ch ∈ cs, isBasic ch = true)
    (here : c.rest = cs.flatMap (encodeChar true) ++ '"' :: tail) {fuel : Nat}
    (enough : cs.length < fuel) :
    ∃ c', quotedBody true fuel c = .ok (cs.map .char, c') ∧
      c.Passes (cs.flatMap (encodeChar true) ++ ['"']) c' := by
  -- The induction is on the length, for a run of spaces is read at once.
  induction length : cs.length using Nat.strongRecOn generalizing cs c fuel with
  | ind n ih =>
      subst length
      obtain ⟨fuel, rfl⟩ := Nat.exists_eq_add_one.mpr (Nat.zero_lt_of_lt enough)
      obtain ⟨spaces, after, rfl, blank, lead⟩ := exists_spaces cs
      rw [List.length_append] at enough ih
      rw [List.flatMap_append, flatMap_spaces blank, List.append_assoc] at here ⊢
      have basic' : ∀ ch ∈ after, isBasic ch = true := fun ch member => basic ch (by simp [member])
      by_cases none : spaces = []
      · subst none
        rcases after with _ | ⟨ch, rest⟩
        · exact ⟨c.next, quotedBody_end here, Cursor.passes_next here rfl⟩
        · have other : ch ≠ ' ' := by simpa using lead
          have here' : c.rest = encodeChar true ch ++
              (rest.flatMap (encodeChar true) ++ '"' :: tail) := by simpa using here
          obtain ⟨c₁, passed, read⟩ := quotedBody_char (basic' ch (by simp)) other here'
          obtain ⟨c', body, passed'⟩ := ih rest.length (by simp)
            (fun d member => basic' d (by simp [member])) (passed.rest_eq here')
            (by simpa using enough) rfl
          refine ⟨c', by rw [List.nil_append, read fuel, body]; rfl, ?_⟩
          simpa using passed.trans passed'
      · obtain ⟨d, more, written, shown⟩ := exists_shown basic' lead tail
        obtain ⟨solid, unbroken⟩ := isBlank_of_isShown shown
        have passed := Cursor.passes_skip here fun ch member => by rw [blank ch member]; rfl
        have positive := List.length_pos_iff.mpr none
        have enough' : after.length < fuel := by omega
        obtain ⟨c', body, passed'⟩ := ih after.length (by omega) basic' (passed.rest_eq here)
          enough' rfl
        rw [written] at here
        refine ⟨c', ?_, ?_⟩
        · rw [quotedBody_spaces none blank here solid unbroken, body, List.map_append]
          rfl
        · simpa using passed.trans passed'

def isBasicText (s : String) : Bool := s.toList.all isBasic

theorem quotedScalar_encodeString {s : String} (basic : isBasicText s = true)
    (here : c.rest = encodeString true s ++ tail) :
    ∃ c', quotedScalar c = .ok (s, c') ∧ c.Passes (encodeString true s) c' := by
  have each : ∀ ch ∈ s.toList, isBasic ch = true := List.all_eq_true.mp basic
  have long := length_le_flatMap (encodeChar_ne_nil true) s.toList
  have rest : c.next.rest = s.toList.flatMap (encodeChar true) ++ '"' :: tail := by
    rw [Cursor.rest_next, here]
    simp [encodeString]
  have enough : s.toList.length < c.rest.length := by
    rw [here]
    simp only [encodeString, List.cons_append, List.length_cons, List.length_append]
    omega
  obtain ⟨c', body, passed⟩ := quotedBody_encode each rest enough
  have first : (c.here == some '"') = true := by
    rw [Cursor.here_of_rest here]
    rfl
  refine ⟨c', ?_, (Cursor.passes_next here rfl).trans passed⟩
  rw [quotedScalar, first, body]
  change Except.ok (Code.string (Code.ofString s), c') = _
  rw [Code.string_ofString]

end StillMotion.Document
