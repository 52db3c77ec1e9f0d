import StillMotion.Proofs.Data.JsonText

/-!
# The grammar of JSON

What a text may begin with, said without a reader: a word, a string, a number, a list or a mapping,
and what follows.  Nothing in it says how far to read.  Inside a list or a mapping that is settled
by the sign behind each value; only a number at the very end can be read in more than one way.

The reader follows the grammar.  What it returns is there, what is there it returns, and it gives up
on a text that is not malformed only where reading comes to more levels or more digits than allowed.
-/

namespace StillMotion.Json

open StillMotion.Number StillMotion.Text

/-! ## Strings -/

/-- The escape of the second half of a pair comes next behind the first half. -/
inductive IsPaired (high : Nat) : List Char → Nat → List Char → Prop where
  | intro {low : Nat} {cs rest : List Char} (first : isHighHalf high = true)
      (code : hex4? cs = some (low, rest)) (second : isLowHalf low = true) :
      IsPaired high ('\\' :: 'u' :: cs) low rest

/-- A text begins with the digits of a code.  Two halves of a pair are one code; any other half
stands for itself. -/
inductive Coded (cs : List Char) : Code → List Char → Prop where
  | single {n : Nat} {rest : List Char} (code : hex4? cs = some (n, rest))
      (alone : ∀ low after, ¬ IsPaired n rest low after) : Coded cs (.ofNat n) rest
  | pair {high low : Nat} {more rest : List Char} (code : hex4? cs = some (high, more))
      (paired : IsPaired high more low rest) : Coded cs (.char (ofPair high low)) rest

inductive Spelled : List Char → List Code → List Char → Prop where
  | close (rest : List Char) : Spelled ('"' :: rest) [] rest
  | plain {c : Char} {codes : List Code} {more rest : List Char} (quote : c ≠ '"')
      (slash : c ≠ '\\') (shown : ¬ c.toNat < 32) (later : Spelled more codes rest) :
      Spelled (c :: more) (.char c :: codes) rest
  | escape {e c : Char} {codes : List Code} {more rest : List Char}
      (read : simpleEscape? e = some c) (later : Spelled more codes rest) :
      Spelled ('\\' :: e :: more) (.char c :: codes) rest
  | code {code : Code} {codes : List Code} {more after rest : List Char}
      (read : Coded more code after) (later : Spelled after codes rest) :
      Spelled ('\\' :: 'u' :: more) (code :: codes) rest

inductive Quoted : List Char → List Code → List Char → Prop where
  | intro {more rest : List Char} {codes : List Code} (inside : Spelled more codes rest) :
      Quoted ('"' :: more) codes rest

section Strings

variable {high low n : Nat} {code : Code} {codes : List Code} {cs more rest : List Char}

theorem hex4?_length (h : hex4? cs = some (n, rest)) : cs.length = rest.length + 4 := by
  unfold hex4? at h
  split at h
  next =>
      simp only [Option.bind_eq_bind, Option.bind_eq_some_iff, Option.some.injEq,
        Prod.mk.injEq] at h
      obtain ⟨_, _, _, _, _, _, _, _, -, rfl⟩ := h
      rfl
  next => cases h

theorem secondHalf?_iff : secondHalf? high cs = some (low, rest) ↔ IsPaired high cs low rest := by
  unfold secondHalf?
  split
  next cs =>
      rw [Option.filter_eq_some_iff, Bool.and_eq_true]
      constructor
      · rintro ⟨code, first, second⟩
        exact .intro first code second
      · rintro ⟨first, code, second⟩
        exact ⟨code, first, second⟩
  next other =>
      refine iff_of_false nofun ?_
      rintro ⟨first, code, second⟩
      exact other _ rfl

theorem codeEscape?_iff : codeEscape? cs = some (code, rest) ↔ Coded cs code rest := by
  constructor
  · intro h
    obtain ⟨⟨n, after⟩, read, h⟩ := Option.bind_eq_some_iff.mp h
    dsimp only at h
    split at h
    next low tail paired =>
        cases h
        exact .pair read (secondHalf?_iff.mp paired)
    next alone =>
        cases h
        refine .single read fun low after paired => ?_
        rw [secondHalf?_iff.mpr paired] at alone
        cases alone
  · rintro (⟨read, alone⟩ | ⟨read, paired⟩)
    · refine codeEscape?_single read (Option.eq_none_iff_forall_ne_some.mpr ?_)
      rintro ⟨low, after⟩ paired
      exact alone low after (secondHalf?_iff.mp paired)
    · exact codeEscape?_pair read (secondHalf?_iff.mpr paired)

theorem Coded.length_lt (coded : Coded cs code rest) : rest.length < cs.length := by
  rcases coded with ⟨code, -⟩ | ⟨code, paired⟩
  · have long := hex4?_length code
    omega
  · obtain ⟨-, second, -⟩ := paired
    have long := hex4?_length code
    have tail := hex4?_length second
    simp only [List.length_cons] at long
    omega

theorem Spelled.length_lt (spelled : Spelled cs codes rest) : rest.length < cs.length := by
  induction spelled with
  | close rest => simp
  | plain _ _ _ _ ih => exact Nat.lt_succ_of_lt ih
  | escape _ _ ih => exact Nat.lt_succ_of_lt (Nat.lt_succ_of_lt ih)
  | code read _ ih => exact Nat.lt_succ_of_lt (Nat.lt_succ_of_lt (ih.trans read.length_lt))

theorem spelled_of_stringBody? {seen : List Code} {fuel : Nat}
    (h : stringBody? seen fuel cs = some (codes, rest)) :
    ∃ later, codes = seen.reverse ++ later ∧ Spelled cs later rest := by
  induction fuel generalizing seen cs with
  | zero => cases h
  | succ fuel ih =>
      have taken {code : Code} {after : List Char} (next : stringBody? (code :: seen) fuel after =
          some (codes, rest)) : ∃ later, codes = seen.reverse ++ code :: later ∧
            Spelled after later rest := by
        obtain ⟨later, rfl, spelled⟩ := ih next
        exact ⟨later, by simp, spelled⟩
      cases cs with
      | nil => cases h
      | cons c more =>
          unfold stringBody? at h
          split at h
          next quote =>
              cases h
              rw [beq_iff_eq] at quote
              exact ⟨[], by simp, quote ▸ .close _⟩
          next noQuote =>
          split at h
          next slash =>
              rw [beq_iff_eq] at slash
              subst slash
              split at h
              next => cases h
              next e tail =>
                  split at h
                  next letter =>
                      rw [beq_iff_eq] at letter
                      subst letter
                      split at h
                      next code after read =>
                          obtain ⟨later, same, spelled⟩ := taken h
                          exact ⟨code :: later, same, .code (codeEscape?_iff.mp read) spelled⟩
                      next => cases h
                  next =>
                      split at h
                      next d read =>
                          obtain ⟨later, same, spelled⟩ := taken h
                          exact ⟨.char d :: later, same, .escape read spelled⟩
                      next => cases h
          next noSlash =>
          split at h
          next => cases h
          next shown =>
              obtain ⟨later, same, spelled⟩ := taken h
              exact ⟨.char c :: later, same, .plain (by simpa using noQuote)
                (by simpa using noSlash) shown spelled⟩

theorem Spelled.stringBody? (spelled : Spelled cs codes rest) (seen : List Code) {fuel : Nat}
    (enough : cs.length < fuel) :
    stringBody? seen fuel cs = some (seen.reverse ++ codes, rest) := by
  have slash : ('\\' == '"') = false := rfl
  induction spelled generalizing seen fuel with
  | close rest =>
      obtain ⟨fuel, rfl⟩ := Nat.exists_eq_add_one.mpr (Nat.zero_lt_of_lt enough)
      simp [Json.stringBody?]
  | @plain c codes more rest noQuote noSlash shown _ ih =>
      obtain ⟨fuel, rfl⟩ := Nat.exists_eq_add_one.mpr (Nat.zero_lt_of_lt enough)
      simp only [Json.stringBody?, beq_eq_false_iff_ne.mpr noQuote, beq_eq_false_iff_ne.mpr noSlash,
        shown, Bool.false_eq_true, if_false]
      rw [ih (.char c :: seen) (by simpa using enough)]
      simp
  | @escape e c codes more rest read _ ih =>
      obtain ⟨fuel, rfl⟩ := Nat.exists_eq_add_one.mpr (Nat.zero_lt_of_lt enough)
      have letter : (e == 'u') = false := by
        rw [beq_eq_false_iff_ne]
        rintro rfl
        cases read
      simp only [List.length_cons] at enough
      simp only [Json.stringBody?, slash, beq_self_eq_true, letter, read, Bool.false_eq_true,
        if_false, if_true]
      rw [ih (.char c :: seen) (by omega)]
      simp
  | @code code codes more after rest read _ ih =>
      obtain ⟨fuel, rfl⟩ := Nat.exists_eq_add_one.mpr (Nat.zero_lt_of_lt enough)
      have less := read.length_lt
      simp only [List.length_cons] at enough
      simp only [Json.stringBody?, slash, beq_self_eq_true, codeEscape?_iff.mpr read,
        Bool.false_eq_true, if_false, if_true]
      rw [ih (code :: seen) (by omega)]
      simp

theorem string?_iff : string? cs = some (codes, rest) ↔ Quoted cs codes rest := by
  constructor
  · intro h
    unfold string? at h
    split at h
    next =>
        obtain ⟨codes, rfl, spelled⟩ := spelled_of_stringBody? h
        exact .intro spelled
    next => cases h
  · rintro ⟨spelled⟩
    exact spelled.stringBody? [] (Nat.lt_succ_self _)

theorem Quoted.length_lt (quoted : Quoted cs codes rest) : rest.length < cs.length := by
  obtain ⟨spelled⟩ := quoted
  exact Nat.lt_succ_of_lt spelled.length_lt

end Strings

/-! ## Numbers -/

structure IsWhole (digits : List Char) : Prop where
  digit : digits.all isAsciiDigit = true
  present : digits ≠ []
  lead : digits.head? = some '0' → digits = ['0']

inductive Fraction : List Char → Option (List Char) → List Char → Prop where
  | absent (cs : List Char) : Fraction cs none cs
  | given {digits rest : List Char} (digit : digits.all isAsciiDigit = true)
      (present : digits ≠ []) : Fraction ('.' :: (digits ++ rest)) (some digits) rest

inductive Exponent : List Char → Option Int → List Char → Prop where
  | absent (cs : List Char) : Exponent cs none cs
  | given {mark : Char} {sign digits rest : List Char} (marked : mark = 'e' ∨ mark = 'E')
      (signed : sign ∈ [[], ['+'], ['-']]) (digit : digits.all isAsciiDigit = true)
      (present : digits ≠ []) :
      Exponent (mark :: (sign ++ (digits ++ rest)))
        (some (if sign = ['-'] then -(digitsValue digits : Int) else digitsValue digits)) rest

def Tree.isMapping : Tree → Bool
  | .mapping _ => true
  | _ => false

/-- A text begins with a number, which is an integer without a fraction and an exponent. -/
inductive Numeral : List Char → Tree → List Char → Prop where
  | integer {whole rest : List Char} (negative : Bool) (isWhole : IsWhole whole) :
      Numeral (signText negative ++ (whole ++ rest))
        (.int (if negative then -(digitsValue whole : Int) else digitsValue whole)) rest
  | real {whole tail more rest : List Char} {fraction : Option (List Char)} {exponent : Option Int}
      (negative : Bool) (isWhole : IsWhole whole) (first : Fraction tail fraction more)
      (second : Exponent more exponent rest)
      (given : (fraction.isNone && exponent.isNone) = false) :
      Numeral (signText negative ++ (whole ++ tail))
        (.float (ofDecimal negative (whole ++ fraction.getD [])
          (exponent.getD 0 - (fraction.getD []).length))) rest

/-- A text begins with an integer that has more digits than are read. -/
def IsOverlong (cs : List Char) : Prop :=
  ∃ negative whole rest, cs = signText negative ++ (whole ++ rest) ∧ IsWhole whole ∧
    digitLimit < whole.length ∧ rest.head?.all (fun c => !isAsciiDigit c) = true ∧
    (∀ fraction more, Fraction rest fraction more → fraction = none) ∧
    ∀ exponent more, Exponent rest exponent more → exponent = none

section Numbers

variable {c : Char} {tree : Tree} {cs digits whole tail more rest : List Char}
  {fraction : Option (List Char)} {exponent : Option Int}

theorem noDigit_dropWhile (cs : List Char) :
    (cs.dropWhile isAsciiDigit).head?.all (fun c => !isAsciiDigit c) = true := by
  have shown := List.head?_dropWhile_not isAsciiDigit cs
  cases first : (cs.dropWhile isAsciiDigit).head? with
  | none => rfl
  | some c =>
      rw [first] at shown
      simpa using shown

theorem exists_cons_of_digits (digit : digits.all isAsciiDigit = true) (present : digits ≠ []) :
    ∃ d ds, digits = d :: ds ∧ isAsciiDigit d = true := by
  obtain ⟨d, ds, rfl⟩ := List.exists_cons_of_ne_nil present
  exact ⟨d, ds, rfl, List.all_eq_true.mp digit d List.mem_cons_self⟩

theorem IsWhole.exists_cons (isWhole : IsWhole whole) :
    ∃ c cs, whole = c :: cs ∧ isAsciiDigit c = true :=
  exists_cons_of_digits isWhole.digit isWhole.present

/-! ### Parts of numbers -/

theorem wholePart?_eq_some (h : wholePart? cs = some (whole, rest)) :
    cs = whole ++ rest ∧ IsWhole whole ∧
      (1 < whole.length → rest.head?.all (fun c => !isAsciiDigit c) = true) := by
  unfold wholePart? at h
  split at h
  next =>
      cases h
      exact ⟨rfl, ⟨rfl, by simp, by simp⟩, by simp⟩
  next c more other =>
      obtain ⟨digit, h⟩ := Option.ite_none_right_eq_some.mp h
      obtain ⟨rfl, rfl⟩ := Prod.mk.inj (Option.some.inj h)
      refine ⟨List.takeWhile_append_dropWhile.symm, ⟨List.all_takeWhile, ?_, ?_⟩,
        fun _ => noDigit_dropWhile _⟩
      · simp [digit]
      · intro zero
        rw [List.takeWhile_cons_of_pos digit, List.head?_cons, Option.some_inj] at zero
        exact absurd zero other
  next => cases h

theorem Fraction.cases_eq (first : Fraction cs fraction rest) :
    fraction = none ∧ rest = cs ∨ ∃ digits, fraction = some digits ∧ cs = '.' :: (digits ++ rest) ∧
      digits.all isAsciiDigit = true ∧ digits ≠ [] := by
  cases first with
  | absent => exact .inl ⟨rfl, rfl⟩
  | given digit present => exact .inr ⟨_, rfl, rfl, digit, present⟩

theorem fractionPart_spec (cs : List Char) :
    Fraction cs (fractionPart cs).1 (fractionPart cs).2 ∧ ((fractionPart cs).1 = none →
      ∀ fraction more, Fraction cs fraction more → fraction = none) := by
  have onlyThere (nowhere : ∀ d ds, isAsciiDigit d = true → cs ≠ '.' :: d :: ds) :
      ∀ fraction more, Fraction cs fraction more → fraction = none := by
    intro fraction more first
    rcases first.cases_eq with ⟨rfl, -⟩ | ⟨digits, -, same, digit, present⟩
    · rfl
    · obtain ⟨d, ds, rfl, first⟩ := exists_cons_of_digits digit present
      exact absurd same (nowhere d _ first)
  unfold fractionPart
  split
  next d ds =>
      split
      next digit =>
          refine ⟨?_, nofun⟩
          have given : Fraction ('.' :: ((d :: ds).takeWhile isAsciiDigit ++
              (d :: ds).dropWhile isAsciiDigit)) _ _ :=
            .given List.all_takeWhile (by simp [digit])
          rwa [List.takeWhile_append_dropWhile] at given
      next noDigit =>
          refine ⟨.absent _, fun _ => onlyThere ?_⟩
          rintro d ds digit same
          cases same
          exact noDigit digit
  next other =>
      refine ⟨.absent _, fun _ => onlyThere ?_⟩
      rintro d ds - same
      exact other d ds same

theorem Exponent.cases_eq (second : Exponent cs exponent rest) :
    exponent = none ∧ rest = cs ∨ ∃ mark sign digits,
      exponent = some (if sign = ['-'] then -(digitsValue digits : Int) else digitsValue digits) ∧
      cs = mark :: (sign ++ (digits ++ rest)) ∧ (mark = 'e' ∨ mark = 'E') ∧
      sign ∈ [[], ['+'], ['-']] ∧ digits.all isAsciiDigit = true ∧ digits ≠ [] := by
  cases second with
  | absent => exact .inl ⟨rfl, rfl⟩
  | given marked signed digit present =>
      exact .inr ⟨_, _, _, rfl, rfl, marked, signed, digit, present⟩

theorem takeSign_spec (cs : List Char) :
    ∃ sign ∈ [[], ['+'], ['-']], cs = sign ++ (takeSign cs).2 ∧
      (takeSign cs).1 = decide (sign = ['-']) := by
  unfold takeSign
  split
  next rest => exact ⟨['+'], by simp, rfl, rfl⟩
  next rest => exact ⟨['-'], by simp, rfl, rfl⟩
  next => exact ⟨[], by simp, rfl, rfl⟩

theorem takeSign_append {sign : List Char} (signed : sign ∈ [[], ['+'], ['-']])
    (digit : digits.all isAsciiDigit = true) (present : digits ≠ []) (rest : List Char) :
    takeSign (sign ++ (digits ++ rest)) = (decide (sign = ['-']), digits ++ rest) := by
  obtain ⟨d, ds, rfl, first⟩ := exists_cons_of_digits digit present
  have lead := of_isWordChar (p := fun c => !isAsciiDigit c || (c != '+' && c != '-'))
    (by decide) (isWordChar_of_isAsciiDigit first)
  simp only [first, Bool.not_true, Bool.false_or, Bool.and_eq_true, bne_iff_ne] at lead
  simp only [List.mem_cons, List.not_mem_nil, or_false] at signed
  rcases signed with rfl | rfl | rfl
  · simp only [List.nil_append, List.cons_append]
    unfold takeSign
    split
    next same => exact absurd (List.cons.inj same).1 lead.1
    next same => exact absurd (List.cons.inj same).1 lead.2
    next => rfl
  · rfl
  · rfl

theorem exponentPart_spec (cs : List Char) :
    Exponent cs (exponentPart cs).1 (exponentPart cs).2 ∧ ((exponentPart cs).1 = none →
      ∀ exponent more, Exponent cs exponent more → exponent = none) := by
  have onlyThere (nowhere : ∀ mark more, (mark = 'e' ∨ mark = 'E') →
      ((takeSign more).2.takeWhile isAsciiDigit).isEmpty = false → cs ≠ mark :: more) :
      ∀ exponent more, Exponent cs exponent more → exponent = none := by
    intro exponent more second
    rcases second.cases_eq with ⟨rfl, -⟩ |
      ⟨mark, sign, digits, -, same, marked, signed, digit, present⟩
    · rfl
    · refine absurd same (nowhere mark _ marked ?_)
      rw [takeSign_append signed digit present]
      obtain ⟨d, ds, rfl, first⟩ := exists_cons_of_digits digit present
      simp [first]
  unfold exponentPart
  split
  next c rest =>
      split
      next marked =>
          rw [Bool.or_eq_true, beq_iff_eq, beq_iff_eq] at marked
          obtain ⟨sign, signed, split, negative⟩ := takeSign_spec rest
          dsimp only
          split
          next none =>
              refine ⟨.absent _, fun _ => onlyThere ?_⟩
              rintro mark more - some same
              cases same
              rw [none] at some
              cases some
          next some =>
              refine ⟨?_, nofun⟩
              have given : Exponent (c :: (sign ++ ((takeSign rest).2.takeWhile isAsciiDigit ++
                  (takeSign rest).2.dropWhile isAsciiDigit))) _ _ :=
                .given marked signed List.all_takeWhile (by simpa using some)
              rw [List.takeWhile_append_dropWhile, ← split] at given
              simpa only [negative, decide_eq_true_eq] using given
      next unmarked =>
          refine ⟨.absent _, fun _ => onlyThere ?_⟩
          rintro mark more marked - same
          cases same
          exact unmarked (by simpa using marked)
  next => exact ⟨.absent _, fun _ => onlyThere nofun⟩

/-! ### Whole numbers with their parts -/

def IsNumberOutcome (cs : List Char) : Except ReadError (Tree × List Char) → Prop
  | .ok (tree, rest) => Numeral cs tree rest
  | .error fault => fault = .malformed ∨ IsOverlong cs

theorem number?_isOutcome (cs : List Char) : IsNumberOutcome cs (number? cs) := by
  unfold number?
  split
  next negative tail sign =>
  have same : cs = signText negative ++ tail := by
    split at sign <;> cases sign <;> rfl
  split
  next => exact .inl rfl
  next whole tail read =>
      obtain ⟨rfl, isWhole, ends⟩ := wholePart?_eq_some read
      obtain ⟨first, noFraction⟩ := fractionPart_spec tail
      obtain ⟨second, noExponent⟩ := exponentPart_spec (fractionPart tail).2
      rw [same]
      dsimp only
      split
      next bare =>
          rw [Bool.and_eq_true, Option.isNone_iff_eq_none, Option.isNone_iff_eq_none] at bare
          have after : (fractionPart tail).2 = tail := by
            rcases first.cases_eq with ⟨-, rest⟩ | ⟨digits, given, -⟩
            · exact rest
            · rw [bare.1] at given
              cases given
          rw [after] at bare noExponent second ⊢
          have rest : (exponentPart tail).2 = tail := by
            rcases second.cases_eq with ⟨-, rest⟩ | ⟨_, _, _, given, -⟩
            · exact rest
            · rw [bare.2] at given
              cases given
          split
          next long =>
              have many : 1 < whole.length := Nat.lt_trans (by decide) long
              exact .inr ⟨negative, whole, tail, rfl, isWhole, long, ends many, noFraction bare.1,
                noExponent bare.2⟩
          next short =>
              rw [rest]
              exact .integer negative isWhole
      next given =>
          exact .real negative isWhole first second (Bool.eq_false_of_not_eq_true given)

theorem Exponent.exponentPart_eq (second : Exponent cs exponent rest) (ends : EndsNumber rest) :
    exponentPart cs = (exponent, rest) := by
  rcases second.cases_eq with ⟨rfl, rfl⟩ |
    ⟨mark, sign, digits, rfl, rfl, marked, signed, digit, present⟩
  · exact ends.exponentPart_eq
  · have isMark : (mark == 'e' || mark == 'E') = true := by
      rwa [Bool.or_eq_true, beq_iff_eq, beq_iff_eq]
    have some : digits.isEmpty = false := by simpa using present
    simp only [exponentPart, isMark, if_true, takeSign_append signed digit present,
      takeWhile_digits digit ends.noDigit, dropWhile_digits digit ends.noDigit, some,
      Bool.false_eq_true, if_false, decide_eq_true_eq]

theorem Exponent.head?_all (second : Exponent cs exponent rest) (ends : EndsNumber rest) :
    cs.head?.all (fun c => !isAsciiDigit c) = true ∧ cs.head? ≠ some '.' := by
  rcases second.cases_eq with ⟨-, rfl⟩ | ⟨mark, sign, digits, -, rfl, marked, -⟩
  · refine ⟨ends.noDigit, fun point => ?_⟩
    rw [EndsNumber, point] at ends
    cases ends
  · rcases marked with rfl | rfl <;> exact ⟨rfl, by simp⟩

theorem Fraction.fractionPart_eq (first : Fraction cs fraction more)
    (second : Exponent more exponent rest) (ends : EndsNumber rest) :
    fractionPart cs = (fraction, more) ∧ cs.head?.all (fun c => !isAsciiDigit c) = true := by
  obtain ⟨stop, noPoint⟩ := second.head?_all ends
  rcases first.cases_eq with ⟨rfl, rfl⟩ | ⟨digits, rfl, rfl, digit, present⟩
  · refine ⟨?_, stop⟩
    obtain ⟨read, -⟩ := fractionPart_spec more
    rcases read.cases_eq with ⟨none, same⟩ | ⟨_, -, point, -⟩
    · exact Prod.ext none same
    · rw [point] at noPoint
      cases noPoint rfl
  · exact ⟨fractionPart_digits digit present stop, rfl⟩

/-- A number that does not go on is read, unless it is an integer with too many digits. -/
theorem Numeral.number? (numeral : Numeral cs tree rest) (ends : EndsNumber rest)
    (within : ¬ IsOverlong cs) : number? cs = .ok (tree, rest) := by
  cases numeral with
  | @integer whole _ negative isWhole =>
      obtain ⟨c, ds, rfl, digit⟩ := isWhole.exists_cons
      have read := wholePart?_digits isWhole.digit isWhole.present isWhole.lead ends.noDigit
      refine number?_whole digit read ends (not_lt.mp fun long => within ?_)
      refine ⟨negative, c :: ds, rest, rfl, isWhole, long, ends.noDigit, ?_, ?_⟩
      · exact (fractionPart_spec rest).2 (by rw [ends.fractionPart_eq])
      · exact (exponentPart_spec rest).2 (by rw [ends.exponentPart_eq])
  | @real whole tail more _ fraction exponent negative isWhole first second given =>
      obtain ⟨c, ds, rfl, digit⟩ := isWhole.exists_cons
      obtain ⟨point, stop⟩ := first.fractionPart_eq second ends
      have read := wholePart?_digits isWhole.digit isWhole.present isWhole.lead stop
      refine number?_real digit read ⟨congrArg Prod.fst point, ?_⟩ given
      rw [point, second.exponentPart_eq ends]

theorem Numeral.exists_cons (numeral : Numeral cs tree rest) :
    ∃ negative c more, cs = signText negative ++ c :: more ∧ isAsciiDigit c = true := by
  cases numeral with
  | integer negative isWhole =>
      obtain ⟨c, ds, rfl, digit⟩ := isWhole.exists_cons
      exact ⟨negative, c, _, rfl, digit⟩
  | real negative isWhole =>
      obtain ⟨c, ds, rfl, digit⟩ := isWhole.exists_cons
      exact ⟨negative, c, _, rfl, digit⟩

theorem Numeral.isMapping_eq (numeral : Numeral cs tree rest) : tree.isMapping = false := by
  cases numeral <;> rfl

theorem Numeral.length_lt (numeral : Numeral cs tree rest) : rest.length < cs.length := by
  cases numeral with
  | integer negative isWhole =>
      have positive := List.length_pos_iff.mpr isWhole.present
      simp only [List.length_append]
      omega
  | @real whole tail more _ fraction exponent negative isWhole first second given =>
      have positive := List.length_pos_iff.mpr isWhole.present
      have fractionLength : more.length ≤ tail.length := by
        rcases first.cases_eq with ⟨-, rfl⟩ | ⟨digits, -, rfl, -⟩
        · exact Nat.le_refl _
        · simp only [List.length_cons, List.length_append]
          omega
      have exponentLength : rest.length ≤ more.length := by
        rcases second.cases_eq with ⟨-, rfl⟩ | ⟨mark, sign, digits, -, rfl, -⟩
        · exact Nat.le_refl _
        · simp only [List.length_cons, List.length_append]
          omega
      simp only [List.length_append]
      omega

end Numbers

/-! ## Values -/

/-- What a text may begin with: a tree, the items of a list or the members of a mapping, these
two up to the closing bracket. -/
inductive Phrase where
  | tree (tree : Tree)
  | items (items : List Tree)
  | members (members : List (List Code × Tree))

/-- A text begins with a phrase, and the rest follows.  Of two members with the same key the later
one counts. -/
inductive Begins : Phrase → List Char → List Char → Prop where
  | word {word : List Char} {tree : Tree} (rest : List Char) (listed : (word, tree) ∈ words) :
      Begins (.tree tree) (word ++ rest) rest
  | text {codes : List Code} {cs rest : List Char} (quoted : Quoted cs codes rest) :
      Begins (.tree (.str codes)) cs rest
  | number {tree : Tree} {cs rest : List Char} (numeral : Numeral cs tree rest) :
      Begins (.tree tree) cs rest
  | emptyList {more rest : List Char} (closes : skipSpace more = ']' :: rest) :
      Begins (.tree (.list [])) ('[' :: more) rest
  | list {items : List Tree} {more rest : List Char}
      (inside : Begins (.items items) (skipSpace more) rest) :
      Begins (.tree (.list items)) ('[' :: more) rest
  | emptyMapping {more rest : List Char} (closes : skipSpace more = '}' :: rest) :
      Begins (.tree (.mapping [])) ('{' :: more) rest
  | mapping {members : List (List Code × Tree)} {more rest : List Char}
      (inside : Begins (.members members) (skipSpace more) rest) :
      Begins (.tree (.mapping (Tree.ofMembers members))) ('{' :: more) rest
  | lastItem {tree : Tree} {cs more rest : List Char} (item : Begins (.tree tree) cs more)
      (closes : skipSpace more = ']' :: rest) : Begins (.items [tree]) cs rest
  | item {tree : Tree} {items : List Tree} {cs more later rest : List Char}
      (item : Begins (.tree tree) cs more) (goesOn : skipSpace more = ',' :: later)
      (others : Begins (.items items) (skipSpace later) rest) :
      Begins (.items (tree :: items)) cs rest
  | lastMember {key : List Code} {tree : Tree} {cs more inside after rest : List Char}
      (quoted : Quoted cs key more) (colon : skipSpace more = ':' :: inside)
      (item : Begins (.tree tree) (skipSpace inside) after)
      (closes : skipSpace after = '}' :: rest) : Begins (.members [(key, tree)]) cs rest
  | member {key : List Code} {tree : Tree} {members : List (List Code × Tree)}
      {cs more inside after later rest : List Char}
      (quoted : Quoted cs key more) (colon : skipSpace more = ':' :: inside)
      (item : Begins (.tree tree) (skipSpace inside) after)
      (goesOn : skipSpace after = ',' :: later)
      (others : Begins (.members members) (skipSpace later) rest) :
      Begins (.members ((key, tree) :: members)) cs rest

inductive Part where
  | tree
  | items
  | members

/-- Reading a part at the front of a text, with some levels left to open, comes to a bracket for
which there is no level left or to an integer with too many digits. -/
inductive Exceeds : Part → Nat → List Char → Prop where
  | deep {c : Char} {cs : List Char} (opens : c = '[' ∨ c = '{') : Exceeds .tree 0 (c :: cs)
  | long {depth : Nat} {cs : List Char} (overlong : IsOverlong cs) : Exceeds .tree depth cs
  | list {depth : Nat} {cs : List Char} (inside : Exceeds .items depth (skipSpace cs)) :
      Exceeds .tree (depth + 1) ('[' :: cs)
  | mapping {depth : Nat} {cs : List Char} (inside : Exceeds .members depth (skipSpace cs)) :
      Exceeds .tree (depth + 1) ('{' :: cs)
  | item {depth : Nat} {cs : List Char} (here : Exceeds .tree depth cs) : Exceeds .items depth cs
  | laterItem {depth : Nat} {tree : Tree} {cs more later : List Char}
      (item : Begins (.tree tree) cs more) (goesOn : skipSpace more = ',' :: later)
      (there : Exceeds .items depth (skipSpace later)) : Exceeds .items depth cs
  | member {depth : Nat} {key : List Code} {cs more inside : List Char}
      (quoted : Quoted cs key more) (colon : skipSpace more = ':' :: inside)
      (here : Exceeds .tree depth (skipSpace inside)) : Exceeds .members depth cs
  | laterMember {depth : Nat} {key : List Code} {tree : Tree}
      {cs more inside after later : List Char} (quoted : Quoted cs key more)
      (colon : skipSpace more = ':' :: inside)
      (item : Begins (.tree tree) (skipSpace inside) after)
      (goesOn : skipSpace after = ',' :: later)
      (there : Exceeds .members depth (skipSpace later)) : Exceeds .members depth cs

section Reader

variable {depth fuel : Nat} {tree : Tree} {items : List Tree} {members : List (List Code × Tree)}
  {cs more rest : List Char}

/-! ### What is read is there -/

/-- What the reader makes of a tree at the front of a text. -/
def IsTreeOutcome (depth : Nat) (cs : List Char) : Except ReadError (Tree × List Char) → Prop
  | .ok (tree, rest) => Begins (.tree tree) cs rest
  | .error fault => fault = .malformed ∨ Exceeds .tree depth cs

def IsItemsOutcome (depth : Nat) (seen : List Tree) (cs : List Char) :
    Except ReadError (Tree × List Char) → Prop
  | .ok (tree, rest) => ∃ items,
      tree = .list (seen.reverse ++ items) ∧ Begins (.items items) cs rest
  | .error fault => fault = .malformed ∨ Exceeds .items depth cs

def IsMembersOutcome (depth : Nat) (seen : List (List Code × Tree)) (cs : List Char) :
    Except ReadError (Tree × List Char) → Prop
  | .ok (tree, rest) => ∃ members,
      tree = .mapping (members.foldl (fun acc member => Tree.put member.1 member.2 acc) seen) ∧
        Begins (.members members) cs rest
  | .error fault => fault = .malformed ∨ Exceeds .members depth cs

section Outcomes

variable {seen : List Tree} {before : List (List Code × Tree)} {key : List Code}
  {after inside later : List Char}
  {result : Except ReadError (Tree × List Char)}

theorem IsNumberOutcome.number (outcome : IsNumberOutcome cs result) :
    IsTreeOutcome depth cs result := by
  rcases result with fault | ⟨tree, rest⟩
  · exact outcome.imp_right .long
  · exact .number outcome

theorem IsItemsOutcome.list (outcome : IsItemsOutcome depth [] (skipSpace more) result) :
    IsTreeOutcome (depth + 1) ('[' :: more) result := by
  rcases result with fault | ⟨tree, rest⟩
  · exact outcome.imp_right .list
  · obtain ⟨items, rfl, inside⟩ := outcome
    exact .list inside

theorem IsMembersOutcome.mapping (outcome : IsMembersOutcome depth [] (skipSpace more) result) :
    IsTreeOutcome (depth + 1) ('{' :: more) result := by
  rcases result with fault | ⟨tree, rest⟩
  · exact outcome.imp_right .mapping
  · obtain ⟨members, rfl, inside⟩ := outcome
    exact .mapping inside

theorem IsItemsOutcome.item
    (outcome : IsItemsOutcome depth (tree :: seen) (skipSpace later) result)
    (first : Begins (.tree tree) cs more) (goesOn : skipSpace more = ',' :: later) :
    IsItemsOutcome depth seen cs result := by
  rcases result with fault | ⟨whole, rest⟩
  · exact outcome.imp_right (.laterItem first goesOn)
  · obtain ⟨items, rfl, others⟩ := outcome
    exact ⟨tree :: items, by simp, .item first goesOn others⟩

theorem IsMembersOutcome.member
    (outcome : IsMembersOutcome depth (Tree.put key tree before) (skipSpace later) result)
    (quoted : Quoted cs key more) (colon : skipSpace more = ':' :: inside)
    (first : Begins (.tree tree) (skipSpace inside) after)
    (goesOn : skipSpace after = ',' :: later) : IsMembersOutcome depth before cs result := by
  rcases result with fault | ⟨whole, rest⟩
  · exact outcome.imp_right (.laterMember quoted colon first goesOn)
  · obtain ⟨members, rfl, others⟩ := outcome
    exact ⟨(key, tree) :: members, rfl, .member quoted colon first goesOn others⟩

end Outcomes

theorem begins_of_word? (h : word? cs = some (tree, rest)) : Begins (.tree tree) cs rest := by
  obtain ⟨⟨word, v⟩, listed, found⟩ := List.exists_of_findSome?_eq_some h
  obtain ⟨after, dropped, same⟩ := Option.map_eq_some_iff.mp found
  obtain ⟨rfl, rfl⟩ := Prod.mk.inj same
  rw [dropLead?_eq_some_iff.mp dropped]
  exact .word after listed

theorem readTree_isOutcome
    (items : ∀ depth seen cs, IsItemsOutcome depth seen cs (readItems depth seen fuel cs))
    (members : ∀ depth seen cs, IsMembersOutcome depth seen cs (readMembers depth seen fuel cs))
    (depth : Nat) (cs : List Char) : IsTreeOutcome depth cs (readTree depth (fuel + 1) cs) := by
  unfold readTree
  split
  next => exact .inl rfl
  next =>
      split
      next s rest read => exact .text (string?_iff.mp read)
      next => exact .inl rfl
  next more =>
      split
      next => exact .inr (.deep (.inr rfl))
      next depth =>
          split
          next rest closes => exact .emptyMapping closes
          next => exact (members depth [] (skipSpace more)).mapping
  next more =>
      split
      next => exact .inr (.deep (.inl rfl))
      next depth =>
          split
          next rest closes => exact .emptyList closes
          next => exact (items depth [] (skipSpace more)).list
  next =>
      split
      next result read => exact begins_of_word? read
      next => exact (number?_isOutcome cs).number

theorem readItems_isOutcome
    (trees : ∀ depth cs, IsTreeOutcome depth cs (readTree depth fuel cs))
    (items : ∀ depth seen cs, IsItemsOutcome depth seen cs (readItems depth seen fuel cs))
    (depth : Nat) (seen : List Tree) (cs : List Char) :
    IsItemsOutcome depth seen cs (readItems depth seen (fuel + 1) cs) := by
  have first := trees depth cs
  rw [readItems]
  rcases read : readTree depth fuel cs with fault | ⟨tree, more⟩
  · rw [read] at first
    exact first.imp_right .item
  · rw [read] at first
    dsimp only
    split
    next rest closes => exact ⟨[tree], by simp, .lastItem first closes⟩
    next later goesOn => exact (items depth (tree :: seen) (skipSpace later)).item first goesOn
    next => exact .inl rfl

theorem readMembers_isOutcome
    (trees : ∀ depth cs, IsTreeOutcome depth cs (readTree depth fuel cs))
    (members : ∀ depth seen cs, IsMembersOutcome depth seen cs (readMembers depth seen fuel cs))
    (depth : Nat) (seen : List (List Code × Tree)) (cs : List Char) :
    IsMembersOutcome depth seen cs (readMembers depth seen (fuel + 1) cs) := by
  rw [readMembers]
  split
  next => exact .inl rfl
  next key more quote =>
      have quoted := string?_iff.mp quote
      split
      next inside colon =>
          have first := trees depth (skipSpace inside)
          rcases read : readTree depth fuel (skipSpace inside) with fault | ⟨tree, after⟩
          · rw [read] at first
            exact first.imp_right (.member quoted colon)
          · rw [read] at first
            dsimp only
            split
            next rest closes => exact ⟨[(key, tree)], rfl, .lastMember quoted colon first closes⟩
            next later goesOn =>
                exact (members depth (Tree.put key tree seen) (skipSpace later)).member quoted
                  colon first goesOn
            next => exact .inl rfl
      next => exact .inl rfl

/-- What the reader returns is there, and it fails with anything but a malformed text only where
reading exceeds the limits. -/
theorem read_isOutcome (fuel : Nat) :
    (∀ depth cs, IsTreeOutcome depth cs (readTree depth fuel cs)) ∧
    (∀ depth seen cs, IsItemsOutcome depth seen cs (readItems depth seen fuel cs)) ∧
    ∀ depth seen cs, IsMembersOutcome depth seen cs (readMembers depth seen fuel cs) := by
  induction fuel with
  | zero =>
      refine ⟨fun depth cs => ?_, fun depth seen cs => ?_, fun depth seen cs => ?_⟩
      · rw [readTree]
        exact .inl rfl
      · rw [readItems]
        exact .inl rfl
      · rw [readMembers]
        exact .inl rfl
  | succ fuel ih =>
      obtain ⟨trees, items, members⟩ := ih
      exact ⟨readTree_isOutcome items members, readItems_isOutcome trees items,
        readMembers_isOutcome trees members⟩

/-! ### What is there is read -/

theorem length_skipSpace_le (cs : List Char) : (skipSpace cs).length ≤ cs.length :=
  (List.dropWhile_sublist isSpace).length_le

theorem length_lt_of_skipSpace {c : Char} (h : skipSpace cs = c :: rest) :
    rest.length < cs.length := by
  have shorter := length_skipSpace_le cs
  rw [h] at shorter
  exact shorter

theorem exists_cons_of_mem_words {word : List Char} (listed : (word, tree) ∈ words) :
    ∃ c cs, word = c :: cs ∧ c ≠ ']' ∧ c ≠ '{' := by
  have each : (words.all fun word => word.1.head?.any fun c => c != ']' && c != '{') = true := rfl
  have shown := List.all_eq_true.mp each _ listed
  cases word with
  | nil => cases shown
  | cons c cs => exact ⟨c, cs, rfl, by simpa using shown⟩

theorem Begins.length_lt {phrase : Phrase} (begins : Begins phrase cs rest) :
    rest.length < cs.length := by
  have past {c : Char} {cs rest : List Char} (h : skipSpace cs = c :: rest) :=
    length_lt_of_skipSpace h
  have shorter := length_skipSpace_le
  induction begins with
  | word rest listed =>
      obtain ⟨c, cs, rfl, -⟩ := exists_cons_of_mem_words listed
      simp only [List.length_append, List.length_cons]
      omega
  | text quoted => exact quoted.length_lt
  | number numeral => exact numeral.length_lt
  | emptyList closes => exact Nat.lt_succ_of_lt (past closes)
  | @list items more rest _ ih => exact Nat.lt_succ_of_lt (Nat.lt_of_lt_of_le ih (shorter more))
  | emptyMapping closes => exact Nat.lt_succ_of_lt (past closes)
  | @mapping members more rest _ ih =>
      exact Nat.lt_succ_of_lt (Nat.lt_of_lt_of_le ih (shorter more))
  | lastItem _ closes ih => exact (past closes).trans ih
  | @item tree items cs more later rest _ goesOn _ first others =>
      exact ((Nat.lt_of_lt_of_le others (shorter later)).trans (past goesOn)).trans first
  | @lastMember key tree cs more inside after rest quoted colon _ closes ih =>
      have tree := (past closes).trans (Nat.lt_of_lt_of_le ih (shorter inside))
      exact (tree.trans (past colon)).trans quoted.length_lt
  | @member key tree members cs more inside after later rest quoted colon _ goesOn _ first others =>
      have tree := (past goesOn).trans (Nat.lt_of_lt_of_le first (shorter inside))
      have tail := (Nat.lt_of_lt_of_le others (shorter later)).trans tree
      exact (tail.trans (past colon)).trans quoted.length_lt

theorem Exceeds.lt_length {part : Part} (exceeds : Exceeds part depth cs) :
    depth < cs.length ∨ digitLimit < cs.length := by
  have shorter := length_skipSpace_le
  induction exceeds with
  | deep => exact .inl (by simp)
  | long overlong =>
      obtain ⟨negative, whole, rest, rfl, -, long, -⟩ := overlong
      refine .inr ?_
      simp only [List.length_append]
      omega
  | @list depth cs _ ih | @mapping depth cs _ ih =>
      have size := shorter cs
      rw [List.length_cons]
      omega
  | item _ ih => exact ih
  | @laterItem depth tree cs more later item goesOn _ ih =>
      have size := shorter later
      have tail := length_lt_of_skipSpace goesOn
      have front := item.length_lt
      omega
  | @member depth key cs more inside quoted colon _ ih =>
      have size := shorter inside
      have tail := length_lt_of_skipSpace colon
      have front := quoted.length_lt
      omega
  | @laterMember depth key tree cs more inside after later quoted colon item goesOn _ ih =>
      have size := shorter inside
      have sizeOn := shorter later
      have tail := length_lt_of_skipSpace colon
      have front := quoted.length_lt
      have behind := item.length_lt
      have tailOn := length_lt_of_skipSpace goesOn
      omega

theorem endsNumber_of_skipSpace {c : Char} (h : skipSpace cs = c :: rest)
    (sign : c ∈ [',', ']', '}']) : EndsNumber cs := by
  cases cs with
  | nil => rfl
  | cons d cs =>
      cases blank : isSpace d with
      | true =>
          simp only [isSpace, Bool.or_eq_true, beq_iff_eq] at blank
          rcases blank with ((rfl | rfl) | rfl) | rfl <;> rfl
      | false =>
          rw [skipSpace_cons blank] at h
          cases h
          simp only [List.mem_cons, List.not_mem_nil, or_false] at sign
          rcases sign with rfl | rfl | rfl <;> rfl

theorem Begins.head?_ne {phrase : Phrase} (begins : Begins phrase cs rest) :
    cs.head? ≠ some ']' := by
  induction begins with
  | word rest listed =>
      obtain ⟨c, cs, rfl, other, -⟩ := exists_cons_of_mem_words listed
      simpa using other
  | text quoted | lastMember quoted | member quoted =>
      cases quoted
      simp
  | number numeral =>
      obtain ⟨negative, c, more, rfl, digit⟩ := numeral.exists_cons
      obtain ⟨d, ds, same, -, other⟩ := exists_number_cons digit
      rw [same]
      simpa using other
  | emptyList | list | emptyMapping | mapping => simp
  | lastItem _ _ ih => exact ih
  | item _ _ _ ih _ => exact ih

theorem Begins.exists_mapping (begins : Begins (.tree tree) cs rest)
    (brace : cs.head? = some '{') : ∃ members, tree = .mapping members := by
  cases begins with
  | word rest listed =>
      obtain ⟨c, cs, rfl, -, other⟩ := exists_cons_of_mem_words listed
      rw [List.cons_append, List.head?_cons, Option.some_inj] at brace
      exact absurd brace other
  | text quoted =>
      cases quoted
      cases brace
  | number numeral =>
      obtain ⟨negative, c, more, rfl, digit⟩ := numeral.exists_cons
      cases negative with
      | true => cases brace
      | false =>
          cases Option.some_inj.mp brace
          cases digit
  | emptyList | list => cases brace
  | emptyMapping => exact ⟨_, rfl⟩
  | mapping => exact ⟨_, rfl⟩

theorem Begins.head?_eq_brace (begins : Begins (.tree (.mapping members)) cs rest) :
    cs.head? = some '{' := by
  cases begins with
  | word rest listed => simp [words] at listed
  | number numeral => cases numeral.isMapping_eq
  | emptyMapping | mapping => rfl

theorem Begins.head?_eq (begins : Begins (.members members) cs rest) : cs.head? = some '"' := by
  cases begins with
  | lastMember quoted | member quoted =>
      cases quoted
      rfl

/-- The reader reads a phrase, with steps enough, where that does not exceed the limits.  Behind a
tree that may be a number the text has to go on in another way; a mapping has its bracket. -/
def Phrase.IsRead : Phrase → List Char → List Char → Prop
  | .tree tree, cs, rest => ∀ depth fuel, ¬ Exceeds .tree depth cs →
      (tree.isMapping = false → EndsNumber rest) → 2 * cs.length ≤ fuel →
      readTree depth fuel cs = .ok (tree, rest)
  | .items items, cs, rest => ∀ depth fuel seen, ¬ Exceeds .items depth cs →
      2 * cs.length < fuel →
      readItems depth seen fuel cs = .ok (.list (seen.reverse ++ items), rest)
  | .members members, cs, rest => ∀ depth fuel seen, ¬ Exceeds .members depth cs →
      2 * cs.length < fuel → readMembers depth seen fuel cs =
        .ok (.mapping (members.foldl (fun acc member => Tree.put member.1 member.2 acc) seen), rest)

theorem readTree_word {word : List Char} (listed : (word, tree) ∈ words) (depth fuel : Nat)
    (rest : List Char) : readTree depth (fuel + 1) (word ++ rest) = .ok (tree, rest) := by
  simp only [words, List.mem_cons, Prod.mk.injEq, List.not_mem_nil, or_false] at listed
  rcases listed with ⟨rfl, rfl⟩ | ⟨rfl, rfl⟩ | ⟨rfl, rfl⟩ | ⟨rfl, rfl⟩ | ⟨rfl, rfl⟩ | ⟨rfl, rfl⟩ <;>
    rfl

theorem Quoted.readTree {codes : List Code} (quoted : Quoted cs codes rest) (depth fuel : Nat) :
    readTree depth (fuel + 1) cs = .ok (.str codes, rest) := by
  have read := string?_iff.mpr quoted
  cases quoted
  rw [Json.readTree, read]

theorem Numeral.readTree (numeral : Numeral cs tree rest) (ends : EndsNumber rest)
    (within : ¬ IsOverlong cs) (depth fuel : Nat) :
    readTree depth (fuel + 1) cs = .ok (tree, rest) := by
  have read := numeral.number? ends within
  obtain ⟨negative, c, more, rfl, digit⟩ := numeral.exists_cons
  rw [readTree_number digit, read]

theorem readTree_list (read : readItems depth [] fuel (skipSpace more) = .ok (.list items, rest))
    (isOpen : (skipSpace more).head? ≠ some ']') :
    readTree (depth + 1) (fuel + 1) ('[' :: more) = .ok (.list items, rest) := by
  rw [readTree]
  split
  next same =>
      rw [same] at isOpen
      exact absurd rfl isOpen
  next => exact read

theorem readTree_mapping {made : List (List Code × Tree)}
    (read : readMembers depth [] fuel (skipSpace more) = .ok (.mapping made, rest))
    (isOpen : (skipSpace more).head? ≠ some '}') :
    readTree (depth + 1) (fuel + 1) ('{' :: more) = .ok (.mapping made, rest) := by
  rw [readTree]
  split
  next same =>
      rw [same] at isOpen
      exact absurd rfl isOpen
  next => exact read

theorem Begins.isRead {phrase : Phrase} (begins : Begins phrase cs rest) :
    phrase.IsRead cs rest := by
  have shorter := length_skipSpace_le
  -- A bracket takes two steps and each part of a list or a mapping one, with a character for each.
  induction begins with
  | word rest listed =>
      intro depth fuel _ _ long
      obtain ⟨c, cs, rfl, -⟩ := exists_cons_of_mem_words listed
      obtain ⟨fuel, rfl⟩ := Nat.exists_eq_add_one.mpr (Nat.lt_of_lt_of_le (by simp) long)
      exact readTree_word listed depth fuel rest
  | text quoted =>
      intro depth fuel _ _ long
      have present := quoted.length_lt
      obtain ⟨fuel, rfl⟩ := Nat.exists_eq_add_one.mpr (show 0 < fuel by omega)
      exact quoted.readTree depth fuel
  | number numeral =>
      intro depth fuel within ends long
      have present := numeral.length_lt
      obtain ⟨fuel, rfl⟩ := Nat.exists_eq_add_one.mpr (show 0 < fuel by omega)
      exact numeral.readTree (ends numeral.isMapping_eq) (fun overlong => within (.long overlong))
        depth fuel
  | @emptyList more rest closes =>
      intro depth fuel within _ long
      obtain ⟨fuel, rfl⟩ := Nat.exists_eq_add_one.mpr (Nat.lt_of_lt_of_le (by simp) long)
      cases depth with
      | zero => exact absurd (.deep (.inl rfl)) within
      | succ depth => simp only [readTree, closes]
  | @list items more rest inside ih =>
      intro depth fuel within _ long
      obtain ⟨fuel, rfl⟩ := Nat.exists_eq_add_one.mpr (Nat.lt_of_lt_of_le (by simp) long)
      cases depth with
      | zero => exact absurd (.deep (.inl rfl)) within
      | succ depth =>
          have size := shorter more
          rw [List.length_cons] at long
          have read := ih depth fuel [] (fun exceeds => within (.list exceeds)) (by omega)
          exact readTree_list read inside.head?_ne
  | @emptyMapping more rest closes =>
      intro depth fuel within _ long
      obtain ⟨fuel, rfl⟩ := Nat.exists_eq_add_one.mpr (Nat.lt_of_lt_of_le (by simp) long)
      cases depth with
      | zero => exact absurd (.deep (.inr rfl)) within
      | succ depth => simp only [readTree, closes]
  | @mapping members more rest inside ih =>
      intro depth fuel within _ long
      obtain ⟨fuel, rfl⟩ := Nat.exists_eq_add_one.mpr (Nat.lt_of_lt_of_le (by simp) long)
      cases depth with
      | zero => exact absurd (.deep (.inr rfl)) within
      | succ depth =>
          have size := shorter more
          rw [List.length_cons] at long
          have read := ih depth fuel [] (fun exceeds => within (.mapping exceeds)) (by omega)
          exact readTree_mapping read (by rw [inside.head?_eq]; simp)
  | @lastItem tree cs more rest item closes ih =>
      intro depth fuel seen within long
      obtain ⟨fuel, rfl⟩ := Nat.exists_eq_add_one.mpr (Nat.zero_lt_of_lt long)
      have read := ih depth fuel (fun exceeds => within (.item exceeds))
        (fun _ => endsNumber_of_skipSpace closes (by simp)) (by omega)
      simp only [readItems, read, closes, List.reverse_cons]
  | @item tree items cs more later rest item goesOn _ first others =>
      intro depth fuel seen within long
      obtain ⟨fuel, rfl⟩ := Nat.exists_eq_add_one.mpr (Nat.zero_lt_of_lt long)
      have size := shorter later
      have tail := length_lt_of_skipSpace goesOn
      have front := item.length_lt
      have read := first depth fuel (fun exceeds => within (.item exceeds))
        (fun _ => endsNumber_of_skipSpace goesOn (by simp)) (by omega)
      have readOn := others depth fuel (tree :: seen)
        (fun exceeds => within (.laterItem item goesOn exceeds)) (by omega)
      simp only [readItems, read, goesOn, readOn, List.reverse_cons, List.append_assoc,
        List.singleton_append]
  | @lastMember key tree cs more inside after rest quoted colon item closes ih =>
      intro depth fuel seen within long
      obtain ⟨fuel, rfl⟩ := Nat.exists_eq_add_one.mpr (Nat.zero_lt_of_lt long)
      have size := shorter inside
      have front := quoted.length_lt
      have tail := length_lt_of_skipSpace colon
      have read := ih depth fuel (fun exceeds => within (.member quoted colon exceeds))
        (fun _ => endsNumber_of_skipSpace closes (by simp)) (by omega)
      simp only [readMembers, string?_iff.mpr quoted, colon, read, closes, List.foldl_cons,
        List.foldl_nil]
  | @member key tree members cs more inside after later rest quoted colon item goesOn _ first
      others =>
      intro depth fuel seen within long
      obtain ⟨fuel, rfl⟩ := Nat.exists_eq_add_one.mpr (Nat.zero_lt_of_lt long)
      have size := shorter inside
      have sizeOn := shorter later
      have front := quoted.length_lt
      have tail := length_lt_of_skipSpace colon
      have behind := item.length_lt
      have tailOn := length_lt_of_skipSpace goesOn
      have read := first depth fuel (fun exceeds => within (.member quoted colon exceeds))
        (fun _ => endsNumber_of_skipSpace goesOn (by simp)) (by omega)
      have readOn := others depth fuel (Tree.put key tree seen)
        (fun exceeds => within (.laterMember quoted colon item goesOn exceeds)) (by omega)
      simp only [readMembers, string?_iff.mpr quoted, colon, read, goesOn, readOn, List.foldl_cons]

end Reader

end StillMotion.Json
