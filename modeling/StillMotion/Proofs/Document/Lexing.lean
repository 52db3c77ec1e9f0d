import StillMotion.Document.Read
import StillMotion.Proofs.Document.Lexer
import StillMotion.Proofs.Document.Payload
import StillMotion.Proofs.Document.Scalar
import StillMotion.Proofs.Text.Search

/-!
# The tokens of written data

A written list or mapping stands in brackets, its items on lines of their own.  It is cut into
the tokens of its items between those of the brackets and commas; a key that is too long lacks the
token that announces it.
-/

namespace StillMotion.Document

open StillMotion.Json StillMotion.Number StillMotion.Text

/-! ## Characters -/

def isPrinted (ch : Char) : Bool := isShown ch || ch == ' ' || ch == '\n'

theorem isPrinted_of_isShown {ch : Char} (shown : isShown ch = true) : isPrinted ch = true := by
  rw [isPrinted, shown]
  rfl

theorem isAllowed_of_isPrinted {ch : Char} (printed : isPrinted ch = true) :
    isAllowed ch = true := by
  rw [isPrinted, Bool.or_eq_true, Bool.or_eq_true, beq_iff_eq, beq_iff_eq] at printed
  rcases printed with (shown | rfl) | rfl
  · rw [isShown, Bool.and_eq_true, decide_eq_true_eq, decide_eq_true_eq] at shown
    simp only [isAllowed, Bool.or_eq_true, Bool.and_eq_true, decide_eq_true_eq]
    omega
  · rfl
  · rfl

/-! ## Tokens -/

def joined : List (List Token) → List Token
  | [] => []
  | ts :: rest => ts ++ rest.flatMap (.flowEntry :: ·)

def keyTokens (key : String) : List Token :=
  (if Value.isShortKey key then [.key] else []) ++ [.scalar key false, .value]

mutual

def tokensOf : Value → List Token
  | .null => [.scalar "null" true]
  | .bool true => [.scalar "true" true]
  | .bool false => [.scalar "false" true]
  | .int n => [.scalar (String.ofList (encodeInt n)) true]
  | .float x => [.scalar (String.ofList (dataText x)) true]
  | .str s => [.scalar s false]
  | .list items => .flowSequenceStart :: (joined (itemTokens items) ++ [.flowSequenceEnd])
  | .mapping entries => .flowMappingStart :: (joined (entryTokens entries) ++ [.flowMappingEnd])
  | .stamp _ | .bytes _ | .table _ | .cycle _ => []

def itemTokens : List Value → List (List Token)
  | [] => []
  | item :: rest => tokensOf item :: itemTokens rest

def entryTokens : List (String × Value) → List (List Token)
  | [] => []
  | (key, value) :: rest => (keyTokens key ++ tokensOf value) :: entryTokens rest

end

namespace Lexer

variable {s s' s'' : Lexer} {rest text tail : List Char} {ts : List Token} {needsKey : Bool}

theorem IsBefore.of_bare {rest' : List Char} (before : s.IsBefore rest)
    (same : bare rest = bare rest') : s.IsBefore rest' :=
  ⟨before.rest.trans same, before.indent, before.outer, before.optional⟩

theorem Takes.refl (before : s.IsBefore rest) : s.Takes s [] s.flowLevel rest :=
  ⟨⟨0, by omega, fun _ => rfl⟩, rfl, rfl, before⟩

theorem Takes.trans {ts' : List Token} {level level' : Nat} {rest' : List Char}
    (first : s.Takes s' ts level rest) (second : s'.Takes s'' ts' level' rest') :
    s.Takes s'' (ts' ++ ts) level' rest' :=
  ⟨first.goes.trans second.goes, by rw [second.tokens, first.tokens, List.append_assoc],
    second.level, second.before⟩

/-! ## Items -/

/-- A text is cut into some tokens wherever it stands as an item in brackets, where keys are
allowed if it begins with one. -/
structure Lexes (needsKey : Bool) (text : List Char) (ts : List Token) : Prop where
  printed : text.all isPrinted = true
  takes {s : Lexer} {tail : List Char} (before : s.IsBefore (text ++ tail)) (follows : Follows tail)
    (inFlow : 0 < s.flowLevel) (allows : needsKey = true → s.allowsKey = true) :
    ∃ s', s.Takes s' ts.reverse s.flowLevel tail

theorem Lexes.of_value (lexes : Lexes false text ts) : Lexes needsKey text ts where
  printed := lexes.printed
  takes before follows inFlow _ := lexes.takes before follows inFlow (by simp)

theorem lexes_word {run : List Char} (word : run.all isWordChar = true)
    (starts : startsWord run = true) : Lexes false run [.scalar (String.ofList run) true] where
  printed := List.all_eq_true.mpr fun c member =>
    of_isWordChar (by decide) (List.all_eq_true.mp word c member)
  takes {s tail} before follows inFlow _ := by
    refine takes_word word starts follows before ?_ inFlow
    rcases run with _ | ⟨ch, run⟩
    · cases starts
    · rw [List.all_cons, Bool.and_eq_true] at word
      exact bare_of_solid (of_isWordChar (by decide) word.1)

theorem isPrinted_encodeString {s : String} (basic : isBasicText s = true) :
    (encodeString true s).all isPrinted = true := by
  have each {ch : Char} (member : ch ∈ s.toList) : (encodeChar true ch).all isPrinted = true := by
    have basic' := List.all_eq_true.mp basic ch member
    by_cases space : ch = ' '
    · subst space
      rfl
    · exact List.all_eq_true.mpr fun d member =>
        isPrinted_of_isShown (isShown_of_mem_encodeChar basic' space member)
  rw [encodeString, List.all_cons, List.all_append, List.all_flatMap,
    List.all_eq_true.mpr fun ch member => each member]
  rfl

theorem lexes_text {text : String} (basic : isBasicText text = true) :
    Lexes false (encodeString true text) [.scalar text false] where
  printed := isPrinted_encodeString basic
  takes before _ _ _ := by
    obtain ⟨s', taken, -⟩ := takes_quoted basic before (bare_cons rfl)
    exact ⟨s', taken⟩

theorem lexes_entry {key : String} (basic : isBasicText key = true) (value : Lexes false text ts) :
    Lexes true (encodeString true key ++ indented.colon ++ text) (keyTokens key ++ ts) where
  printed := by
    rw [List.all_append, List.all_append, isPrinted_encodeString basic, value.printed]
    rfl
  takes {s tail} before follows inFlow allows := by
    have next : bare (encodeString true key ++ indented.colon ++ text ++ tail) =
        encodeString true key ++ ':' :: (' ' :: (text ++ tail)) := by
      rw [List.append_assoc, List.append_assoc]
      exact bare_cons rfl
    obtain ⟨s₁, scalar, here, keyed⟩ := takes_quoted basic before next
    obtain ⟨k, keyed⟩ := keyed (allows rfl)
    obtain ⟨s₂, went, level, before₂, tokens⟩ := takes_colon scalar.before here keyed
      (by rwa [scalar.level]) scalar.tokens
    have announced : s.Takes s₂ (keyTokens key).reverse s.flowLevel (text ++ tail) := by
      refine ⟨scalar.goes.trans went, ?_, level.trans scalar.level, before₂.of_bare rfl⟩
      rw [tokens, keyTokens, Value.isShortKey]
      by_cases short : (encodeString true key).length ≤ keyLimit <;> simp [short]
    obtain ⟨s₃, taken⟩ := value.takes announced.before follows (by rwa [announced.level]) (by simp)
    refine ⟨s₃, ?_⟩
    rw [announced.level] at taken
    rw [List.reverse_append]
    exact announced.trans taken

/-! ## Brackets -/

theorem bare_newline (level : Nat) (cs : List Char) :
    bare (indented.newline level ++ cs) = bare cs := by
  change bare ('\n' :: (List.replicate (2 * level) ' ' ++ cs)) = bare cs
  rw [bare, List.dropWhile_cons, if_pos (by rfl), List.dropWhile_append_of_pos fun d member => by
    rw [List.eq_of_mem_replicate member]; rfl]
  rfl

theorem takes_items {texts : List (List Char)} {tss : List (List Token)} {level : Nat}
    (items : List.Forall₂ (Lexes true) texts tss) (follows : Follows tail)
    (before : s.IsBefore
      (texts.flatMap (fun next => indented.comma ++ indented.newline level ++ next) ++ tail))
    (inFlow : 0 < s.flowLevel) :
    ∃ s', s.Takes s' (tss.flatMap (.flowEntry :: ·)).reverse s.flowLevel tail := by
  induction items generalizing s with
  | nil => exact ⟨s, Takes.refl before⟩
  | @cons text ts texts tss item items ih =>
      have next : bare ((text :: texts).flatMap
          (fun next => indented.comma ++ indented.newline level ++ next) ++ tail) =
          ',' :: (indented.newline level ++ (text ++ (texts.flatMap
            (fun next => indented.comma ++ indented.newline level ++ next) ++ tail))) := by
        simp only [List.flatMap_cons, List.append_assoc]
        exact bare_cons rfl
      obtain ⟨s₁, comma, allows⟩ := takes_comma before next
      have follows' : Follows (texts.flatMap
          (fun next => indented.comma ++ indented.newline level ++ next) ++ tail) := by
        cases texts with
        | nil => exact follows
        | cons text texts => exact .comma _
      obtain ⟨s₂, first⟩ := item.takes (comma.before.of_bare (bare_newline _ _)) follows'
        (by rwa [comma.level]) (fun _ => allows)
      rw [comma.level] at first
      obtain ⟨s₃, later⟩ := ih first.before (by rwa [first.level])
      rw [first.level] at later
      refine ⟨s₃, ?_⟩
      have taken := (comma.trans first).trans later
      simpa using taken

inductive Brackets : Char → Char → Token → Token → Prop
  | square : Brackets '[' ']' .flowSequenceStart .flowSequenceEnd
  | curly : Brackets '\x7b' '\x7d' .flowMappingStart .flowMappingEnd

section Block

variable {left right : Char} {opening closing : Token} {texts : List (List Char)}
  {tss : List (List Token)}

theorem Brackets.opens (brackets : Brackets left right opening closing)
    (before : s.IsBefore (left :: tail)) :
    ∃ s', s.Takes s' [opening] (s.flowLevel + 1) tail ∧ s'.allowsKey = true := by
  cases brackets with
  | square => exact takes_open before (bare_cons rfl) (.inl ⟨rfl, rfl⟩)
  | curly => exact takes_open before (bare_cons rfl) (.inr ⟨rfl, rfl⟩)

theorem Brackets.closes (brackets : Brackets left right opening closing)
    (before : s.IsBefore (right :: tail)) :
    ∃ s', s.Takes s' [closing] (s.flowLevel - 1) tail := by
  cases brackets with
  | square => exact takes_close before (bare_cons rfl) (.inl ⟨rfl, rfl⟩)
  | curly => exact takes_close before (bare_cons rfl) (.inr ⟨rfl, rfl⟩)

theorem Brackets.isClosing (brackets : Brackets left right opening closing) :
    isClosing right = true := by
  cases brackets <;> rfl

theorem block_cons (level : Nat) (text : List Char) (texts : List (List Char)) (tail : List Char) :
    indented.block level left right (text :: texts) ++ tail =
      left :: (indented.newline (level + 1) ++ (text ++ (texts.flatMap
        (fun next => indented.comma ++ indented.newline (level + 1) ++ next) ++
          (indented.newline level ++ right :: tail)))) := by
  simp [Layout.block]

theorem takes_block {level : Nat} (brackets : Brackets left right opening closing)
    (items : List.Forall₂ (Lexes true) texts tss)
    (before : s.IsBefore (indented.block level left right texts ++ tail)) :
    ∃ s', s.Takes s' (opening :: (joined tss ++ [closing])).reverse s.flowLevel tail := by
  cases items with
  | nil =>
      obtain ⟨s₁, opened, -⟩ := brackets.opens before
      obtain ⟨s₂, closed⟩ := brackets.closes opened.before
      rw [opened.level, Nat.add_sub_cancel] at closed
      exact ⟨s₂, opened.trans closed⟩
  | @cons text ts texts tss item items =>
      rw [block_cons] at before
      have last : Follows (indented.newline level ++ right :: tail) :=
        .line (2 * level) right tail brackets.isClosing
      have follows : Follows (texts.flatMap
          (fun next => indented.comma ++ indented.newline (level + 1) ++ next) ++
            (indented.newline level ++ right :: tail)) := by
        cases texts with
        | nil => exact last
        | cons text texts => exact .comma _
      obtain ⟨s₁, opened, allows⟩ := brackets.opens before
      have inFlow : 0 < s₁.flowLevel := by rw [opened.level]; exact Nat.succ_pos _
      obtain ⟨s₂, first⟩ := item.takes (opened.before.of_bare (bare_newline _ _)) follows inFlow
        (fun _ => allows)
      obtain ⟨s₃, later⟩ := takes_items items last first.before (by rwa [first.level])
      obtain ⟨s₄, closed⟩ := brackets.closes (later.before.of_bare (bare_newline _ _))
      refine ⟨s₄, ?_⟩
      have taken := ((opened.trans first).trans later).trans closed
      rw [later.level, first.level, opened.level, Nat.add_sub_cancel] at taken
      simpa [joined] using taken

theorem printed_newline (level : Nat) : (indented.newline level).all isPrinted = true := by
  change ('\n' :: List.replicate (2 * level) ' ').all isPrinted = true
  rw [List.all_cons, List.all_replicate]
  simp [show isPrinted '\n' = true from rfl, show isPrinted ' ' = true from rfl]

theorem printed_block {level : Nat} (brackets : Brackets left right opening closing)
    (items : List.Forall₂ (Lexes true) texts tss) :
    (indented.block level left right texts).all isPrinted = true := by
  have ends : isPrinted left = true ∧ isPrinted right = true := by
    cases brackets <;> decide
  cases items with
  | nil => simp [Layout.block, ends]
  | @cons text ts texts tss item items =>
      have each : ∀ text ∈ texts, text.all isPrinted = true := by
        induction items with
        | nil => simp
        | cons item' items ih => exact List.forall_mem_cons.mpr ⟨item'.printed, ih⟩
      have lines : (texts.flatMap fun next =>
          indented.comma ++ indented.newline (level + 1) ++ next).all isPrinted = true := by
        rw [List.all_flatMap, List.all_eq_true]
        intro text member
        rw [List.all_append, List.all_append, printed_newline, each text member]
        rfl
      have written : indented.block level left right (text :: texts) ++ [] = _ :=
        block_cons level text texts []
      rw [List.append_nil] at written
      rw [written, List.all_cons, List.all_append, List.all_append, List.all_append,
        List.all_append, printed_newline, printed_newline, item.printed, lines, List.all_cons,
        ends.1, ends.2]
      rfl

theorem Lexes.block {level : Nat} (brackets : Brackets left right opening closing)
    (items : List.Forall₂ (Lexes true) texts tss) :
    Lexes false (indented.block level left right texts) (opening :: (joined tss ++ [closing])) where
  printed := printed_block brackets items
  takes before _ _ _ := takes_block brackets items before

end Block

/-! ## Data -/

theorem startsWord_signText {negative : Bool} {c : Char} {rest : List Char}
    (digit : isAsciiDigit c = true) : startsWord (signText negative ++ c :: rest) = true := by
  cases negative with
  | false => simp [signText, startsWord, isWordLead, digit]
  | true => simp [signText, startsWord, digit]

theorem lexes_encodeInt (n : Int) :
    Lexes false (encodeInt n) [.scalar (String.ofList (encodeInt n)) true] := by
  obtain ⟨c, rest, written, digit⟩ := natDigits_eq_cons n.natAbs
  have word := all_signText (decide (n < 0))
    (all_isWordChar_of_isAsciiDigit (all_natDigits n.natAbs))
  rw [Json.encodeInt_eq]
  exact lexes_word word (by rw [written]; exact startsWord_signText digit)

theorem lexes_dataText {x : Float} (finite : isFinite x = true) :
    Lexes false (dataText x) [.scalar (String.ofList (dataText x)) true] := by
  rcases dataText_cases finite with ⟨negative, t, y, written, -⟩ |
    ⟨negative, c, e, digit, -, written⟩
  · obtain ⟨c, rest, shown, digit⟩ := t.exists_cons
    rw [written]
    exact lexes_word (all_signText negative t.word)
      (by rw [shown]; exact startsWord_signText digit)
  · rw [written]
    exact lexes_word (all_signText negative (all_pointless digit e)) (startsWord_signText digit)

mutual

theorem lexes_encode {value : Value} {level : Nat} (plain : value.isPlain = true)
    (basic : value.isBasic = true) :
    Lexes false (encode indented level value) (tokensOf value) := by
  cases value with
  | null => exact lexes_word (show "null".toList.all isWordChar = true from rfl) rfl
  | bool b =>
      cases b with
      | false => exact lexes_word (show "false".toList.all isWordChar = true from rfl) rfl
      | true => exact lexes_word (show "true".toList.all isWordChar = true from rfl) rfl
  | int n => exact lexes_encodeInt n
  | float x => exact lexes_dataText plain
  | str s => exact lexes_text basic
  | list items => exact .block .square (lexes_items plain basic)
  | mapping entries => exact .block .curly (lexes_entries plain basic)
  | stamp | bytes | table | cycle => cases plain

theorem lexes_items {items : List Value} {level : Nat} (plain : Value.arePlain items = true)
    (basic : Value.everyItem (fun leaf => leaf.str?.all isBasicText) isBasicText items = true) :
    List.Forall₂ (Lexes true) (encodeItems indented level items) (itemTokens items) := by
  match items with
  | [] => exact .nil
  | item :: rest =>
      rw [Value.arePlain, Bool.and_eq_true] at plain
      rw [Value.everyItem, Bool.and_eq_true] at basic
      exact .cons (lexes_encode plain.1 basic.1).of_value (lexes_items plain.2 basic.2)

theorem lexes_entries {entries : Entries} {level : Nat} (plain : Value.entriesPlain entries = true)
    (basic : Value.everyEntry (fun leaf => leaf.str?.all isBasicText) isBasicText entries = true) :
    List.Forall₂ (Lexes true) ((encodeEntries indented level entries).map (·.2))
      (entryTokens entries) := by
  match entries with
  | [] => exact .nil
  | (key, value) :: rest =>
      rw [Value.entriesPlain, Bool.and_eq_true] at plain
      rw [Value.everyEntry, Bool.and_eq_true, Bool.and_eq_true] at basic
      exact .cons (lexes_entry basic.1.1 (lexes_encode plain.1 basic.1.2))
        (lexes_entries plain.2 basic.2)

end

/-! ## Documents -/

theorem run_of_takes {cs : List Char} (taken : (start cs).Takes s ts.reverse 0 []) :
    run (cs.length + 2) (start cs) = ts ++ [.textEnd] := by
  obtain ⟨⟨n, fewer, went⟩, tokens, -, before⟩ := taken
  have enough : n ≤ cs.length := Nat.le_of_add_right_le fewer
  have last := step_end before rfl rfl
  have settles := settles_settled before rfl
  rw [show cs.length + 2 = cs.length - n + 1 + 1 + n by omega, went, run, last]
  change (Token.textEnd :: s.settled.tokens).reverse = _
  rw [settles.tokens, tokens]
  simp [start]

end Lexer

section Text

variable {entries : Entries}

theorem toList_text (value : Value) : (text value).toList = encode indented 0 value :=
  String.toList_ofList

theorem unified_text {value : Value} (plain : value.isPlain = true) (basic : value.isBasic = true) :
    unified (text value) = text value := by
  have printed : (encode indented 0 value).all isPrinted = true :=
    (Lexer.lexes_encode plain basic).printed
  refine unified_of_notMem ?_
  rw [toList_text]
  exact fun member => absurd (List.all_eq_true.mp printed _ member) (by decide)

/-- The tokens of a written mapping are those of its data. -/
theorem tokens_text (plain : (Value.mapping entries).isPlain = true)
    (basic : (Value.mapping entries).isBasic = true) :
    tokens (text (.mapping entries)) = tokensOf (.mapping entries) ++ [.textEnd] := by
  have printed : (encode indented 0 (.mapping entries)).all isPrinted = true :=
    (Lexer.lexes_encode plain basic).printed
  have allowed : (encode indented 0 (.mapping entries)).all isAllowed = true :=
    List.all_eq_true.mpr fun ch member =>
      isAllowed_of_isPrinted (List.all_eq_true.mp printed ch member)
  rw [tokens, toList_text, if_pos allowed]
  have before : (Lexer.start (encode indented 0 (.mapping entries))).IsBefore
      (encode indented 0 (.mapping entries) ++ []) :=
    ⟨by rw [List.append_nil]; rfl, rfl, rfl, by simp [Lexer.start]⟩
  obtain ⟨s, taken⟩ := Lexer.takes_block .curly (Lexer.lexes_entries plain basic) before
  exact Lexer.run_of_takes taken

end Text

end StillMotion.Document
