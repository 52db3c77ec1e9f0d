import StillMotion.Document.Lexer
import StillMotion.Proofs.Data.Outcome
import StillMotion.Proofs.Document.Plain
import StillMotion.Proofs.Document.Quoted

/-!
# Cutting a text in brackets

Outside of block collections no possible key is required and no indentation is open, so between
two tokens only the gap is skipped and keys that are too far back are forgotten.  What each kind
of token does to the lexer is said once here.
-/

namespace StillMotion.Document.Lexer

open StillMotion.Text

variable {s s' s'' : Lexer} {ch : Char} {more tail : List Char}

/-! ## Between tokens -/

def isSolid (ch : Char) : Bool := !isGapChar ch && !isBreak ch && ch != '#' && ch != orderMark

theorem of_isSolid (solid : isSolid ch = true) :
    isGapChar ch = false ∧ isBreak ch = false ∧ ch ≠ '#' ∧ ch ≠ orderMark := by
  simpa only [isSolid, Bool.and_eq_true, Bool.not_eq_true', bne_iff_ne, and_assoc] using solid

structure IsBefore (s : Lexer) (rest : List Char) : Prop where
  rest : bare s.cursor.rest = bare rest
  indent : s.indent = -1
  outer : s.outerIndents = []
  optional : ∀ k ∈ s.possibleKeys, k.isRequired = false

@[irreducible] def settled (s : Lexer) : Lexer :=
  let s := skipToToken s.cursor.rest.length.succ s.skipOrderMark
  { s with possibleKeys := s.possibleKeys.filter fun k => !s.isStale k }

theorem rest_skipWhile (p : Char → Bool) (c : Cursor) :
    (c.skipWhile p).rest = c.rest.dropWhile p := by
  have parts := List.takeWhile_append_dropWhile (p := p) (l := c.rest)
  rw [Cursor.skipWhile, Cursor.span, Cursor.rest_skip]
  calc c.rest.drop (c.rest.takeWhile p).length
      = (c.rest.takeWhile p ++ c.rest.dropWhile p).drop (c.rest.takeWhile p).length := by rw [parts]
    _ = c.rest.dropWhile p := List.drop_left

theorem bare_dropWhile (cs : List Char) : bare (cs.dropWhile isSpace) = bare cs := by
  induction cs with
  | nil => rfl
  | cons ch cs ih =>
      rw [List.dropWhile_cons]
      split
      next space =>
          rw [ih, bare, bare, List.dropWhile_cons, if_pos]
          simpa [isGapChar, isSpace] using Or.inl space
      next => rfl

theorem bare_cons (solid : isGapChar ch = false) : bare (ch :: more) = ch :: more := by
  rw [bare, List.dropWhile_cons, if_neg (by simp [solid])]

theorem bare_of_solid (solid : isSolid ch = true) : bare (ch :: more) = ch :: more :=
  bare_cons (of_isSolid solid).1

section Skipping

variable {c : Cursor} {fuel : Nat} (there : s.cursor.skipWhile isSpace = c)

include there

theorem skipToToken_stop (comment : c.skipComment = c) (last : c.lineBreak? = none) :
    skipToToken (fuel + 1) s = { s with cursor := c } := by
  rw [skipToToken, there]
  simp only [comment, last]
  rfl

theorem skipToToken_end (here : c.rest = []) :
    skipToToken (fuel + 1) s = { s with cursor := c } :=
  skipToToken_stop there (by simp [Cursor.skipComment, Cursor.here, here])
    (by simp [Cursor.lineBreak?, Cursor.here, here])

theorem skipToToken_solid (here : c.rest = ch :: more) (solid : isSolid ch = true) :
    skipToToken (fuel + 1) s = { s with cursor := c } := by
  obtain ⟨-, unbroken, other, -⟩ := of_isSolid solid
  exact skipToToken_stop there (by simp [Cursor.skipComment, Cursor.here_of_rest here, other])
    (lineBreak?_eq_none here unbroken)

theorem skipToToken_line (here : c.rest = '\n' :: more) :
    skipToToken (fuel + 1) s =
      skipToToken fuel { s with cursor := c.next, allowsKey := s.allowsKey || !s.inFlow } := by
  have comment : c.skipComment = c := by simp [Cursor.skipComment, Cursor.here_of_rest here]
  have line : c.lineBreak? = some ('\n', c.next) := by
    simp only [Cursor.lineBreak?, Cursor.here_of_rest here]
    rfl
  rw [skipToToken, there]
  simp only [comment, line]

end Skipping

theorem skipToToken_spec {fuel : Nat} (solid : (bare s.cursor.rest).head?.all isSolid = true)
    (enough : s.cursor.rest.length < fuel) :
    ∃ c allows, skipToToken fuel s = { s with cursor := c, allowsKey := allows } ∧
      c.rest = bare s.cursor.rest ∧ (s.allowsKey = true → allows = true) := by
  induction fuel generalizing s with
  | zero => exact absurd enough (Nat.not_lt_zero _)
  | succ fuel ih =>
      have same := bare_dropWhile s.cursor.rest
      have shorter := (List.dropWhile_sublist (p := isSpace) (l := s.cursor.rest)).length_le
      have lead := List.head?_dropWhile_not isSpace s.cursor.rest
      rw [← rest_skipWhile isSpace s.cursor] at same shorter lead
      obtain ⟨c, there⟩ : ∃ c, s.cursor.skipWhile isSpace = c := ⟨_, rfl⟩
      rw [there] at same shorter lead
      rcases here : c.rest with _ | ⟨d, after⟩
      · exact ⟨c, s.allowsKey, skipToToken_end there here, by rw [← same, here]; rfl, id⟩
      · rw [here] at same shorter lead
        by_cases line : d = '\n'
        · subst line
          have rest : c.next.rest = after := by rw [Cursor.rest_next, here]; rfl
          have same' : bare after = bare s.cursor.rest := same
          rw [skipToToken_line there here]
          obtain ⟨c', allows, read, target, grows⟩ := ih
            (s := { s with cursor := c.next, allowsKey := s.allowsKey || !s.inFlow })
            (by rwa [rest, same']) (by rw [rest]; simp only [List.length_cons] at shorter; omega)
          exact ⟨c', allows, read, by rw [target, rest, same'], fun held => grows (by simp [held])⟩
        · have gap : isGapChar d = false := by
            rw [isGapChar, beq_eq_false_iff_ne.mpr line, Bool.or_false]
            simpa [isSpace] using lead
          rw [bare_cons gap] at same
          rw [← same] at solid ⊢
          exact ⟨c, s.allowsKey, skipToToken_solid there here (by simpa using solid), here, id⟩

theorem unwind_eq (outer : s.outerIndents = []) (column : Int) : s.unwind column = s := by
  unfold unwind
  split
  · rfl
  · rw [outer]
    rfl

theorem dropStaleKeys_eq (optional : ∀ k ∈ s.possibleKeys, k.isRequired = false) :
    s.dropStaleKeys =
      .ok { s with possibleKeys := s.possibleKeys.filter fun k => !s.isStale k } := by
  have none : (s.possibleKeys.any fun k => s.isStale k && k.isRequired) = false := by
    rw [List.any_eq_false]
    intro k member
    rw [optional k member, Bool.and_false]
    exact Bool.false_ne_true
  rw [dropStaleKeys, none, if_neg Bool.false_ne_true]

theorem removeKey_eq (optional : ∀ k ∈ s.possibleKeys, k.isRequired = false) :
    s.removeKey = .ok s.withoutCurrentKey := by
  unfold removeKey
  split
  next k found =>
      rw [optional k (List.mem_of_find?_eq_some found), if_neg Bool.false_ne_true]
  next none =>
      have all : s.possibleKeys.filter (fun k => k.level != s.flowLevel) = s.possibleKeys := by
        rw [List.filter_eq_self]
        intro k member
        have other := List.find?_eq_none.mp none k member
        simpa using other
      rw [withoutCurrentKey, all]

structure Settles (s t : Lexer) (text : List Char) : Prop where
  rest : t.cursor.rest = text
  tokens : t.tokens = s.tokens
  level : t.flowLevel = s.flowLevel
  allows : s.allowsKey = true → t.allowsKey = true
  indent : t.indent = -1
  outer : t.outerIndents = []
  optional : ∀ k ∈ t.possibleKeys, k.isRequired = false

section Settled

variable {rest : List Char} (before : s.IsBefore rest)
  (solid : (bare rest).head?.all isSolid = true)

include before solid

theorem skipOrderMark_eq : s.skipOrderMark = s := by
  unfold skipOrderMark
  split
  next marked =>
      exfalso
      rw [Bool.and_eq_true, Cursor.here, beq_iff_eq] at marked
      have same := before.rest
      rcases here : s.cursor.rest with _ | ⟨d, more⟩
      · simp [here] at marked
      · obtain rfl : d = orderMark := by simpa [here] using marked.2
        rw [here, bare_cons (by decide)] at same
        have notSolid : isSolid orderMark = false := by decide
        rw [← same, List.head?_cons, Option.all_some, notSolid] at solid
        cases solid
  next => rfl

theorem skipToToken_eq : ∃ c allows, c.rest = bare rest ∧ (s.allowsKey = true → allows = true) ∧
    skipToToken s.cursor.rest.length.succ s.skipOrderMark =
      { s with cursor := c, allowsKey := allows } := by
  have solid' : (bare s.cursor.rest).head?.all isSolid = true := by rwa [before.rest]
  obtain ⟨c, allows, read, target, grows⟩ := skipToToken_spec solid' (Nat.lt_succ_self _)
  exact ⟨c, allows, target.trans before.rest, grows, by rw [skipOrderMark_eq before solid, read]⟩

theorem settles_settled : s.Settles s.settled (bare rest) := by
  obtain ⟨c, allows, target, grows, read⟩ := skipToToken_eq before solid
  rw [settled, read]
  exact ⟨target, rfl, rfl, grows, before.indent, before.outer,
    fun k member => before.optional k (List.mem_filter.mp member).1⟩

theorem dropStaleKeys_skipped :
    (skipToToken s.cursor.rest.length.succ s.skipOrderMark).dropStaleKeys = .ok s.settled := by
  obtain ⟨c, allows, -, -, read⟩ := skipToToken_eq before solid
  rw [settled, read]
  exact dropStaleKeys_eq before.optional

/-- Outside of block collections the next token is read where the lexer settles. -/
theorem step_token (next : bare rest = ch :: more) :
    s.step = (s.settled.tokenAt ch).map fun s' => (some s', s') := by
  have settles := settles_settled before solid
  have here : s.settled.cursor.here = some ch := Cursor.here_of_rest (settles.rest.trans next)
  unfold step
  simp only [dropStaleKeys_skipped before solid, Except.ok_bind, unwind_eq settles.outer, here]
  cases s.settled.tokenAt ch <;> rfl

theorem step_end (next : bare rest = []) :
    s.step = .ok (none, s.settled.withoutCurrentKey.emit .textEnd) := by
  have settles := settles_settled before solid
  have here : s.settled.cursor.here = none := by
    rw [Cursor.here, settles.rest, next, List.head?_nil]
  unfold step
  simp only [dropStaleKeys_skipped before solid, Except.ok_bind, unwind_eq settles.outer, here,
    removeKey_eq settles.optional]

end Settled

/-! ## Runs -/

/-- Some steps lead from one lexer to the other, no more than the characters between them. -/
def Goes (s s' : Lexer) : Prop :=
  ∃ n, n + s'.cursor.rest.length ≤ s.cursor.rest.length ∧ ∀ fuel, run (fuel + n) s = run fuel s'

theorem Goes.trans (first : s.Goes s') (second : s'.Goes s'') : s.Goes s'' := by
  obtain ⟨n, less, same⟩ := first
  obtain ⟨m, less', same'⟩ := second
  exact ⟨m + n, by omega, fun fuel => by rw [← Nat.add_assoc, same, same']⟩

theorem length_bare_le (cs : List Char) : (bare cs).length ≤ cs.length :=
  (List.dropWhile_sublist _).length_le

theorem goes_token {rest : List Char} (before : s.IsBefore rest) (next : bare rest = ch :: more)
    (solid : isSolid ch = true) (read : s.settled.tokenAt ch = .ok s')
    (shorter : s'.cursor.rest.length ≤ more.length) : s.Goes s' := by
  have long := length_bare_le s.cursor.rest
  rw [before.rest, next, List.length_cons] at long
  refine ⟨1, by omega, fun fuel => ?_⟩
  rw [run, step_token before (by simpa [next] using solid) next, read]
  rfl

/-- What reading some tokens leaves: the tokens so far, the level of brackets and the text from
there on. -/
structure Takes (s s' : Lexer) (tokens : List Token) (level : Nat) (rest : List Char) : Prop where
  goes : s.Goes s'
  tokens : s'.tokens = tokens ++ s.tokens
  level : s'.flowLevel = level
  before : s'.IsBefore rest

section Token

variable {t : Lexer} {rest : List Char} {token : Token} {level : Nat} {allows : Bool}

theorem settles_of_next (before : s.IsBefore rest) (next : bare rest = ch :: more)
    (solid : isSolid ch = true) : s.Settles s.settled (ch :: more) := by
  have settles := settles_settled before (by simpa [next] using solid)
  rwa [next] at settles

/-! ## Possible keys -/

theorem Settles.withoutCurrentKey (settles : s.Settles t rest) :
    s.Settles t.withoutCurrentKey rest where
  rest := settles.rest
  tokens := settles.tokens
  level := settles.level
  allows := settles.allows
  indent := settles.indent
  outer := settles.outer
  optional k member := settles.optional k (List.mem_filter.mp member).1

def keyHere (s : Lexer) : PossibleKey :=
  ⟨s.flowLevel, s.tokens.length, false, s.cursor.index, s.cursor.line, s.cursor.column⟩

theorem Settles.saveKey_eq (settles : s.Settles t rest) :
    ∃ t', t.saveKey = .ok t' ∧ s.Settles t' rest ∧ t'.cursor = t.cursor ∧
      (t.allowsKey = true → t' = { t with
        possibleKeys := t.keyHere :: t.withoutCurrentKey.possibleKeys }) := by
  have outside : (t.indent == t.column) = false := by
    rw [settles.indent, beq_eq_false_iff_ne, column]
    omega
  by_cases allowed : t.allowsKey = true
  · refine ⟨{ t with possibleKeys := t.keyHere :: t.withoutCurrentKey.possibleKeys }, ?_, ?_, rfl,
      fun _ => rfl⟩
    · rw [saveKey, if_pos allowed, removeKey_eq settles.optional, outside, Bool.and_false]
      rfl
    · refine ⟨settles.rest, settles.tokens, settles.level, settles.allows, settles.indent,
        settles.outer, fun k member => ?_⟩
      rcases List.mem_cons.mp member with rfl | old
      · rfl
      · exact settles.withoutCurrentKey.optional k old
  · exact ⟨t, by rw [saveKey, if_neg allowed], settles, rfl, fun held => absurd held allowed⟩

/-! ## Marks -/

theorem goes_mark (before : s.IsBefore rest) (next : bare rest = ch :: more)
    (solid : isSolid ch = true) (read : s.settled.tokenAt ch = .ok (mark 1 token t))
    (place : t.cursor = s.settled.cursor) (indent : t.indent = -1) (outer : t.outerIndents = [])
    (optional : ∀ k ∈ t.possibleKeys, k.isRequired = false) :
    s.Goes (mark 1 token t) ∧ (mark 1 token t).IsBefore more := by
  have after : (t.cursor.skip 1).rest = more := by
    rw [Cursor.rest_skip, place, (settles_of_next before next solid).rest]
    rfl
  exact ⟨goes_token before next solid read (Nat.le_of_eq (congrArg List.length after)),
    congrArg bare after, indent, outer, optional⟩

theorem takes_mark (before : s.IsBefore rest) (next : bare rest = ch :: more)
    (solid : isSolid ch = true) (settles : s.Settles t (ch :: more))
    (place : t.cursor = s.settled.cursor) (read : s.settled.tokenAt ch =
      .ok (mark 1 token { t with flowLevel := level, allowsKey := allows })) :
    ∃ s', s.Takes s' [token] level more ∧ s'.allowsKey = allows := by
  obtain ⟨went, before'⟩ := goes_mark before next solid read place settles.indent settles.outer
    settles.optional
  exact ⟨_, ⟨went, congrArg (token :: ·) settles.tokens, rfl, before'⟩, rfl⟩

theorem takes_open (before : s.IsBefore rest) (next : bare rest = ch :: more)
    (bracket : ch = '[' ∧ token = .flowSequenceStart ∨ ch = '\x7b' ∧ token = .flowMappingStart) :
    ∃ s', s.Takes s' [token] (s.flowLevel + 1) more ∧ s'.allowsKey = true := by
  have solid : isSolid ch = true := by
    rcases bracket with ⟨rfl, -⟩ | ⟨rfl, -⟩ <;> decide
  have settles := settles_of_next before next solid
  have opens : s.settled.tokenAt ch = s.settled.openFlow token := by
    rcases bracket with ⟨rfl, rfl⟩ | ⟨rfl, rfl⟩ <;>
      simp [tokenAt, Cursor.isMarker, Cursor.peek, settles.rest]
  obtain ⟨t, saved, settles', place, -⟩ := settles.saveKey_eq
  rw [openFlow, saved] at opens
  refine takes_mark before next solid settles' place (opens.trans ?_)
  rw [← settles'.level]
  rfl

theorem takes_close (before : s.IsBefore rest) (next : bare rest = ch :: more)
    (bracket : ch = ']' ∧ token = .flowSequenceEnd ∨ ch = '\x7d' ∧ token = .flowMappingEnd) :
    ∃ s', s.Takes s' [token] (s.flowLevel - 1) more := by
  have solid : isSolid ch = true := by
    rcases bracket with ⟨rfl, -⟩ | ⟨rfl, -⟩ <;> decide
  have settles := settles_of_next before next solid
  have closes : s.settled.tokenAt ch = s.settled.closeFlow token := by
    rcases bracket with ⟨rfl, rfl⟩ | ⟨rfl, rfl⟩ <;>
      simp [tokenAt, Cursor.isMarker, Cursor.peek, settles.rest]
  rw [closeFlow, removeKey_eq settles.optional] at closes
  obtain ⟨s', taken, -⟩ : ∃ s', s.Takes s' [token] (s.flowLevel - 1) more ∧ s'.allowsKey = false :=
    takes_mark before next solid settles.withoutCurrentKey rfl
      (closes.trans (by rw [← settles.level]; rfl))
  exact ⟨s', taken⟩

theorem takes_comma (before : s.IsBefore rest) (next : bare rest = ',' :: more) :
    ∃ s', s.Takes s' [.flowEntry] s.flowLevel more ∧ s'.allowsKey = true := by
  have settles := settles_of_next before next (by decide)
  have comma : s.settled.tokenAt ',' = s.settled.flowComma := by
    simp [tokenAt, Cursor.isMarker, Cursor.peek, settles.rest]
  rw [flowComma, removeKey_eq (s := s.settled.allowKey true) settles.optional] at comma
  refine takes_mark before next (by decide) settles.withoutCurrentKey rfl (comma.trans ?_)
  rw [← settles.level]
  rfl

/-! ## Scalars -/

theorem takes_scalar {c : Cursor} (before : s.IsBefore rest) (next : bare rest = ch :: more)
    (solid : isSolid ch = true) {text : List Char} (settles : s.Settles t text)
    (read : s.settled.tokenAt ch = .ok ((({ t with allowsKey := allows }).moveTo c).emit token))
    (after : bare c.rest = bare tail) (shorter : c.rest.length ≤ more.length) :
    s.Takes ((({ t with allowsKey := allows }).moveTo c).emit token) [token] s.flowLevel tail where
  goes := goes_token before next solid read shorter
  tokens := congrArg (token :: ·) settles.tokens
  level := settles.level
  before := ⟨after, settles.indent, settles.outer, settles.optional⟩

/-- The latest possible key is the scalar before the cursor, and it is the only one of its
level. -/
structure IsKeyed (s : Lexer) (length : Nat) (k : PossibleKey) : Prop where
  level : k.level = s.flowLevel
  position : s.tokens.length = k.position + 1
  line : k.line = s.cursor.line
  index : s.cursor.index = k.index + length
  older : ∃ older, s.possibleKeys = k :: older ∧ ∀ o ∈ older, o.level ≠ s.flowLevel

theorem takes_quoted {text : String} (basic : isBasicText text = true) (before : s.IsBefore rest)
    (next : bare rest = Json.encodeString true text ++ more) :
    ∃ s', s.Takes s' [.scalar text false] s.flowLevel more ∧ s'.cursor.rest = more ∧
      (s.allowsKey = true → ∃ k, s'.IsKeyed (Json.encodeString true text).length k) := by
  have settles := settles_of_next before next (by decide)
  have quoted : s.settled.tokenAt '"' = s.settled.keyed readQuoted := by
    simp [tokenAt, Cursor.isMarker, Cursor.peek, settles.rest]
  obtain ⟨t, saved, settles', place, keys⟩ := settles.saveKey_eq
  obtain ⟨c, scalar, passed⟩ := quotedScalar_encodeString basic settles'.rest
  have after : c.rest = more := passed.rest_eq settles'.rest
  rw [keyed, saved] at quoted
  have read : s.settled.tokenAt '"' =
      .ok ((({ t with allowsKey := false }).moveTo c).emit (.scalar text false)) := by
    rw [quoted, Except.ok_bind, readQuoted, scalar]
    rfl
  have shorter : c.rest.length ≤
      (text.toList.flatMap (Json.encodeChar true) ++ ['"'] ++ more).length := by
    rw [after, List.length_append]
    exact Nat.le_add_left _ _
  refine ⟨_, takes_scalar before next (by decide) settles' read (congrArg bare after) shorter,
    after, ?_⟩
  intro allowed
  obtain rfl := keys (settles.allows allowed)
  refine ⟨s.settled.keyHere, rfl, rfl, passed.line.symm, passed.index,
    s.settled.withoutCurrentKey.possibleKeys, rfl, fun o member => ?_⟩
  have other := (List.mem_filter.mp member).2
  rw [bne_iff_ne] at other
  exact other

theorem settled_of_solid (before : s.IsBefore (ch :: more)) (here : s.cursor.rest = ch :: more)
    (solid : isSolid ch = true) :
    s.settled = { s with possibleKeys := s.possibleKeys.filter fun k => !s.isStale k } := by
  have unmarked : s.skipOrderMark = s :=
    skipOrderMark_eq before (by rw [bare_of_solid solid]; simpa using solid)
  have space : isSpace ch = false := (Bool.or_eq_false_iff.mp (of_isSolid solid).1).1
  have still : s.cursor.skipWhile isSpace = s.cursor := by
    rw [Cursor.skipWhile, span_of_none here space]
  have stays : skipToToken s.cursor.rest.length.succ s = s := skipToToken_solid still here solid
  rw [settled, unmarked, stays]

theorem isStale_iff {length : Nat} {k : PossibleKey} (keyed : s.IsKeyed length k) :
    s.isStale k = decide (keyLimit < length) := by
  rw [isStale, keyed.line, keyed.index, bne_self_eq_false, Bool.false_or, Nat.add_sub_cancel_left]

/-- The key of the current level is the scalar before the colon, unless it is too long. -/
theorem currentKey?_settled {length : Nat} {k : PossibleKey} (before : s.IsBefore (':' :: more))
    (here : s.cursor.rest = ':' :: more) (keyed : s.IsKeyed length k) :
    s.settled.currentKey? = if length ≤ keyLimit then some k else none := by
  obtain ⟨older, keys, others⟩ := keyed.older
  rw [settled_of_solid before here (by decide), currentKey?]
  dsimp only
  rw [keys, List.filter_cons, isStale_iff keyed]
  by_cases short : length ≤ keyLimit
  · rw [if_pos (by simpa using short), if_pos short, List.find?_cons_of_pos]
    rw [beq_iff_eq, keyed.level]
  · rw [if_neg (by simpa using short), if_neg short, List.find?_eq_none]
    intro o member
    rw [beq_iff_eq]
    exact others o (List.mem_filter.mp member).1

theorem insert_key {scalar : Token} {older : List Token} {position : Nat}
    (last : s.tokens.length = position + 1) (tokens : s.tokens = scalar :: older) (token : Token) :
    (s.insert position token).tokens = scalar :: token :: older := by
  have one : s.tokens.length - position = 1 := by omega
  rw [insert]
  dsimp only
  rw [one, tokens]
  rfl

theorem takes_colon {length : Nat} {k : PossibleKey} (before : s.IsBefore (':' :: more))
    (here : s.cursor.rest = ':' :: more) (keyed : s.IsKeyed length k) (inFlow : 0 < s.flowLevel)
    {scalar : Token} {older : List Token} (tokens : s.tokens = scalar :: older) :
    ∃ s', s.Goes s' ∧ s'.flowLevel = s.flowLevel ∧ s'.IsBefore more ∧ s'.tokens =
      .value :: scalar :: ((if length ≤ keyLimit then [.key] else []) ++ older) := by
  have settles := settles_of_next before rfl (by decide)
  have flow : s.settled.inFlow = true := by
    rw [Lexer.inFlow, settles.level, decide_eq_true_eq]
    exact inFlow
  have read : s.settled.tokenAt ':' = s.settled.colon := by
    simp [tokenAt, Cursor.isMarker, Cursor.peek, settles.rest, flow]
  have current := currentKey?_settled before here keyed
  rw [colon, current] at read
  by_cases short : length ≤ keyLimit
  · rw [if_pos short] at read ⊢
    have flow' : (s.settled.withoutCurrentKey.insert k.position .key).inFlow = true := flow
    simp only [flow', if_true, Bool.false_eq_true, if_false] at read
    have keyed' : s.settled.withoutCurrentKey.tokens.length = k.position + 1 :=
      (congrArg List.length settles.tokens).trans keyed.position
    obtain ⟨went, before'⟩ := goes_mark before rfl (by decide) read rfl settles.indent settles.outer
      settles.withoutCurrentKey.optional
    refine ⟨_, went, settles.level, before', ?_⟩
    exact congrArg (Token.value :: ·) (insert_key keyed' (settles.tokens.trans tokens) .key)
  · rw [if_neg short] at read ⊢
    rw [beginBlock, if_pos flow] at read
    dsimp only at read
    rw [Except.ok_bind, removeKey_eq (s := s.settled.allowKey !s.settled.inFlow) settles.optional,
      Except.ok_bind] at read
    obtain ⟨went, before'⟩ := goes_mark before rfl (by decide) read rfl settles.indent
      settles.outer settles.withoutCurrentKey.optional
    exact ⟨_, went, settles.level, before',
      congrArg (Token.value :: ·) (settles.tokens.trans tokens)⟩

/-! ## Words -/

def isWordLead (ch : Char) : Bool := isAsciiDigit ch || ('a' ≤ ch && ch ≤ 'z')

def startsWord : List Char → Bool
  | ch :: rest => isWordLead ch || (ch == '-' && rest.head?.any isAsciiDigit)
  | [] => false

theorem isWordChar_of_isWordLead (lead : isWordLead ch = true) : isWordChar ch = true := by
  rw [isWordLead] at lead
  rw [isWordChar, lead]
  rfl

theorem of_isWordLead {p : Char → Bool}
    (each : ((List.range 128).map Char.ofNat).all (fun c => !isWordLead c || p c) = true)
    (lead : isWordLead ch = true) : p ch = true := by
  have here := of_isWordChar (p := fun c => !isWordLead c || p c)
    (List.all_eq_true.mpr fun c member => by rw [List.all_eq_true.mp each c member, Bool.or_true])
    (isWordChar_of_isWordLead lead)
  simpa [lead] using here

theorem tokenAt_lead (here : s.cursor.rest = ch :: more) (lead : isWordLead ch = true) :
    s.tokenAt ch = s.keyed readPlain := by
  have others := of_isWordLead (p := fun c => !(['%', '-', '.', '[', ']', '\x7b', '\x7d', ',', '?',
    ':', '*', '&', '!', '|', '>', '"'].contains c || c.toNat == 39)) (by decide) lead
  have plain := of_isWordLead
    (p := fun c => !isSpaceOrTab c && !isBreak c && !indicators.contains c) (by decide) lead
  have starts : s.startsPlain ch = true := by rw [startsPlain, plain, Bool.true_or]
  simp only [List.contains_cons, List.contains_nil, Bool.not_or, Bool.and_eq_true,
    Bool.not_eq_true', beq_eq_false_iff_ne] at others
  simp [tokenAt, Cursor.isMarker, Cursor.peek, here, others, starts]

theorem tokenAt_minus {d : Char} (here : s.cursor.rest = '-' :: d :: more)
    (digit : isAsciiDigit d = true) : s.tokenAt '-' = s.keyed readPlain := by
  have next : s.cursor.peek 1 = some d := by rw [Cursor.peek, here]; rfl
  have solid := of_isWordChar (p := fun c => !(isSpaceOrTab c || isBreak c)) (by decide)
    (isWordChar_of_isAsciiDigit digit)
  have apart : isBlankOrEnd (s.cursor.peek 1) = false := by
    rw [next]
    exact (Bool.not_eq_true' _).mp solid
  have other : d ≠ '-' := by
    rintro rfl
    cases digit
  have starts : s.startsPlain '-' = true := by
    rw [startsPlain, apart]
    rfl
  have noStart : s.cursor.isMarker '-' = false := by simp [Cursor.isMarker, next, other]
  have noEnd : s.cursor.isMarker '.' = false := by simp [Cursor.isMarker, Cursor.peek, here]
  simp [tokenAt, apart, starts, noStart, noEnd]

theorem tokenAt_word {run : List Char} (here : s.cursor.rest = ch :: run ++ more)
    (starts : startsWord (ch :: run) = true) : s.tokenAt ch = s.keyed readPlain := by
  rw [startsWord, Bool.or_eq_true, Bool.and_eq_true, beq_iff_eq] at starts
  rcases starts with lead | ⟨rfl, digit⟩
  · exact tokenAt_lead here lead
  · rcases run with _ | ⟨d, run⟩
    · cases digit
    · exact tokenAt_minus here digit

theorem takes_word {run tail : List Char} (word : run.all isWordChar = true)
    (starts : startsWord run = true) (follows : Follows tail) (before : s.IsBefore rest)
    (next : bare rest = run ++ tail) (inFlow : 0 < s.flowLevel) :
    ∃ s', s.Takes s' [.scalar (String.ofList run) true] s.flowLevel tail := by
  obtain ⟨ch, run, rfl⟩ : ∃ ch rest, run = ch :: rest := by
    cases run with
    | nil => cases starts
    | cons ch rest => exact ⟨ch, rest, rfl⟩
  have solid : isSolid ch = true := by
    rw [List.all_cons, Bool.and_eq_true] at word
    exact of_isWordChar (by decide) word.1
  have settles := settles_of_next before next solid
  have read := tokenAt_word settles.rest starts
  obtain ⟨t, saved, settles', place, -⟩ := settles.saveKey_eq
  obtain ⟨broken, c, scalar, same, shorter⟩ := plainScalar_word t.indent word (List.cons_ne_nil _ _)
    follows settles'.rest
  have flow : t.inFlow = true := by
    rw [Lexer.inFlow, settles'.level, decide_eq_true_eq]
    exact inFlow
  rw [keyed, saved] at read
  have read' : s.settled.tokenAt ch = .ok ((({ t with allowsKey := broken }).moveTo c).emit
      (.scalar (String.ofList (ch :: run)) true)) := by
    rw [read, Except.ok_bind, readPlain, flow, scalar]
    rfl
  have shorter' : c.rest.length ≤ (run ++ tail).length := by
    rw [List.length_append]
    exact Nat.le_trans shorter (Nat.le_add_left _ _)
  exact ⟨_, takes_scalar before next solid settles' read' same shorter'⟩

end Token

end StillMotion.Document.Lexer
