import StillMotion.Document.Node
import StillMotion.Proofs.Document.Lexing

/-!
# The tree of written data

The tokens of written data are read as the tree of the data when all keys are announced and the
nesting is no deeper than allowed; otherwise the reader refuses them.
-/

namespace StillMotion.Document

open StillMotion.Json StillMotion.Number

/-! ## Trees -/

mutual

def nodeOf : Value → Node
  | .null => .scalar none "null"
  | .bool true => .scalar none "true"
  | .bool false => .scalar none "false"
  | .int n => .scalar none (String.ofList (encodeInt n))
  | .float x => .scalar none (String.ofList (dataText x))
  | .str s => .scalar (some textTag) s
  | .list items => .sequence none (itemNodes items)
  | .mapping entries => .mapping none (entryNodes entries)
  | .stamp _ | .bytes _ | .table _ | .cycle _ => .absent

def itemNodes : List Value → List Node
  | [] => []
  | item :: rest => nodeOf item :: itemNodes rest

def entryNodes : List (String × Value) → List (Node × Node)
  | [] => []
  | (key, value) :: rest => (.scalar (some textTag) key, nodeOf value) :: entryNodes rest

end

def Token.opensValue : Token → Bool
  | .scalar _ _ | .flowSequenceStart | .flowMappingStart => true
  | _ => false

theorem tokensOf_eq_cons {value : Value} (plain : value.isPlain = true) :
    ∃ token rest, tokensOf value = token :: rest ∧ token.opensValue = true := by
  cases value with
  | bool b => cases b <;> exact ⟨_, _, rfl, rfl⟩
  | stamp | bytes | table | cycle => cases plain
  | _ => exact ⟨_, _, rfl, rfl⟩

theorem length_tokensOf_pos {value : Value} (plain : value.isPlain = true) :
    0 < (tokensOf value).length := by
  obtain ⟨token, rest, written, -⟩ := tokensOf_eq_cons plain
  rw [written]
  exact Nat.succ_pos _

/-- What is due before an item of a collection. -/
def lead (isFirst : Bool) : List Token := if isFirst then [] else [.flowEntry]

def listed (isFirst : Bool) (tss : List (List Token)) : List Token :=
  if isFirst then joined tss else tss.flatMap (.flowEntry :: ·)

theorem listed_true (tss : List (List Token)) : listed true tss = joined tss := rfl

theorem listed_nil (isFirst : Bool) : listed isFirst [] = [] := by
  cases isFirst <;> rfl

theorem listed_cons (isFirst : Bool) (ts : List Token) (tss : List (List Token)) :
    listed isFirst (ts :: tss) = lead isFirst ++ (ts ++ listed false tss) := by
  cases isFirst <;> rfl

/-! ## Single steps -/

section Steps

variable {depth fuel : Nat} {position : Position} {token : Token} {rest : List Token}
  {anchors : List (String × Node)} {handles : List (String × String)} {key : String}
  {item value : Value} {isFirst : Bool}

theorem nodeFrom_zero (plain : value.isPlain = true) :
    (nodeFrom 0 position fuel ⟨tokensOf value ++ rest, anchors, handles⟩).toOption = none := by
  obtain ⟨token, more, written, opens⟩ := tokensOf_eq_cons plain
  rw [written]
  cases fuel with
  | zero => rfl
  | succ fuel => cases token <;> first | rfl | cases opens

theorem nodeFrom_sequence :
    nodeFrom (depth + 1) position (fuel + 1) ⟨.flowSequenceStart :: rest, anchors, handles⟩ =
      (flowItems depth true fuel ⟨rest, anchors, handles⟩ >>= fun items =>
        .ok (.sequence none items.1, items.2)) := rfl

theorem nodeFrom_mapping :
    nodeFrom (depth + 1) position (fuel + 1) ⟨.flowMappingStart :: rest, anchors, handles⟩ =
      (flowPairs depth true fuel ⟨rest, anchors, handles⟩ >>= fun pairs =>
        .ok (.mapping none pairs.1, pairs.2)) := rfl

theorem flowItems_end :
    flowItems depth isFirst (fuel + 1) ⟨.flowSequenceEnd :: rest, anchors, handles⟩ =
      .ok ([], ⟨rest, anchors, handles⟩) := rfl

theorem flowItems_item (plain : item.isPlain = true) :
    flowItems depth isFirst (fuel + 1) ⟨lead isFirst ++ (tokensOf item ++ rest), anchors, handles⟩ =
      (nodeFrom depth .flow fuel ⟨tokensOf item ++ rest, anchors, handles⟩ >>= fun item =>
        flowItems depth false fuel item.2 >>= fun items =>
          .ok (item.1 :: items.1, items.2)) := by
  obtain ⟨token, more, written, opens⟩ := tokensOf_eq_cons plain
  rw [written]
  cases isFirst <;> cases token <;> first | rfl | cases opens

theorem flowPairs_end :
    flowPairs depth isFirst (fuel + 1) ⟨.flowMappingEnd :: rest, anchors, handles⟩ =
      .ok ([], ⟨rest, anchors, handles⟩) := rfl

theorem flowPairs_zero :
    (flowPairs 0 isFirst fuel
      ⟨lead isFirst ++ (.key :: .scalar key false :: rest), anchors, handles⟩).toOption = none := by
  rcases fuel with _ | _ | _ | fuel <;> cases isFirst <;> rfl

/-- A key that is not announced is taken for a pair without a value, which no colon may follow. -/
theorem flowPairs_unannounced :
    (flowPairs depth isFirst fuel
      ⟨lead isFirst ++ .scalar key false :: .value :: rest, anchors, handles⟩).toOption = none := by
  rcases fuel with _ | _ | fuel <;> cases depth <;> cases isFirst <;> rfl

theorem flowPairs_announced (plain : value.isPlain = true) :
    flowPairs (depth + 1) isFirst (fuel + 3)
        ⟨lead isFirst ++ .key :: .scalar key false :: .value :: (tokensOf value ++ rest),
          anchors, handles⟩ =
      (nodeFrom (depth + 1) .flow fuel ⟨tokensOf value ++ rest, anchors, handles⟩ >>= fun value =>
        flowPairs (depth + 1) false (fuel + 2) value.2 >>= fun pairs =>
          .ok ((.scalar (some textTag) key, value.1) :: pairs.1, pairs.2)) := by
  obtain ⟨token, more, written, opens⟩ := tokensOf_eq_cons plain
  rw [written]
  cases isFirst <;> cases token <;> first | rfl | cases opens

theorem flowPairs_entry (plain : value.isPlain = true) :
    (flowPairs depth isFirst (fuel + 3)
        ⟨lead isFirst ++ (keyTokens key ++ (tokensOf value ++ rest)), anchors, handles⟩).toOption =
      if Value.isShortKey key then
        (nodeFrom depth .flow fuel ⟨tokensOf value ++ rest, anchors, handles⟩ >>= fun value =>
          flowPairs depth false (fuel + 2) value.2 >>= fun pairs =>
            .ok ((.scalar (some textTag) key, value.1) :: pairs.1, pairs.2)).toOption
      else none := by
  unfold keyTokens
  split
  next short =>
    cases depth with
    | zero =>
        rw [Except.toOption_bind, nodeFrom_zero plain]
        exact flowPairs_zero
    | succ depth => exact congrArg Except.toOption (flowPairs_announced plain)
  next long => exact flowPairs_unannounced

end Steps

/-! ## Reading -/

theorem bind_ite {α β : Type} (p : Prop) [Decidable p] (a : α) (next : α → Option β) :
    (if p then some a else none).bind next = if p then next a else none := by
  split <;> rfl

theorem one_le_height (value : Value) : 1 ≤ value.height := by
  cases value <;> simp [Value.height]

mutual

/-- The tokens of a value are read as its tree, unless some key is not announced or the value is
nested too deeply. -/
theorem nodeFrom_tokensOf {value : Value} {depth fuel : Nat} {position : Position}
    {rest : List Token} {anchors : List (String × Node)} {handles : List (String × String)}
    (plain : value.isPlain = true) (enough : 2 * (tokensOf value).length ≤ fuel) :
    (nodeFrom depth position fuel ⟨tokensOf value ++ rest, anchors, handles⟩).toOption =
      if value.hasShortKeys = true ∧ value.height ≤ depth then
        some (nodeOf value, ⟨rest, anchors, handles⟩) else none := by
  have present := length_tokensOf_pos plain
  have low := one_le_height value
  cases depth with
  | zero => rw [nodeFrom_zero plain, if_neg fun read => absurd read.2 (by omega)]
  | succ depth =>
      obtain ⟨fuel, rfl⟩ := Nat.exists_eq_add_of_le' (show 1 ≤ fuel by omega)
      cases value with
      | list items =>
          simp only [tokensOf, ← listed_true, List.length_cons, List.length_append] at enough
          rw [tokensOf, List.cons_append, nodeFrom_sequence, Except.toOption_bind,
            List.append_assoc, ← listed_true, List.singleton_append,
            flowItems_listed plain (by omega), bind_ite]
          simp only [Value.height, Nat.add_le_add_iff_right]
          rfl
      | mapping entries =>
          simp only [tokensOf, ← listed_true, List.length_cons, List.length_append] at enough
          rw [tokensOf, List.cons_append, nodeFrom_mapping, Except.toOption_bind,
            List.append_assoc, ← listed_true, List.singleton_append,
            flowPairs_listed plain (by omega), bind_ite]
          simp only [Value.height, Nat.add_le_add_iff_right]
          rfl
      | stamp | bytes | table | cycle => cases plain
      | bool b => cases b <;> exact (if_pos ⟨rfl, Nat.le_add_left 1 depth⟩).symm
      | _ => exact (if_pos ⟨rfl, Nat.le_add_left 1 depth⟩).symm

theorem flowItems_listed {items : List Value} {depth fuel : Nat} {isFirst : Bool}
    {rest : List Token} {anchors : List (String × Node)} {handles : List (String × String)}
    (plain : Value.arePlain items = true)
    (enough : 2 * (listed isFirst (itemTokens items)).length + 1 ≤ fuel) :
    (flowItems depth isFirst fuel
        ⟨listed isFirst (itemTokens items) ++ .flowSequenceEnd :: rest,
          anchors, handles⟩).toOption =
      if Value.everyItem (fun _ => true) Value.isShortKey items = true ∧
          Value.heightOfItems items ≤ depth then
        some (itemNodes items, ⟨rest, anchors, handles⟩) else none := by
  obtain ⟨fuel, rfl⟩ := Nat.exists_eq_add_of_le' (Nat.le_of_add_left_le enough)
  match items with
  | [] =>
      rw [itemTokens, listed_nil, List.nil_append, flowItems_end]
      exact (if_pos ⟨rfl, Nat.zero_le depth⟩).symm
  | item :: items =>
      rw [Value.arePlain, Bool.and_eq_true] at plain
      have present := length_tokensOf_pos plain.1
      rw [itemTokens, listed_cons, List.length_append, List.length_append] at enough
      rw [itemTokens, listed_cons, List.append_assoc, List.append_assoc, flowItems_item plain.1,
        Except.toOption_bind, nodeFrom_tokensOf plain.1 (by omega), bind_ite,
        Except.toOption_bind, flowItems_listed plain.2 (by omega), bind_ite, ← ite_and]
      refine if_congr ?_ rfl rfl
      simp only [Value.everyItem, Value.heightOfItems, Value.hasShortKeys, Bool.and_eq_true,
        max_le_iff]
      tauto

theorem flowPairs_listed {entries : Entries} {depth fuel : Nat} {isFirst : Bool}
    {rest : List Token} {anchors : List (String × Node)} {handles : List (String × String)}
    (plain : Value.entriesPlain entries = true)
    (enough : 2 * (listed isFirst (entryTokens entries)).length + 1 ≤ fuel) :
    (flowPairs depth isFirst fuel
        ⟨listed isFirst (entryTokens entries) ++ .flowMappingEnd :: rest,
          anchors, handles⟩).toOption =
      if Value.everyEntry (fun _ => true) Value.isShortKey entries = true ∧
          Value.heightOfEntries entries ≤ depth then
        some (entryNodes entries, ⟨rest, anchors, handles⟩) else none := by
  match entries with
  | [] =>
      obtain ⟨fuel, rfl⟩ := Nat.exists_eq_add_of_le' (Nat.le_of_add_left_le enough)
      rw [entryTokens, listed_nil, List.nil_append, flowPairs_end]
      exact (if_pos ⟨rfl, Nat.zero_le depth⟩).symm
  | (key, value) :: entries =>
      rw [Value.entriesPlain, Bool.and_eq_true] at plain
      have present := length_tokensOf_pos plain.1
      have marked : 2 ≤ (keyTokens key).length := by simp [keyTokens]
      rw [entryTokens, listed_cons, List.length_append, List.length_append, List.length_append]
        at enough
      obtain ⟨fuel, rfl⟩ := Nat.exists_eq_add_of_le' (show 3 ≤ fuel by omega)
      rw [entryTokens, listed_cons, List.append_assoc, List.append_assoc, List.append_assoc,
        flowPairs_entry plain.1, Except.toOption_bind, nodeFrom_tokensOf plain.1 (by omega),
        bind_ite, Except.toOption_bind, flowPairs_listed plain.2 (by omega), bind_ite, ← ite_and,
        ← ite_and]
      refine if_congr ?_ rfl rfl
      clear plain enough present marked
      simp only [Value.everyEntry, Value.heightOfEntries, Value.hasShortKeys, Bool.and_eq_true,
        max_le_iff]
      tauto

end

theorem rootOf_tokensOf {value : Value} (plain : value.isPlain = true) :
    (rootOf (tokensOf value ++ [.textEnd])).toOption =
      if value.hasShortKeys = true ∧ value.height ≤ nestingLimit then some (some (nodeOf value))
      else none := by
  obtain ⟨token, more, written, opens⟩ := tokensOf_eq_cons plain
  have bare : rootOf (tokensOf value ++ [.textEnd]) =
      (bareDocument (tokensOf value ++ [.textEnd]) >>= fun read =>
        expectEnd read.2.tokens >>= fun _ => .ok (some read.1)) := by
    rw [written]
    cases token <;> first | rfl | cases opens
  have enough : 2 * (tokensOf value).length ≤ readFuel (tokensOf value ++ [.textEnd]) := by
    rw [readFuel, List.length_append]
    omega
  rw [bare, Except.toOption_bind, bareDocument, nodeFrom_tokensOf plain enough, bind_ite]
  rfl

end StillMotion.Document
