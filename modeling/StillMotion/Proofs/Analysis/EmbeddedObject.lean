import StillMotion.Proofs.Data.JsonGrammar

/-!
# The first object of a free text

The scan tries the opening braces of a text one after the other.  It finds the object that begins
at the first of them at which one does, be that inside of something that is none, and nothing when
there is no object.  An object that was written as a text is found behind anything without a brace
and in front of anything.
-/

namespace StillMotion.Json

open StillMotion.Number StillMotion.Text

def HasObject (cs : List Char) (members : List (List Code × Tree)) : Prop :=
  ∃ rest, Begins (.tree (.mapping members)) cs rest

/-- An object stands in a text, and none begins at any place before it. -/
def IsFirstObject (cs : List Char) (members : List (List Code × Tree)) : Prop :=
  ∃ before place, cs = before ++ place ∧ HasObject place members ∧
    ∀ before' place', cs = before' ++ place' → before'.length < before.length →
      ∀ members', ¬ HasObject place' members'

/-- Nowhere in a text does reading at an opening brace come to more levels or more digits than
allowed. -/
def IsWithinLimits (cs : List Char) : Prop :=
  ∀ before after, cs = before ++ '{' :: after → ¬ Exceeds .tree nestingLimit ('{' :: after)

/-! ## Braces -/

def braces : List Char → List (List Char)
  | [] => []
  | c :: cs => if c == '{' then (c :: cs) :: braces cs else braces cs

section Braces

variable {cs place : List Char} {members : List (List Code × Tree)}

theorem mem_braces_iff :
    place ∈ braces cs ↔ (∃ before, cs = before ++ place) ∧ place.head? = some '{' := by
  induction cs with
  | nil =>
      refine iff_of_false List.not_mem_nil ?_
      rintro ⟨⟨before, empty⟩, brace⟩
      rw [(List.append_eq_nil_iff.mp empty.symm).2] at brace
      cases brace
  | cons c cs ih =>
      have later : (∃ before, c :: cs = before ++ place) ↔
          place = c :: cs ∨ ∃ before, cs = before ++ place := by
        constructor
        · rintro ⟨before, split⟩
          cases before with
          | nil => exact .inl split.symm
          | cons d before =>
              cases split
              exact .inr ⟨before, rfl⟩
        · rintro (rfl | ⟨before, rfl⟩)
          · exact ⟨[], rfl⟩
          · exact ⟨c :: before, rfl⟩
      rw [later, or_and_right, ← ih, braces]
      split
      next brace =>
          rw [List.mem_cons]
          refine or_congr_left (iff_self_and.mpr ?_)
          rintro rfl
          rw [List.head?_cons, beq_iff_eq.mp brace]
      next other =>
          refine (or_iff_right ?_).symm
          rintro ⟨rfl, brace⟩
          exact other (beq_iff_eq.mpr (Option.some_inj.mp brace))

theorem pairwise_braces (cs : List Char) :
    (braces cs).Pairwise fun a b => b.length < a.length := by
  induction cs with
  | nil => exact .nil
  | cons c cs ih =>
      rw [braces]
      split
      next =>
          refine List.pairwise_cons.mpr ⟨fun place member => ?_, ih⟩
          obtain ⟨⟨before, split⟩, -⟩ := mem_braces_iff.mp member
          rw [split, List.length_cons, List.length_append]
          omega
      next => exact ih

theorem HasObject.head?_eq (object : HasObject cs members) : cs.head? = some '{' := by
  obtain ⟨rest, begins⟩ := object
  exact begins.head?_eq_brace

theorem braces_append {before : List Char} (free : '{' ∉ before) (cs : List Char) :
    braces (before ++ cs) = braces cs := by
  induction before with
  | nil => rfl
  | cons c before ih =>
      rw [List.mem_cons, not_or] at free
      have other : (c == '{') = false := beq_eq_false_iff_ne.mpr (Ne.symm free.1)
      rw [List.cons_append, braces, other, if_neg Bool.false_ne_true, ih free.2]

end Braces

/-! ## The scan -/

def firstOf : List (List Char) → Except ReadError (Option (List (List Code × Tree)))
  | [] => .ok none
  | place :: places =>
      match tree? place with
      | .ok (.mapping members, _) => .ok (some members)
      | .ok _ => firstOf places
      | .error .malformed => firstOf places
      | .error fault => .error fault

/-- Each brace is tried at most once, one after the other. -/
theorem firstObjectFrom_eq_firstOf (cs : List Char) :
    firstObjectFrom cs.length cs = firstOf (braces cs) := by
  induction cs with
  | nil => rfl
  | cons c cs ih =>
      rw [firstObjectFrom, braces]
      split
      next =>
          rcases read : readTree nestingLimit (2 * (c :: cs).length + 2) (c :: cs) with
            fault | ⟨tree, rest⟩
          · cases fault <;> simp only [firstOf, tree?, read]
            exact ih
          · cases tree <;> simp only [firstOf, tree?, read] <;> exact ih
      next => rw [List.length_cons, Nat.add_sub_cancel, ih]

theorem firstObject?_eq_firstOf (text : String) :
    firstObject? text = firstOf (braces text.toList) := by
  rw [firstObject?, ← String.length_toList, firstObjectFrom_eq_firstOf]

section Scan

variable {cs place : List Char} {places : List (List Char)} {members : List (List Code × Tree)}

theorem tree?_of_hasObject (object : HasObject cs members)
    (within : ¬ Exceeds .tree nestingLimit cs) :
    ∃ rest, tree? cs = .ok (.mapping members, rest) := by
  obtain ⟨rest, begins⟩ := object
  exact ⟨rest, begins.isRead nestingLimit _ within nofun (by omega)⟩

theorem tree?_brace (brace : cs.head? = some '{') (within : ¬ Exceeds .tree nestingLimit cs) :
    (∃ members rest, HasObject cs members ∧ tree? cs = .ok (.mapping members, rest)) ∨
    (∀ members, ¬ HasObject cs members) ∧ tree? cs = .error .malformed := by
  have outcome := (read_isOutcome (2 * cs.length + 2)).1 nestingLimit cs
  rw [← tree?] at outcome
  rcases read : tree? cs with fault | ⟨tree, rest⟩
  · rw [read] at outcome
    refine .inr ⟨fun members object => ?_, congrArg _ (outcome.resolve_right within)⟩
    obtain ⟨rest, found⟩ := tree?_of_hasObject object within
    rw [read] at found
    cases found
  · rw [read] at outcome
    obtain ⟨members, rfl⟩ := outcome.exists_mapping brace
    exact .inl ⟨members, rest, ⟨rest, outcome⟩, rfl⟩

theorem firstOf_outcome (each : ∀ place ∈ places, place.head? = some '{')
    (within : ∀ place ∈ places, ¬ Exceeds .tree nestingLimit place) :
    (firstOf places = .ok none ∧ ∀ place ∈ places, ∀ members, ¬ HasObject place members) ∨
    ∃ before place after members, places = before ++ place :: after ∧
      firstOf places = .ok (some members) ∧ HasObject place members ∧
      ∀ other ∈ before, ∀ members', ¬ HasObject other members' := by
  induction places with
  | nil => exact .inl ⟨rfl, nofun⟩
  | cons place places ih =>
      rw [List.forall_mem_cons] at each within
      rcases tree?_brace each.1 within.1 with ⟨members, rest, object, read⟩ | ⟨nothing, failed⟩
      · exact .inr ⟨[], place, places, members, rfl, by rw [firstOf, read], object, nofun⟩
      · have next : firstOf (place :: places) = firstOf places := by rw [firstOf, failed]
        rw [next]
        rcases ih each.2 within.2 with ⟨none, nowhere⟩ |
          ⟨before, here, after, members, rfl, found, object, others⟩
        · exact .inl ⟨none, List.forall_mem_cons.mpr ⟨nothing, nowhere⟩⟩
        · exact .inr ⟨place :: before, here, after, members, rfl, found, object,
            List.forall_mem_cons.mpr ⟨nothing, others⟩⟩

theorem isFirstObject_of_braces {before after : List (List Char)}
    (split : braces cs = before ++ place :: after) (object : HasObject place members)
    (others : ∀ other ∈ before, ∀ members', ¬ HasObject other members') :
    IsFirstObject cs members := by
  have member : place ∈ braces cs := by simp [split]
  obtain ⟨⟨front, rfl⟩, -⟩ := mem_braces_iff.mp member
  refine ⟨front, place, rfl, object, fun front' place' same less members' object' => ?_⟩
  have length := congrArg List.length same
  rw [List.length_append, List.length_append] at length
  -- Any other object begins at a brace too, and the braces are in order.
  have member' := mem_braces_iff.mpr ⟨⟨front', same⟩, object'.head?_eq⟩
  have ordered := pairwise_braces (front ++ place)
  rw [split] at member' ordered
  rcases List.mem_append.mp member' with earlier | later
  · exact others place' earlier members' object'
  rcases List.mem_cons.mp later with rfl | later
  · omega
  · have behind := (List.pairwise_cons.mp (List.pairwise_append.mp ordered).2.1).1 place' later
    omega

end Scan

/-! ## Objects in free text -/

section Objects

variable {cs : List Char} {members : List (List Code × Tree)}

theorem not_exceeds_of_hasObject (within : IsWithinLimits cs) {before place : List Char}
    (split : cs = before ++ place) (object : HasObject place members) :
    ¬ Exceeds .tree nestingLimit place := by
  obtain ⟨after, rfl⟩ := List.head?_eq_some_iff.mp object.head?_eq
  exact within before after split

theorem IsFirstObject.unique {members' : List (List Code × Tree)} (within : IsWithinLimits cs)
    (first : IsFirstObject cs members) (first' : IsFirstObject cs members') :
    members = members' := by
  obtain ⟨before, place, split, object, least⟩ := first
  obtain ⟨before', place', split', object', least'⟩ := first'
  rcases Nat.lt_trichotomy before'.length before.length with less | same | greater
  · exact absurd object' (least before' place' split' less members')
  · obtain ⟨-, rfl⟩ := List.append_inj (split'.symm.trans split) same
    have allowed := not_exceeds_of_hasObject within split object
    obtain ⟨rest, read⟩ := tree?_of_hasObject object allowed
    obtain ⟨rest', read'⟩ := tree?_of_hasObject object' allowed
    rw [read] at read'
    cases read'
    rfl
  · exact absurd object (least' before place split greater members)

theorem firstOf_braces_outcome (within : IsWithinLimits cs) :
    (firstOf (braces cs) = .ok none ∧
      ∀ before place, cs = before ++ place → ∀ members, ¬ HasObject place members) ∨
    ∃ members, firstOf (braces cs) = .ok (some members) ∧ IsFirstObject cs members := by
  have each : ∀ place ∈ braces cs, place.head? = some '{' :=
    fun place member => (mem_braces_iff.mp member).2
  have allowed : ∀ place ∈ braces cs, ¬ Exceeds .tree nestingLimit place := by
    intro place member
    obtain ⟨⟨before, split⟩, brace⟩ := mem_braces_iff.mp member
    obtain ⟨after, rfl⟩ := List.head?_eq_some_iff.mp brace
    exact within before after split
  rcases firstOf_outcome each allowed with ⟨none, nowhere⟩ |
    ⟨before, place, after, members, split, found, object, others⟩
  · refine .inl ⟨none, fun before place split members object => ?_⟩
    exact nowhere place (mem_braces_iff.mpr ⟨⟨before, split⟩, object.head?_eq⟩) members object
  · exact .inr ⟨members, found, isFirstObject_of_braces split object others⟩

theorem isInline_spaced : spaced.IsInline where
  unsorted := rfl
  indent := rfl
  comma := ⟨[' '], rfl, rfl⟩
  colon := ⟨[' '], rfl, rfl⟩

/-- An object that was written as a text is found where no brace stands before it. -/
theorem firstObject?_written {before : String} (free : '{' ∉ before.toList)
    (proper : (Tree.mapping members).IsProper)
    (deep : (Tree.mapping members).levels ≤ nestingLimit) (after : String) :
    firstObject? (before ++ (Tree.mapping members).text spaced ++ after) = .ok (some members) := by
  have read : tree? ((Tree.mapping members).encode spaced ++ after.toList) =
      .ok (.mapping members, after.toList) := by
    refine readTree_encode_mapping isInline_spaced proper
      (reads_members isInline_spaced proper.2) deep ?_ _
    rw [List.length_append]
    omega
  rw [firstObject?_eq_firstOf, String.toList_append, String.toList_append, Tree.text,
    String.toList_ofList, List.append_assoc, braces_append free]
  rw [Tree.encode, List.cons_append] at read ⊢
  rw [braces, if_pos (beq_self_eq_true _), firstOf, read]

/-- In a text within the limits the object at the least place at which one begins is found, and
none is found exactly when none begins anywhere.  The braces of a text are tried in their order,
each at most once.  A written object is found behind a text without braces and in front of any. -/
theorem firstObject?_isFirst :
    (∀ text : String, IsWithinLimits text.toList →
      (∃ found, firstObject? text = .ok found) ∧
      (firstObject? text = .ok none ↔
        ∀ before place, text.toList = before ++ place → ∀ members, ¬ HasObject place members) ∧
      ∀ members, firstObject? text = .ok (some members) ↔ IsFirstObject text.toList members) ∧
    (∀ text : String, firstObject? text = firstOf (braces text.toList) ∧
      (∀ place ∈ braces text.toList, place.head? = some '{') ∧
      (braces text.toList).Pairwise fun a b => b.length < a.length) ∧
    (∀ (before after : String) (members : List (List Code × Tree)), '{' ∉ before.toList →
      (Tree.mapping members).IsProper → (Tree.mapping members).levels ≤ nestingLimit →
      firstObject? (before ++ (Tree.mapping members).text spaced ++ after) = .ok (some members)) ∧
    ∀ entries : Entries, (Value.mapping entries).isPlain = true →
      (Value.mapping entries).isApart = true →
      (Value.mapping entries).isWithin digitLimit = true →
      ∃ members, (Tree.mapping members).IsProper ∧
        Json.text spaced (.mapping entries) = (Tree.mapping members).text spaced ∧
        (Tree.mapping members).value = .mapping entries := by
  refine ⟨fun text within => ?_, fun text => ?_, ?_, ?_⟩
  · rw [firstObject?_eq_firstOf]
    rcases firstOf_braces_outcome within with ⟨found, nowhere⟩ | ⟨members, found, first⟩
    · refine ⟨⟨_, found⟩, iff_of_true found nowhere, fun members => iff_of_false ?_ ?_⟩
      · rw [found]
        nofun
      · rintro ⟨before, place, split, object, -⟩
        exact nowhere before place split members object
    · refine ⟨⟨_, found⟩, iff_of_false ?_ ?_, fun members' => ?_⟩
      · rw [found]
        nofun
      · intro nowhere
        obtain ⟨before, place, split, object, -⟩ := first
        exact nowhere before place split members object
      · rw [found, Except.ok.injEq, Option.some_inj]
        exact ⟨fun same => same ▸ first, first.unique within⟩
  · exact ⟨firstObject?_eq_firstOf text, fun place member => (mem_braces_iff.mp member).2,
      pairwise_braces _⟩
  · exact fun before after members free proper deep => firstObject?_written free proper deep after
  · intro entries plain apart within
    refine ⟨Tree.ofEntries entries, Tree.isProper_ofValue plain apart within, ?_,
      Tree.value_ofValue plain apart⟩
    exact congrArg String.ofList (encode_eq isInline_spaced plain 0)

theorem isWithinLimits_of_short (short : cs.length ≤ nestingLimit) : IsWithinLimits cs := by
  rintro before after rfl exceeds
  have long := exceeds.lt_length
  have digits : nestingLimit ≤ digitLimit := by decide
  rw [List.length_append] at short
  omega

def wrappedAnswer : String :=
  "\x7bHere: \x7b\"\\ud800\": 1, \"\\ud801\": [2]\x7d \x7d \x7b\x7d"

def wrappedMembers : List (List Code × Tree) :=
  [([.half 0], .int 1), ([.half 1], .list [.int 2])]

theorem wrappedAnswer_isFirst :
    IsWithinLimits wrappedAnswer.toList ∧
    (∃ members, firstObject? wrappedAnswer = .ok (some members) ∧
      IsFirstObject wrappedAnswer.toList members ∧
      members.map (·.1) = wrappedMembers.map (·.1)) ∧
    firstObject? ("Here: " ++ (Tree.mapping wrappedMembers).text spaced ++ "\x7d \x7b\x7d") =
      .ok (some wrappedMembers) := by
  have within : IsWithinLimits wrappedAnswer.toList := isWithinLimits_of_short (by decide)
  have proper : (Tree.mapping wrappedMembers).IsProper :=
    ⟨by decide, .singleton _, rfl, .singleton _, ⟨rfl, trivial⟩, trivial⟩
  obtain ⟨general, -, written, -⟩ := firstObject?_isFirst
  obtain ⟨⟨found, read⟩, -, first⟩ := general wrappedAnswer within
  have keys : (firstObject? wrappedAnswer).toOption.join.map (fun members => members.map (·.1)) =
      some (wrappedMembers.map (·.1)) := by
    decide +kernel
  rw [read] at keys
  refine ⟨within, ?_, written "Here: " "\x7d \x7b\x7d" wrappedMembers (by decide) proper
    (by decide)⟩
  cases found with
  | none => cases keys
  | some members => exact ⟨members, read, (first members).mp read, Option.some_inj.mp keys⟩

end Objects

end StillMotion.Json
