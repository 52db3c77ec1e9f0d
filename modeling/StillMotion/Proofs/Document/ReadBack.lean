import StillMotion.Document.Meaning
import StillMotion.Document.Read
import StillMotion.Proofs.Data.Outcome
import StillMotion.Proofs.Document.Parsing
import StillMotion.Proofs.Files.Storage
import StillMotion.Proofs.Pipeline.Production
import StillMotion.Proofs.Timeline.Interchange

/-!
# Documents that are read back

Data that is written to a file is read from it again.  It is the same data exactly when all its
numbers are written with a point, its keys are short enough to be taken for keys, and it is not
nested too deeply: a number without a point is read as a text, and otherwise nothing is read.
-/

namespace StillMotion

open StillMotion.Number

namespace Value

theorem keys_rereadEntries (entries : Entries) :
    (rereadEntries entries).map (·.1) = entries.map (·.1) := by
  induction entries with
  | nil => rfl
  | cons entry rest ih => rw [rereadEntries, List.map_cons, List.map_cons, ih]

end Value

namespace Document

/-! ## The meaning of written data -/

theorem meaningOf_text (s : String) : meaningOf (.scalar (some textTag) s) = .ok (.str s) := by
  rw [meaningOf, effectiveTag, Option.getD_some]
  rfl

theorem pairsOf_text {key : String} {node : Node} {rest : List (Node × Node)} :
    pairsOf ((.scalar (some textTag) key, node) :: rest) = (do
      let value ← meaningOf node
      let pairs ← pairsOf rest
      .ok (pairs.1, (.str key, value) :: pairs.2)) := by
  have noMerge : (Node.scalar (some textTag) key).hasKind .merge = false := rfl
  have noValue : (Node.scalar (some textTag) key).hasKind .value = false := rfl
  rw [pairsOf, noMerge, if_neg Bool.false_ne_true, keyValue, noValue, if_neg Bool.false_ne_true,
    meaningOf_text]
  rfl

theorem mappingOf_texts {entries : Entries} (distinct : (entries.map (·.1)).Nodup) :
    mappingOf (entries.map fun entry => (.str entry.1, entry.2)) = .ok (.mapping entries) := by
  have keys : (entries.map fun entry => (Value.str entry.1, entry.2)).all
      (fun pair => isKey pair.1) = true := by simp [isKey]
  have texts : (entries.map fun entry => (Value.str entry.1, entry.2)).all
      (fun pair => pair.1.str?.isSome) = true := by simp [Value.str?]
  have same : Value.textEntries (entries.map fun entry => (.str entry.1, entry.2)) = entries := by
    simp [Value.textEntries, List.filterMap_map, Value.str?]
  rw [mappingOf, keys, texts, same, Entries.ofList_of_nodup distinct]
  rfl

mutual

theorem meaningOf_nodeOf {value : Value} (plain : value.isPlain = true)
    (within : value.isWithin digitLimit = true) (apart : value.isApart = true) :
    meaningOf (nodeOf value) = .ok value.reread := by
  cases value with
  | null => rfl
  | bool b => cases b <;> rfl
  | int n => exact plainMeaning_encodeInt (Json.lt_of_isWithin within)
  | float x =>
      refine (plainMeaning_dataText plain).trans ?_
      simp only [Value.reread, Value.rereadLeaf, Value.isPointed, List.contains_eq_mem,
        decide_eq_true_eq]
  | str s => exact meaningOf_text s
  | list items =>
      have read := meaningsOf_itemNodes plain within apart
      rw [nodeOf, meaningOf, read]
      rfl
  | mapping entries =>
      have read := pairsOf_entryNodes plain within apart
      have distinct : ((Value.rereadEntries entries).map (·.1)).Nodup := by
        rw [Value.keys_rereadEntries]
        exact Value.nodup_of_entriesApart apart
      rw [nodeOf, meaningOf, read]
      exact mappingOf_texts distinct
  | stamp | bytes | table | cycle => cases plain

theorem meaningsOf_itemNodes {items : List Value} (plain : Value.arePlain items = true)
    (within : Value.areWithin digitLimit items = true) (apart : Value.areApart items = true) :
    meaningsOf (itemNodes items) = .ok (Value.rereadItems items) := by
  match items with
  | [] => rfl
  | item :: rest =>
      rw [Value.arePlain, Bool.and_eq_true] at plain
      rw [Value.areWithin, Bool.and_eq_true] at within
      rw [Value.areApart, Bool.and_eq_true] at apart
      rw [itemNodes, meaningsOf, meaningOf_nodeOf plain.1 within.1 apart.1,
        meaningsOf_itemNodes plain.2 within.2 apart.2]
      rfl

theorem pairsOf_entryNodes {entries : Entries} (plain : Value.entriesPlain entries = true)
    (within : Value.entriesWithin digitLimit entries = true)
    (apart : Value.entriesApart entries = true) :
    pairsOf (entryNodes entries) =
      .ok ([], (Value.rereadEntries entries).map fun entry => (.str entry.1, entry.2)) := by
  match entries with
  | [] => rfl
  | (key, value) :: rest =>
      rw [Value.entriesPlain, Bool.and_eq_true] at plain
      rw [Value.entriesWithin, Bool.and_eq_true] at within
      rw [Value.entriesApart, Bool.and_eq_true, Bool.and_eq_true] at apart
      rw [entryNodes, pairsOf_text, meaningOf_nodeOf plain.1 within.1 apart.1.2,
        pairsOf_entryNodes plain.2 within.2 apart.2]
      rfl

end

variable {ε : Type} {w w' : Workspace ε} {path : Path} {entries : Entries}

/-! ## Texts -/

theorem valueOf_text (plain : (Value.mapping entries).isPlain = true)
    (apart : (Value.mapping entries).isApart = true)
    (basic : (Value.mapping entries).isBasic = true)
    (within : (Value.mapping entries).isWithin digitLimit = true) :
    (valueOf (text (.mapping entries))).toOption =
      if (Value.mapping entries).hasShortKeys = true ∧
          (Value.mapping entries).height ≤ nestingLimit then
        some (Value.mapping entries).reread else none := by
  rw [valueOf, tokens_text plain basic, Except.toOption_bind, rootOf_tokensOf plain, bind_ite]
  simp only [meaningOf_nodeOf plain within apart]
  rfl

theorem mappingIn_text (plain : (Value.mapping entries).isPlain = true)
    (apart : (Value.mapping entries).isApart = true)
    (basic : (Value.mapping entries).isBasic = true)
    (within : (Value.mapping entries).isWithin digitLimit = true) :
    (mappingIn path (text (.mapping entries))).toOption =
      if (Value.mapping entries).hasShortKeys = true ∧
          (Value.mapping entries).height ≤ nestingLimit then
        some (Value.mapping entries).reread else none := by
  rw [mappingIn, Except.toOption_bind, valueOf_text plain apart basic within, bind_ite]
  rfl

/-! ## Files -/

theorem on_write_eq_ok {payload : Value} (written : (write path payload).on w = (.ok (), w')) :
    payload.isWithin digitLimit = true ∧
      ∃ v, (Act.writeText path (text payload)).on v = (.ok (), w') := by
  obtain ⟨_, v, -, rest⟩ := Act.on_bind_eq_ok.mp written
  obtain ⟨_, v', required, put⟩ := Act.on_bind_eq_ok.mp rest
  rw [Act.on_ofArithmetic, Prod.mk.injEq, Except.mapError_eq_ok] at required
  obtain ⟨narrow, rfl⟩ := required
  refine ⟨?_, v, put⟩
  unfold Json.requireText at narrow
  split at narrow
  next within => exact within
  next wide => cases narrow

theorem on_read_of_write (plain : (Value.mapping entries).isPlain = true)
    (apart : (Value.mapping entries).isApart = true)
    (basic : (Value.mapping entries).isBasic = true)
    (written : (write path (.mapping entries)).on w = (.ok (), w')) :
    ((read path).on w').1.toOption =
      if (Value.mapping entries).hasShortKeys = true ∧
          (Value.mapping entries).height ≤ nestingLimit then
        some (Value.mapping entries).reread else none := by
  obtain ⟨within, v, put⟩ := on_write_eq_ok written
  have content := Act.on_readText_of_writeText put
  rw [unified_text plain basic] at content
  rw [read, Act.on_bind_ok content, Act.on_of]
  exact mappingIn_text plain apart basic within

theorem read_eq_iff (plain : (Value.mapping entries).isPlain = true)
    (apart : (Value.mapping entries).isApart = true)
    (basic : (Value.mapping entries).isBasic = true)
    (written : (write path (.mapping entries)).on w = (.ok (), w')) :
    ((read path).on w').1 = .ok (.mapping entries) ↔
      (Value.mapping entries).hasPoints = true ∧ (Value.mapping entries).hasShortKeys = true ∧
        (Value.mapping entries).height ≤ nestingLimit := by
  rw [← Except.toOption_eq_some, on_read_of_write plain apart basic written]
  split
  next read =>
    rw [Option.some_inj, Value.reread_eq_iff]
    exact (and_iff_left read).symm
  next unread => exact iff_of_false nofun fun read => unread read.2

/-- Data that is written to a file is read from it as it is exactly when its numbers are written
with a point, its keys are short and it is not nested too deeply.  A timeline with its validation
and direction, the director's for one, is then read from the file as it was written. -/
theorem read_of_write_iff (plain : (Value.mapping entries).isPlain = true)
    (apart : (Value.mapping entries).isApart = true)
    (basic : (Value.mapping entries).isBasic = true)
    (written : (write path (.mapping entries)).on w = (.ok (), w')) :
    (((read path).on w').1 = .ok (.mapping entries) ↔
      (Value.mapping entries).hasPoints = true ∧ (Value.mapping entries).hasShortKeys = true ∧
        (Value.mapping entries).height ≤ nestingLimit) ∧
    ∀ motion : MotionIR Float, MotionIR.codec.encode motion = .mapping entries →
      (motion.timeline.HasPlainMetadata ∨ ∃ schema prompt reference createdAt policy,
        Director.direct schema prompt reference createdAt policy = .ok motion) →
      (Value.mapping entries).hasPoints = true → (Value.mapping entries).hasShortKeys = true →
        (Value.mapping entries).height ≤ nestingLimit →
          ((read path >>= fun document => Act.of (MotionIR.ofDocument document)).on w').1 =
            .ok motion := by
  have same := read_eq_iff plain apart basic written
  refine ⟨same, ?_⟩
  intro motion encoded source points keys nesting
  have unchanged := same.mpr ⟨points, keys, nesting⟩
  have metadata : motion.timeline.HasPlainMetadata := by
    rcases source with given | ⟨_, _, _, _, _, made⟩
    · exact given
    · exact Director.hasPlainMetadata_of_direct made
  rcases ended : (read path).on w' with ⟨outcome, v⟩
  rw [ended] at unchanged
  subst unchanged
  rw [Act.on_bind_ok ended, Act.on_of, ← encoded, MotionIR.ofDocument_whole metadata]

def jsonFile : Path := ⟨.here, ["doc.json"]⟩

theorem exists_written (within : (Value.mapping entries).isWithin digitLimit = true) :
    ∃ w', (write jsonFile (.mapping entries)).on Workspace.blank = (.ok (), w') := by
  have made : (Act.makeDirectories jsonFile.parent).on Workspace.blank =
      (.ok (), Workspace.blank) := rfl
  have required : (Act.ofArithmetic (Json.requireText (.mapping entries))).on Workspace.blank =
      (.ok (), Workspace.blank) := by
    rw [Act.on_ofArithmetic, Json.requireText, if_pos within]
    rfl
  have put (content : String) : (Act.writeText jsonFile content).on Workspace.blank =
      (.ok (), { Workspace.blank with files := ⟨[(["doc.json"], .file content.toUTF8 false)]⟩ }) :=
    rfl
  exact ⟨_, by rw [write, Act.on_bind_ok made, Act.on_bind_ok required, put]⟩

theorem annotatedMotion_read_of_write : ∃ entries w',
    MotionIR.codec.encode annotatedMotion = .mapping entries ∧
    (write jsonFile (.mapping entries)).on Workspace.blank = (.ok (), w') ∧
    ((read jsonFile).on w').1 = .ok (.mapping entries) ∧
    ((read jsonFile >>= fun document => Act.of (MotionIR.ofDocument document)).on w').1 =
      .ok annotatedMotion := by
  obtain ⟨entries, encoded⟩ : ∃ entries, MotionIR.codec.encode annotatedMotion = .mapping entries :=
    ⟨_, rfl⟩
  have plain : (MotionIR.codec.encode annotatedMotion).isPlain = true := by decide +kernel
  have apart : (MotionIR.codec.encode annotatedMotion).isApart = true := by decide +kernel
  have basic : (MotionIR.codec.encode annotatedMotion).isBasic = true := by decide +kernel
  have within : (MotionIR.codec.encode annotatedMotion).isWithin digitLimit = true := by
    decide +kernel
  have points : (MotionIR.codec.encode annotatedMotion).hasPoints = true := by decide +kernel
  have keys : (MotionIR.codec.encode annotatedMotion).hasShortKeys = true := by decide +kernel
  have nesting : (MotionIR.codec.encode annotatedMotion).height ≤ nestingLimit := by
    decide +kernel
  rw [encoded] at plain apart basic within points keys nesting
  have metadata : annotatedMotion.timeline.HasPlainMetadata := by
    intro image member entries given
    obtain rfl := List.mem_singleton.mp member
    cases given
    decide +kernel
  obtain ⟨w', written⟩ := exists_written within
  obtain ⟨same, whole⟩ := read_of_write_iff plain apart basic written
  exact ⟨entries, w', encoded, written, same.mpr ⟨points, keys, nesting⟩,
    whole annotatedMotion encoded (.inl metadata) points keys nesting⟩

/-- Not all data is read back: ten to the sixteenth is written without a point. -/
theorem not_all_read_of_write : ¬ ∀ (w w' : Workspace Unit) (path : Path) (entries : Entries),
    (Value.mapping entries).isPlain = true → (Value.mapping entries).isApart = true →
      (Value.mapping entries).isBasic = true →
        (write path (.mapping entries)).on w = (.ok (), w') →
          ((read path).on w').1 = .ok (.mapping entries) := by
  intro readBack
  have plain : (Value.mapping [("x", .float 1e16)]).isPlain = true := by decide +kernel
  have apart : (Value.mapping [("x", .float 1e16)]).isApart = true := by decide +kernel
  have basic : (Value.mapping [("x", .float 1e16)]).isBasic = true := by decide +kernel
  have within : (Value.mapping [("x", .float 1e16)]).isWithin digitLimit = true := by
    decide +kernel
  obtain ⟨w', written⟩ := exists_written within
  have unchanged := readBack _ _ _ _ plain apart basic written
  have pointed := ((read_eq_iff plain apart basic written).mp unchanged).1
  have pointless : (Value.mapping [("x", .float 1e16)]).hasPoints = false := by decide +kernel
  rw [pointless] at pointed
  cases pointed

end Document

end StillMotion
