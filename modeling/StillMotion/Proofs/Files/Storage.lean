import StillMotion.Proofs.Files.Act

/-!
# Making, writing and removing

A file that is put at a place leaves every other place as it is, and as no way leads through a
file, the path of the file leads to the same place: what is written is read.  Making directories
makes nothing else, and removing a file leaves all others.
-/

namespace StillMotion

namespace FileTree

variable {tree tree' : FileTree} {directory place other target : Place} {node : Node}
  {path : Path} {content : ByteArray} {names : List String}

theorem find?_put (place other : Place) (node : Node) (tree : FileTree) :
    ((tree.put place node).nodes.find? fun entry => entry.1 == other) =
      if other = place then some (place, node)
      else tree.nodes.find? fun entry => entry.1 == other := by
  unfold put
  split
  next found =>
    have names : ((fun entry : Place × Node => entry.1 == other) ∘ fun entry : Place × Node =>
        if entry.1 == place then (place, node) else entry) = fun entry => entry.1 == other := by
      funext entry
      by_cases here : entry.1 = place <;> simp [here]
    rw [List.find?_map, names]
    split
    next same =>
      subst same
      obtain ⟨entry, first⟩ := Option.isSome_iff_exists.mp (List.find?_isSome.mpr
        (List.any_eq_true.mp found))
      have name := List.find?_some first
      rw [first, Option.map_some, if_pos name]
    next different =>
      cases first : tree.nodes.find? fun entry => entry.1 == other with
      | none => rfl
      | some entry =>
          have name : entry.1 = other := by simpa using List.find?_some first
          rw [Option.map_some, if_neg (by simpa [name] using different)]
  next missing =>
    rw [List.find?_append]
    split
    next same =>
      subst same
      have none : (tree.nodes.find? fun entry => entry.1 == other) = none := by
        rw [List.find?_eq_none]
        exact fun entry member here => missing (List.any_eq_true.mpr ⟨entry, member, here⟩)
      simp [none]
    next different => simp [Ne.symm different]

theorem node?_put_self (present : place ≠ []) : (tree.put place node).node? place = some node := by
  rw [node?, if_neg (by simpa using present), find?_put, if_pos rfl]
  rfl

theorem node?_put_of_ne (different : other ≠ place) :
    (tree.put place node).node? other = tree.node? other := by
  rw [node?, find?_put, if_neg different]
  rfl

theorem walk_cons_eq_ok_iff {name : String} :
    tree.walk place (name :: names) = .ok other ↔
      tree.node? place = some .directory ∧
        (name = ".." ∧ tree.walk place.dropLast names = .ok other ∨
          name ≠ ".." ∧ name.utf8ByteSize ≤ nameLimit ∧
            tree.walk (place ++ [name]) names = .ok other) := by
  rw [walk]
  cases tree.node? place with
  | none => simp
  | some node =>
      cases node with
      | file content executable => simp
      | directory =>
          by_cases up : name = ".."
          · simp [up]
          · by_cases long : nameLimit < name.utf8ByteSize
            · simp [up, long, Nat.not_le_of_lt long]
            · simp [up, long, Nat.le_of_not_lt long]

theorem walk_put (solid : tree.node? target ≠ some .directory)
    (walked : tree.walk place names = .ok other) :
    (tree.put target node).walk place names = .ok other := by
  induction names generalizing place with
  | nil => exact walked
  | cons name rest ih =>
      rw [walk_cons_eq_ok_iff] at walked ⊢
      obtain ⟨there, next⟩ := walked
      have elsewhere : place ≠ target := by
        rintro rfl
        exact solid there
      rw [node?_put_of_ne elsewhere]
      exact ⟨there, next.imp (And.imp_right ih) (And.imp_right (And.imp_right ih))⟩

theorem locate_put (solid : tree.node? target ≠ some .directory)
    (found : tree.locate directory path = .ok other) :
    (tree.put target node).locate directory path = .ok other := by
  unfold locate at found ⊢
  split at found
  next => cases found
  next short =>
    rw [if_neg short]
    exact walk_put solid found

/-- Where a path leads does not depend on the tree, as long as it leads somewhere. -/
theorem walk_unique (walked : tree.walk place names = .ok other)
    (walked' : tree'.walk place names = .ok target) : other = target := by
  induction names generalizing place with
  | nil => exact Except.ok.inj (walked.symm.trans walked')
  | cons name rest ih =>
      obtain ⟨-, next⟩ := walk_cons_eq_ok_iff.mp walked
      obtain ⟨-, next'⟩ := walk_cons_eq_ok_iff.mp walked'
      rcases next with ⟨up, walked⟩ | ⟨down, -, walked⟩ <;>
        rcases next' with ⟨up', walked'⟩ | ⟨down', -, walked'⟩
      · exact ih walked walked'
      · exact absurd up down'
      · exact absurd up' down
      · exact ih walked walked'

theorem locate_unique (found : tree.locate directory path = .ok other)
    (found' : tree'.locate directory path = .ok target) : other = target := by
  unfold locate at found found'
  split at found
  next => cases found
  next short =>
    rw [if_neg short] at found'
    exact walk_unique found found'

/-! ## Removing -/

theorem node?_remove_self (present : place ≠ []) : (tree.remove place).node? place = none := by
  have nowhere : (tree.nodes.filter fun entry => entry.1 != place).find?
      (fun entry => entry.1 == place) = none := by
    simp [List.find?_eq_none]
  rw [node?, if_neg (by simpa using present), remove, nowhere]
  rfl

theorem node?_remove_of_ne (different : other ≠ place) :
    (tree.remove place).node? other = tree.node? other := by
  have found : ((tree.nodes.filter fun entry => entry.1 != place).find?
      fun entry => entry.1 == other) = tree.nodes.find? fun entry => entry.1 == other := by
    rw [List.find?_filter]
    congr 1
    funext entry
    by_cases here : entry.1 = other <;> simp [here, different]
  rw [node?, remove, found]
  rfl

/-! ## Growing -/

/-- The second tree has everything that the first one has, and directories besides. -/
def GrowsTo (tree tree' : FileTree) : Prop :=
  ∀ place, tree'.node? place = tree.node? place ∨
    tree.node? place = none ∧ tree'.node? place = some .directory

theorem GrowsTo.refl (tree : FileTree) : tree.GrowsTo tree := fun _ => .inl rfl

theorem GrowsTo.trans {tree'' : FileTree} (grows : tree.GrowsTo tree')
    (grows' : tree'.GrowsTo tree'') : tree.GrowsTo tree'' := by
  intro place
  rcases grows place with same | ⟨none, made⟩
  · rw [← same]
    exact grows' place
  · refine .inr ⟨none, ?_⟩
    rcases grows' place with same | ⟨gone, -⟩
    · rw [same, made]
    · rw [made] at gone
      cases gone

theorem growsTo_of_makeDirectory (made : tree.makeDirectory directory path = .ok tree') :
    tree.GrowsTo tree' := by
  obtain ⟨target, -, put⟩ := Except.bind_eq_ok.mp made
  split at put
  next => cases put
  next nothing =>
    cases put
    intro place
    by_cases here : place = target
    · subst here
      have present : place ≠ [] := by
        rintro rfl
        cases nothing
      exact .inr ⟨nothing, node?_put_self present⟩
    · exact .inl (node?_put_of_ne here)

/-! ## Writing -/

theorem write_eq_ok (written : tree.write directory path content = .ok tree') :
    ∃ place executable, tree.locate directory path = .ok place ∧
      tree.node? place ≠ some .directory ∧ tree' = tree.put place (.file content executable) := by
  obtain ⟨place, found, put⟩ := Except.bind_eq_ok.mp written
  split at put
  next => cases put
  next executable before =>
    exact ⟨place, _, found, by simp [before], (Except.ok.inj put).symm⟩
  next before => exact ⟨place, _, found, by simp [before], (Except.ok.inj put).symm⟩

theorem read_of_write (written : tree.write directory path content = .ok tree') :
    tree'.read directory path = .ok content := by
  obtain ⟨place, executable, found, solid, rfl⟩ := write_eq_ok written
  have present : place ≠ [] := by
    rintro rfl
    exact solid rfl
  rw [read, locate_put solid found]
  simp only [Except.ok_bind]
  rw [node?_put_self present]

end FileTree

namespace Act

variable {ε : Type} {w w' : Workspace ε} {path : Path} {content : String}

theorem on_changeFiles (path : Path) (operation : FileTree → Place → Except FileCause FileTree)
    (w : Workspace ε) :
    (changeFiles path operation).on w =
      if path.holdsNull then (.error .nullInPath, w)
      else match operation w.files w.directory with
        | .ok files => (.ok (), { w with files })
        | .error cause => (.error (.file cause path.text), w) := by
  rw [changeFiles, on_bind, on_onFiles]
  cases path.holdsNull with
  | true => rfl
  | false => cases operation w.files w.directory <;> rfl

theorem on_writeText_eq_ok (written : (writeText path content).on w = (.ok (), w')) :
    path.holdsNull = false ∧
      ∃ files, w.files.write w.directory path content.toUTF8 = .ok files ∧
        w' = { w with files } := by
  rw [writeText, writeBytes, on_changeFiles] at written
  split at written
  next => cases written
  next proper =>
    split at written
    next files put => exact ⟨by simpa using proper, files, put, (congrArg Prod.snd written).symm⟩
    next => cases written

theorem decode_toUTF8 (s : String) : Utf8.decode s.toUTF8 = .ok s := by
  have valid : String.fromUTF8? s.toUTF8 = some s := dif_pos s.isValidUTF8
  rw [Utf8.decode, valid]

theorem on_readText_of_writeText (written : (writeText path content).on w = (.ok (), w')) :
    (readText path).on w' = (.ok (Text.unified content), w') := by
  obtain ⟨proper, files, put, rfl⟩ := on_writeText_eq_ok written
  have read : (readBytes path).on { w with files } = (.ok content.toUTF8, { w with files }) := by
    rw [readBytes, on_onFiles, proper, if_neg Bool.false_ne_true, FileTree.read_of_write put]
    rfl
  rw [readText, on_bind_ok read, decode_toUTF8]
  rfl

/-! ## Directories -/

theorem on_makeOneDirectory_grows (path : Path) (w : Workspace ε) :
    ∃ files, ((makeOneDirectory path).on w).2 = { w with files } ∧ w.files.GrowsTo files := by
  rw [makeOneDirectory, on_changeFiles]
  split
  next => exact ⟨w.files, rfl, .refl _⟩
  next =>
    split
    next files made =>
      refine ⟨files, rfl, ?_⟩
      split at made
      next made' =>
        cases made
        exact FileTree.growsTo_of_makeDirectory made'
      next =>
        split at made
        next =>
          split at made
          next =>
            cases made
            exact .refl _
          next => cases made
        next => cases made
    next => exact ⟨w.files, rfl, .refl _⟩

theorem on_makeDirectoriesWith_grows (fuel : Nat) (path : Path) (w : Workspace ε) :
    ∃ files, ((makeDirectoriesWith fuel path).on w).2 = { w with files } ∧
      w.files.GrowsTo files := by
  induction fuel generalizing path w with
  | zero => exact on_makeOneDirectory_grows path w
  | succ fuel ih =>
      obtain ⟨files, made, grows⟩ := on_makeOneDirectory_grows path w
      rw [makeDirectoriesWith, on_bind, on_attempt]
      dsimp only
      rw [made]
      split
      next => exact ⟨files, rfl, grows⟩
      next =>
        split
        next => exact ⟨files, rfl, grows⟩
        next =>
          obtain ⟨files', led, grows'⟩ := ih path.parent { w with files }
          rw [on_bind]
          split
          next v leading =>
            rw [leading] at led
            obtain ⟨files'', made', grows''⟩ := on_makeOneDirectory_grows path v
            subst led
            exact ⟨files'', made', grows.trans (grows'.trans grows'')⟩
          next v leading =>
            rw [leading] at led
            exact ⟨files', led, grows.trans grows'⟩
      next => exact ⟨files, rfl, grows⟩

theorem on_makeDirectories_grows {outcome : Except Fault Unit}
    (made : (makeDirectories path).on w = (outcome, w')) :
    ∃ files, w' = { w with files } ∧ w.files.GrowsTo files := by
  obtain ⟨files, same, grows⟩ := on_makeDirectoriesWith_grows path.names.length path w
  rw [← makeDirectories, made] at same
  exact ⟨files, same, grows⟩

/-! ## Removing -/

theorem on_removeIfThere_of_hasFile {bytes : ByteArray} (h : w.HasFile path bytes) :
    ∃ place, w.files.locate w.directory path = .ok place ∧
      (removeIfThere path).on w = (.ok (), { w with files := w.files.remove place }) := by
  obtain ⟨proper, place, executable, found, node⟩ := h
  have removed : w.files.unlink w.directory path = .ok (w.files.remove place) := by
    rw [FileTree.unlink, found, Except.ok_bind, node]
  refine ⟨place, found, ?_⟩
  rw [removeIfThere, on_bind, on_attempt, on_changeFiles, proper, if_neg Bool.false_ne_true,
    removed]
  rfl

theorem on_removeIfThere_of_nothing (proper : path.holdsNull = false)
    (nothing : w.files.unlink w.directory path = .error .notFound) :
    (removeIfThere path).on w = (.ok (), w) := by
  rw [removeIfThere, on_bind, on_attempt, on_changeFiles, proper, if_neg Bool.false_ne_true,
    nothing]
  rfl

end Act

end StillMotion
