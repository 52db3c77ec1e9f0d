import StillMotion.Proofs.Config.Loading

/-!
# Where a configuration is found

The search for a configuration goes from a directory upwards and takes the nearest one, but it ends
below the top: a configuration in the directory at the top is found from there only.  Where the path
of the first one that it looks for is too long to be looked at, the search fails.
-/

namespace StillMotion

namespace Config

/-! ## The nearest directory -/

def LiesIn (tree : FileTree) (dir : Place) : Prop := tree.holds (dir ++ [fileName]) = true

/-- Of a place and all that is above it, the top included, a directory is the nearest in which
there is a configuration. -/
structure IsNearestTo (tree : FileTree) (place dir : Place) : Prop where
  above : dir <+: place
  lies : LiesIn tree dir
  nearest : ∀ other, other <+: place → LiesIn tree other → other <+: dir

/-- The nearest configuration is at the top, and the place is below it. -/
def IsHidden (tree : FileTree) (place : Place) : Prop := place ≠ [] ∧ IsNearestTo tree place []

section Nearest

variable {tree : FileTree} {place dir other : Place}

theorem IsNearestTo.unique (h : IsNearestTo tree place dir) (h' : IsNearestTo tree place other) :
    dir = other :=
  (h'.nearest dir h.above h.lies).eq_of_length_le (h.nearest other h'.above h'.lies).length_le

theorem foundIn_cases (tree : FileTree) (place : Place) :
    (foundIn tree place = none ∧ ∀ other, other <+: place → LiesIn tree other → other = []) ∨
    ∃ dir, foundIn tree place = some dir ∧ dir ≠ [] ∧ IsNearestTo tree place dir := by
  rcases nearest?_cases (fun dir => tree.holds (dir ++ [fileName]))
    (Nat.lt_succ_self place.length) with
    ⟨nothing, empty⟩ | ⟨dir, found, below, above, lies, nearest⟩
  · refine .inl ⟨nothing, ?_⟩
    intro other above lies
    by_contra below
    rw [LiesIn, empty other above below] at lies
    cases lies
  · refine .inr ⟨dir, found, below, above, lies, ?_⟩
    intro other above' lies'
    by_cases top : other = []
    · rw [top]
      exact List.nil_prefix
    · exact nearest other above' top lies'

/-- The nearest directory is found, unless it is the top. -/
theorem foundIn_eq_some_iff :
    foundIn tree place = some dir ↔ dir ≠ [] ∧ IsNearestTo tree place dir := by
  rcases foundIn_cases tree place with ⟨nothing, onlyTop⟩ | ⟨dir', found, below, isNearest'⟩
  · rw [nothing]
    refine iff_of_false nofun ?_
    rintro ⟨below, isNearest⟩
    exact below (onlyTop dir isNearest.above isNearest.lies)
  · rw [found, Option.some.injEq]
    constructor
    · rintro rfl
      exact ⟨below, isNearest'⟩
    · rintro ⟨-, isNearest⟩
      exact isNearest'.unique isNearest

theorem foundIn_eq_none_iff :
    foundIn tree place = none ↔ ∀ dir, IsNearestTo tree place dir → dir = [] := by
  rw [Option.eq_none_iff_forall_ne_some]
  constructor
  · intro missing dir isNearest
    by_contra below
    exact missing dir (foundIn_eq_some_iff.mpr ⟨below, isNearest⟩)
  · intro onlyTop dir found
    obtain ⟨below, isNearest⟩ := foundIn_eq_some_iff.mp found
    exact below (onlyTop dir isNearest)

theorem exists_isNearestTo (above : dir <+: place) (lies : LiesIn tree dir) :
    ∃ nearest, IsNearestTo tree place nearest := by
  rcases foundIn_cases tree place with ⟨-, onlyTop⟩ | ⟨nearest, -, -, isNearest⟩
  · obtain rfl := onlyTop dir above lies
    exact ⟨[], above, lies, fun other above' lies' => by rw [onlyTop other above' lies']⟩
  · exact ⟨nearest, isNearest⟩

theorem not_liesIn_of_isHidden (hidden : IsHidden tree place) : ¬ LiesIn tree place := fun lies =>
  hidden.1 (List.prefix_nil.mp (hidden.2.nearest place List.prefix_rfl lies))

theorem foundIn_of_isHidden (hidden : IsHidden tree place) : foundIn tree place = none :=
  foundIn_eq_none_iff.mpr fun _ isNearest => isNearest.unique hidden.2

end Nearest

/-! ## The search -/

variable {ε : Type}

/-- A path is what a search from a start has to answer: the configuration of the nearest directory,
or, if there is none on the way to the top, where it would be at the start. -/
structure IsAnswerTo (tree : FileTree) (start path : Path) : Prop where
  absolute : path.isAbsolute = true
  found : ∀ dir, IsNearestTo tree (target start) dir → target path = dir ++ [fileName]
  missing : (∀ dir, dir <+: target start → ¬ LiesIn tree dir) →
    path = start.child fileName ∧ tree.holds (target path) = false

theorem target_child (path : Path) : target (path.child fileName) = target path ++ [fileName] := by
  have plain : fileName ≠ ".." := by decide
  rw [target, child_fileName, follow_append, follow_of_plain (by simp [plain])]
  rfl

theorem target_placePath {path : Path} {dir : Place} (above : dir <+: target path) :
    target (placePath dir) = dir := by
  have plain (name : String) (member : name ∈ dir) : name ≠ ".." := by
    rcases mem_follow (above.subset member) with none | ⟨-, plain⟩
    · cases none
    · exact plain
  rw [target, placePath, follow_of_plain plain, List.nil_append]

theorem answer_of_found {tree : FileTree} {start : Path} {dir : Place}
    (found : foundIn tree (target start) = some dir) :
    answer tree start = (placePath dir).child fileName := by
  rw [answer, found]

theorem answer_of_missing {tree : FileTree} {start : Path}
    (missing : foundIn tree (target start) = none) :
    answer tree start = start.child fileName := by
  rw [answer, missing]

theorem answer_of_isHidden {tree : FileTree} {start : Path}
    (hidden : IsHidden tree (target start)) :
    answer tree start = start.child fileName ∧
      tree.holds (target (answer tree start)) = false := by
  have missing := foundIn_of_isHidden hidden
  refine ⟨answer_of_missing missing, ?_⟩
  rw [answer_of_missing missing, target_child]
  simpa [LiesIn] using not_liesIn_of_isHidden hidden

theorem isAnswerTo_answer_iff {tree : FileTree} {start : Path}
    (absolute : start.isAbsolute = true) :
    IsAnswerTo tree start (answer tree start) ↔ ¬ IsHidden tree (target start) := by
  constructor
  · intro isAnswer hidden
    have here := isAnswer.found [] hidden.2
    rw [(answer_of_isHidden hidden).1, target_child] at here
    exact hidden.1 (List.append_cancel_right here)
  · intro shown
    cases found : foundIn tree (target start) with
    | some dir =>
        obtain ⟨below, isNearest⟩ := foundIn_eq_some_iff.mp found
        rw [answer_of_found found]
        refine ⟨rfl, ?_, fun empty => absurd isNearest.lies (empty dir isNearest.above)⟩
        intro other isNearest'
        rw [target_child, target_placePath isNearest.above, isNearest.unique isNearest']
    | none =>
        have onlyTop := foundIn_eq_none_iff.mp found
        rw [answer_of_missing found]
        refine ⟨absolute, ?_, ?_⟩
        · intro dir isNearest
          obtain rfl := onlyTop dir isNearest
          have top : target start = [] := by
            by_contra below
            exact shown ⟨below, isNearest⟩
          rw [target_child, top]
        · intro empty
          refine ⟨rfl, ?_⟩
          rw [target_child]
          simpa [LiesIn] using empty (target start) List.prefix_rfl

/-! ## The configuration of a run -/

section Run

variable {w : Workspace ε} {dir : Place}

theorem nearest_of_lies (plain : HasPlainDirectory w) (above : dir <+: w.directory)
    (lies : LiesIn w.files dir) (shown : ¬ IsHidden w.files w.directory) :
    ∃ nearestDir, nearestDir <+: w.directory ∧ LiesIn w.files nearestDir ∧
      nearest w = (placePath nearestDir).child fileName := by
  obtain ⟨nearestDir, isNearest⟩ := exists_isNearestTo above lies
  refine ⟨nearestDir, isNearest.above, isNearest.lies, ?_⟩
  rw [nearest]
  by_cases top : nearestDir = []
  · subst top
    have here : w.directory = [] := by
      by_contra below
      exact shown ⟨below, isNearest⟩
    have none : foundIn w.files (target (placePath w.directory)) = none := by
      rw [target_directory plain, here]
      rfl
    rw [answer_of_missing none, here]
  · have found : foundIn w.files (target (placePath w.directory)) = some nearestDir := by
      rw [target_directory plain]
      exact foundIn_eq_some_iff.mpr ⟨top, isNearest⟩
    exact answer_of_found found

theorem on_look_above (searchable : IsSearchable w) (above : dir <+: w.directory) :
    (Act.exists? ((placePath dir).child fileName)).on w =
      (.ok (w.files.holds (dir ++ [fileName])), w) :=
  on_look (holdsNull_of_above above searchable.proper)
    fun deep => searchable.shallow (deep.of_above above)

theorem on_loadOrDefault_of_lies (searchable : IsSearchable w) (above : dir <+: w.directory)
    (lies : LiesIn w.files dir) (shown : ¬ IsHidden w.files w.directory) :
    (loadOrDefault none).on w = (load (nearest w)).on w := by
  obtain ⟨nearestDir, above', lies', same⟩ :=
    nearest_of_lies searchable.toHasPlainDirectory above lies shown
  have told := on_look_above searchable above'
  rw [lies', ← same] at told
  rw [on_loadOrDefault_nearest searchable, Act.on_bind_ok told]
  rfl

theorem on_loadOrDefault_of_missing (searchable : IsSearchable w)
    (missing : foundIn w.files w.directory = none) (bare : ¬ LiesIn w.files w.directory) :
    (loadOrDefault none).on w = (.ok standard, w) := by
  have same : nearest w = (placePath w.directory).child fileName :=
    answer_of_missing (by rw [target_directory searchable.toHasPlainDirectory, missing])
  have told := on_look_above searchable List.prefix_rfl
  have none : w.files.holds (w.directory ++ [fileName]) = false := by simpa [LiesIn] using bare
  rw [← same, none] at told
  rw [on_loadOrDefault_nearest searchable, Act.on_bind_ok told]
  rfl

theorem on_loadOrDefault_of_isTooDeep (plain : HasPlainDirectory w) (below : w.directory ≠ [])
    (deep : IsTooDeep w.files w.directory) :
    (loadOrDefault none).on w =
      (.error (.file .nameTooLong ((placePath w.directory).child fileName).text), w) := by
  have failed : (find (placePath w.directory)).on w = _ :=
    on_find_of_isTooDeep rfl plain.proper (by rwa [target_directory plain])
      (by rwa [target_directory plain])
  rw [target_directory plain] at failed
  rw [on_loadOrDefault_none, Act.on_bind_error failed]

end Run

/-- The search from an absolute start ends and changes nothing.  If the path of a configuration at
the start can be looked at, it answers with the configuration of the nearest directory, or with
where that would be at the start if there is none, unless the only configuration on the way is at
the top and the start is below it: that one is passed by.  If the path cannot be looked at, the
search fails.  So the standard configuration is used exactly where there is none on the way from
the current directory to the top, or only that one. -/
theorem find_isAnswerTo_iff (w : Workspace ε) :
    (∀ start : Path, start.isAbsolute = true → start.holdsNull = false →
      (target start = [] ∨ ¬ IsTooDeep w.files (target start) →
        ∃ path, (find start).on w = (.ok path, w) ∧
          (IsAnswerTo w.files start path ↔ ¬ IsHidden w.files (target start)) ∧
          (IsHidden w.files (target start) →
            path = start.child fileName ∧ w.files.holds (target path) = false)) ∧
      (target start ≠ [] → IsTooDeep w.files (target start) →
        (find start).on w = (.error (.file .nameTooLong
          ((placePath (target start)).child fileName).text), w))) ∧
    (HasPlainDirectory w →
      (¬ IsTooDeep w.files w.directory →
        (∃ dir, dir <+: w.directory ∧ LiesIn w.files dir) → ¬ IsHidden w.files w.directory →
          IsAnswerTo w.files (placePath w.directory) (nearest w) ∧
            (loadOrDefault none).on w = (load (nearest w)).on w) ∧
      (¬ IsTooDeep w.files w.directory →
        (∀ dir, dir <+: w.directory → ¬ LiesIn w.files dir) ∨ IsHidden w.files w.directory →
          (loadOrDefault none).on w = (.ok standard, w)) ∧
      (w.directory ≠ [] → IsTooDeep w.files w.directory →
        (loadOrDefault none).on w = (.error (.file .nameTooLong
          ((placePath w.directory).child fileName).text), w))) := by
  constructor
  · intro start absolute proper
    exact ⟨fun shallow => ⟨_, on_find absolute proper shallow, isAnswerTo_answer_iff absolute,
      answer_of_isHidden⟩, on_find_of_isTooDeep absolute proper⟩
  · intro plain
    refine ⟨?_, ?_, on_loadOrDefault_of_isTooDeep plain⟩
    · rintro shallow ⟨dir, above, lies⟩ shown
      refine ⟨?_, on_loadOrDefault_of_lies ⟨plain, shallow⟩ above lies shown⟩
      rw [nearest, isAnswerTo_answer_iff rfl, target_directory plain]
      exact shown
    · intro shallow missing
      have searchable : IsSearchable w := ⟨plain, shallow⟩
      rcases missing with empty | hidden
      · have none : foundIn w.files w.directory = none := foundIn_eq_none_iff.mpr
          fun dir isNearest => absurd isNearest.lies (empty dir isNearest.above)
        exact on_loadOrDefault_of_missing searchable none (empty _ List.prefix_rfl)
      · exact on_loadOrDefault_of_missing searchable (foundIn_of_isHidden hidden)
          (not_liesIn_of_isHidden hidden)

end Config

/-! ## Two directories below the top -/

/-- Two configurations on the way to the top; the current directory has none. -/
def Workspace.layered : Workspace Unit := { blank with
  files := ⟨[(["reelify.toml"], .file .empty false), (["srv"], .directory),
    (["srv", "reelify.toml"], .file .empty false), (["srv", "app"], .directory)]⟩
  directory := ["srv", "app"] }

/-- The only configuration is at the top. -/
def Workspace.crowned : Workspace Unit := { blank with
  files := ⟨[(["reelify.toml"], .file .empty false), (["srv"], .directory)]⟩
  directory := ["srv"] }

namespace Config

theorem layered_isSearchable : IsSearchable Workspace.layered where
  plain := by decide
  proper := by decide
  shallow := by
    unfold IsTooDeep
    decide

theorem crowned_isSearchable : IsSearchable Workspace.crowned where
  plain := by decide
  proper := by decide
  shallow := by
    unfold IsTooDeep
    decide

theorem layered_foundIn :
    foundIn Workspace.layered.files (target (placePath ["srv", "app"])) = some ["srv"] := by
  decide +kernel

theorem layered_isNearestTo :
    IsNearestTo Workspace.layered.files (target (placePath ["srv", "app"])) ["srv"] :=
  (foundIn_eq_some_iff.mp layered_foundIn).2

theorem crowned_isHidden : IsHidden Workspace.crowned.files ["srv"] := by
  have lies : LiesIn Workspace.crowned.files [] := by
    unfold LiesIn
    decide +kernel
  have passed : foundIn Workspace.crowned.files ["srv"] = none := by decide +kernel
  refine ⟨List.cons_ne_nil _ _, List.nil_prefix, lies, ?_⟩
  intro other above there
  obtain ⟨nearest, isNearest⟩ := exists_isNearestTo above there
  obtain rfl : nearest = [] := foundIn_eq_none_iff.mp passed nearest isNearest
  exact isNearest.nearest other above there

/-- The nearer of two configurations is found and loaded; the one at the top is not. -/
theorem layered_isAnswerTo :
    ((find (placePath ["srv", "app"])).on .layered =
        (.ok (placePath ["srv", "reelify.toml"]), .layered) ∧
      IsAnswerTo Workspace.layered.files (placePath ["srv", "app"])
        (placePath ["srv", "reelify.toml"])) ∧
    (loadOrDefault none).on .layered = (load (placePath ["srv", "reelify.toml"])).on .layered ∧
    (loadOrDefault none).on .crowned = (.ok standard, .crowned) := by
  obtain ⟨searches, runs⟩ := find_isAnswerTo_iff Workspace.layered
  have here : target (placePath ["srv", "app"]) = ["srv", "app"] := by decide +kernel
  have isNearest := layered_isNearestTo
  rw [here] at isNearest
  have shown : ¬ IsHidden Workspace.layered.files ["srv", "app"] := fun hidden =>
    List.cons_ne_nil _ _ (isNearest.unique hidden.2)
  have shallow : ¬ IsTooDeep Workspace.layered.files ["srv", "app"] := layered_isSearchable.shallow
  have told : answer Workspace.layered.files (placePath ["srv", "app"]) =
      placePath ["srv", "reelify.toml"] := answer_of_found layered_foundIn
  have found : (find (placePath ["srv", "app"])).on .layered =
      (.ok (placePath ["srv", "reelify.toml"]), .layered) := by
    rw [on_find rfl (by decide) (.inr (here ▸ shallow)), told]
  obtain ⟨path, found', answers, -⟩ :=
    (searches (placePath ["srv", "app"]) rfl (by decide)).1 (.inr (here ▸ shallow))
  rw [here] at answers
  obtain rfl : placePath ["srv", "reelify.toml"] = path := by
    rw [found] at found'
    exact Except.ok.inj (congrArg Prod.fst found')
  refine ⟨⟨found, answers.mpr shown⟩, ?_, ?_⟩
  · have start : nearest Workspace.layered = placePath ["srv", "reelify.toml"] := told
    rw [← start]
    exact ((runs layered_isSearchable.toHasPlainDirectory).1 shallow ⟨["srv"],
      isNearest.above, isNearest.lies⟩ shown).2
  · exact ((find_isAnswerTo_iff Workspace.crowned).2
      crowned_isSearchable.toHasPlainDirectory).2.1 crowned_isSearchable.shallow
        (.inr crowned_isHidden)

/-- A configuration at the top is not found from below it. -/
theorem not_all_find_isAnswerTo :
    ¬ ∀ (w : Workspace Unit) (start : Path), start.isAbsolute = true →
      start.holdsNull = false → ¬ IsTooDeep w.files (target start) →
      ∃ path, (find start).on w = (.ok path, w) ∧ IsAnswerTo w.files start path := by
  intro all
  have here : target (placePath ["srv"]) = ["srv"] := by decide +kernel
  have shallow : ¬ IsTooDeep Workspace.crowned.files (target (placePath ["srv"])) := by
    rw [here]
    exact crowned_isSearchable.shallow
  obtain ⟨path, found, isAnswer⟩ := all .crowned (placePath ["srv"]) rfl (by decide) shallow
  rw [on_find rfl (by decide) (.inr shallow)] at found
  obtain rfl : answer Workspace.crowned.files (placePath ["srv"]) = path :=
    Except.ok.inj (congrArg Prod.fst found)
  have shown := (isAnswerTo_answer_iff rfl).mp isAnswer
  rw [here] at shown
  exact shown crowned_isHidden

end Config

end StillMotion
