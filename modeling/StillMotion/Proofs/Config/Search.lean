import Mathlib.Algebra.GroupWithZero.Nat
import Mathlib.Data.List.Infix
import StillMotion.Config.Load
import StillMotion.Proofs.Files.Act

/-!
# The search for a configuration

The search goes from a directory upwards and looks at one path after the other.  Only the first look
can fail, because a name or the path is too long: the paths get shorter on the way up.  Otherwise
the search stops at the nearest directory with a configuration, the top left out.
-/

namespace StillMotion

variable {ε : Type}

/-! ## Walking through directories -/

namespace FileTree

def holds (tree : FileTree) (place : Place) : Bool :=
  match tree.walk [] place with
  | .ok place => (tree.node? place).isSome
  | .error _ => false

theorem walk_append (tree : FileTree) (place : Place) (names rest : List String) :
    tree.walk place (names ++ rest) =
      (tree.walk place names).bind fun place => tree.walk place rest := by
  induction names generalizing place with
  | nil => rfl
  | cons name names ih =>
      rw [List.cons_append, walk, walk]
      cases tree.node? place with
      | none => rfl
      | some node =>
          cases node with
          | file content executable => rfl
          | directory =>
              dsimp only
              split_ifs <;> first | rfl | exact ih _

end FileTree

/-! ## Looking for a configuration -/

namespace Config

theorem follow_append (place : Place) (names rest : List String) :
    follow place (names ++ rest) = follow (follow place names) rest := by
  induction names generalizing place with
  | nil => rfl
  | cons name names ih =>
      simp only [List.cons_append, follow]
      split
      · exact ih _
      · exact ih _

theorem follow_of_plain {names : List String} (plain : ∀ name ∈ names, name ≠ "..")
    (place : Place) : follow place names = place ++ names := by
  induction names generalizing place with
  | nil => simp [follow]
  | cons name names ih =>
      have kept : ¬ (name == "..") = true := by simpa using plain name (by simp)
      rw [follow, if_neg kept, ih fun other member => plain other (by simp [member])]
      simp

theorem mem_follow {place : Place} {names : List String} {name : String}
    (h : name ∈ follow place names) : name ∈ place ∨ name ∈ names ∧ name ≠ ".." := by
  induction names generalizing place with
  | nil => exact .inl h
  | cons other names ih =>
      rw [follow] at h
      split at h
      next =>
          rcases ih h with above | ⟨later, plain⟩
          · exact .inl (List.dropLast_subset _ above)
          · exact .inr ⟨by simp [later], plain⟩
      next down =>
          rcases ih h with here | ⟨later, plain⟩
          · rcases List.mem_append.mp here with above | last
            · exact .inl above
            · obtain rfl : name = other := by simpa using last
              exact .inr ⟨by simp, by simpa using down⟩
          · exact .inr ⟨by simp [later], plain⟩

def target (path : Path) : Place := follow [] path.names

theorem child_fileName (path : Path) :
    path.child fileName = ⟨path.root, path.names ++ [fileName]⟩ := rfl

/-- Whether there is a configuration in a directory cannot be told: a name on the way is too long,
or the whole path. -/
def IsTooDeep (tree : FileTree) (dir : Place) : Prop :=
  tree.locate [] ((placePath dir).child fileName) = .error .nameTooLong

theorem utf8ByteSize_text_top {names : List String} (filled : names ≠ []) :
    (Path.text ⟨.top, names⟩).utf8ByteSize =
      (names.map fun name => 1 + name.utf8ByteSize).sum := by
  have slash : "/".utf8ByteSize = 1 := rfl
  have text : Path.text ⟨.top, names⟩ = "/" ++ "/".intercalate names := rfl
  rw [text, String.utf8ByteSize_append, slash]
  clear text
  induction names with
  | nil => exact absurd rfl filled
  | cons name names ih =>
      cases names with
      | nil => simp
      | cons next names =>
          have rest := ih (List.cons_ne_nil next names)
          rw [String.intercalate_cons_cons, String.utf8ByteSize_append, String.utf8ByteSize_append,
            slash, List.map_cons, List.sum_cons]
          omega

theorem utf8ByteSize_text_child (dir : Place) :
    ((placePath dir).child fileName).text.utf8ByteSize =
      ((dir ++ [fileName]).map fun name => 1 + name.utf8ByteSize).sum :=
  utf8ByteSize_text_top (List.append_ne_nil_of_right_ne_nil _ (List.cons_ne_nil _ _))

theorem walk_fileName (tree : FileTree) (place : Place) :
    tree.walk place [fileName] ≠ .error .nameTooLong := by
  rw [FileTree.walk]
  split
  · nofun
  · nofun
  · rw [if_neg (by decide), if_neg (by decide), FileTree.walk]
    nofun

theorem IsTooDeep.of_above {tree : FileTree} {place dir : Place} (above : dir <+: place)
    (deep : IsTooDeep tree dir) : IsTooDeep tree place := by
  obtain ⟨rest, rfl⟩ := above
  unfold IsTooDeep FileTree.locate at deep ⊢
  by_cases long : FileTree.pathLimit <
      ((placePath (dir ++ rest)).child fileName).text.utf8ByteSize
  · rw [if_pos long]
  · have short : ¬ FileTree.pathLimit < ((placePath dir).child fileName).text.utf8ByteSize := by
      rw [utf8ByteSize_text_child] at long ⊢
      simp only [List.map_append, List.sum_append] at long ⊢
      omega
    rw [if_neg short] at deep
    rw [if_neg long]
    change tree.walk [] (dir ++ [fileName]) = _ at deep
    change tree.walk [] (dir ++ rest ++ [fileName]) = _
    rw [FileTree.walk_append] at deep
    rw [List.append_assoc, FileTree.walk_append]
    cases walked : tree.walk [] dir with
    | error cause =>
        rw [walked] at deep
        exact deep
    | ok place =>
        rw [walked] at deep
        exact absurd deep (walk_fileName tree place)

theorem holdsNull_child (path : Path) :
    (path.child fileName).holdsNull = path.holdsNull := by
  have proper : fileName.toList.contains (Char.ofNat 0) = false := by decide
  rw [child_fileName, Path.holdsNull, Path.holdsNull, List.any_append, List.any_cons, proper]
  simp

theorem holdsNull_of_above {place dir : Place} (above : dir <+: place)
    (proper : (placePath place).holdsNull = false) : (placePath dir).holdsNull = false := by
  obtain ⟨rest, rfl⟩ := above
  rw [Path.holdsNull, placePath, List.any_append, Bool.or_eq_false_iff] at proper
  exact proper.1

section Look

variable {w : Workspace ε} {dir : Place}

theorem on_look (proper : (placePath dir).holdsNull = false) (shallow : ¬ IsTooDeep w.files dir) :
    (Act.exists? ((placePath dir).child fileName)).on w =
      (.ok (w.files.holds (dir ++ [fileName])), w) := by
  have located : w.files.locate w.directory ((placePath dir).child fileName) =
      w.files.locate [] ((placePath dir).child fileName) := rfl
  rw [Act.on_exists?, Act.on_nodeAt?, holdsNull_child, proper, if_neg Bool.false_ne_true, located]
  have short : ¬ FileTree.pathLimit < ((placePath dir).child fileName).text.utf8ByteSize := by
    intro long
    exact shallow (if_pos long)
  have walked : w.files.locate [] ((placePath dir).child fileName) =
      w.files.walk [] (dir ++ [fileName]) := if_neg short
  unfold IsTooDeep at shallow
  rw [walked] at shallow ⊢
  unfold FileTree.holds
  cases ended : w.files.walk [] (dir ++ [fileName]) with
  | ok place => rfl
  | error cause =>
      cases cause with
      | nameTooLong => exact absurd ended shallow
      | _ => rfl

theorem on_look_of_isTooDeep (proper : (placePath dir).holdsNull = false)
    (deep : IsTooDeep w.files dir) :
    (Act.exists? ((placePath dir).child fileName)).on w =
      (.error (.file .nameTooLong ((placePath dir).child fileName).text), w) := by
  have located : w.files.locate w.directory ((placePath dir).child fileName) =
      .error .nameTooLong := deep
  rw [Act.on_exists?, Act.on_nodeAt?, holdsNull_child, proper, if_neg Bool.false_ne_true, located]
  rfl

end Look

/-! ## The nearest directory -/

/-- The nearest directory with a configuration, from a place upwards, of which only the top is
left out. -/
def nearest? (hasFile : Place → Bool) : Nat → Place → Option Place
  | 0, _ => none
  | fuel + 1, place =>
      if place.isEmpty then none
      else if hasFile place then some place
      else nearest? hasFile fuel place.dropLast

theorem prefix_iff_of_ne_nil {place other : Place} (below : place ≠ []) :
    other <+: place ↔ other = place ∨ other <+: place.dropLast := by
  conv_lhs => rw [← List.dropLast_append_getLast below]
  rw [List.prefix_concat_iff, List.dropLast_append_getLast below]

theorem nearest?_cases (hasFile : Place → Bool) {fuel : Nat} {place : Place}
    (enough : place.length < fuel) :
    (nearest? hasFile fuel place = none ∧
      ∀ other, other <+: place → other ≠ [] → hasFile other = false) ∨
    ∃ dir, nearest? hasFile fuel place = some dir ∧ dir ≠ [] ∧ dir <+: place ∧ hasFile dir = true ∧
      ∀ other, other <+: place → other ≠ [] → hasFile other = true → other <+: dir := by
  induction fuel generalizing place with
  | zero => omega
  | succ fuel ih =>
      rw [nearest?]
      -- At the top the search ends before it looks there.
      by_cases top : place = []
      · subst top
        refine .inl ⟨by simp, ?_⟩
        intro other above below
        exact absurd (List.prefix_nil.mp above) below
      rw [if_neg (by simpa using top)]
      by_cases here : hasFile place = true
      · rw [if_pos here]
        exact .inr ⟨place, rfl, top, List.prefix_rfl, here, fun other above _ _ => above⟩
      rw [if_neg here]
      have shorter : place.dropLast.length < fuel := by
        have := List.length_pos_of_ne_nil top
        rw [List.length_dropLast]
        omega
      rcases ih shorter with ⟨nothing, empty⟩ | ⟨dir, found, below, above, lies, nearest⟩
      · refine .inl ⟨nothing, ?_⟩
        intro other above below
        rcases (prefix_iff_of_ne_nil top).mp above with rfl | higher
        · simpa using here
        · exact empty other higher below
      · refine .inr ⟨dir, found, below, above.trans (List.dropLast_prefix _), lies, ?_⟩
        intro other above' below' lies'
        rcases (prefix_iff_of_ne_nil top).mp above' with rfl | higher
        · exact absurd lies' here
        · exact nearest other higher below' lies'

def foundIn (tree : FileTree) (place : Place) : Option Place :=
  nearest? (fun dir => tree.holds (dir ++ [fileName])) (place.length + 1) place

def answer (tree : FileTree) (start : Path) : Path :=
  match foundIn tree (target start) with
  | some dir => (placePath dir).child fileName
  | none => start.child fileName

theorem on_search {w : Workspace ε} {place : Place} (proper : (placePath place).holdsNull = false)
    (shallow : ¬ IsTooDeep w.files place) (fuel : Nat) :
    (search fuel place).on w =
      (.ok (nearest? (fun dir => w.files.holds (dir ++ [fileName])) fuel place), w) := by
  induction fuel generalizing place with
  | zero => rfl
  | succ fuel ih =>
      rw [search, nearest?, Act.on_ite]
      split
      · rfl
      · have above := List.dropLast_prefix place
        rw [Act.on_bind_ok (on_look proper shallow), Act.on_ite]
        split
        · rfl
        · exact ih (holdsNull_of_above above proper) fun deep => shallow (deep.of_above above)

section Find

variable {w : Workspace ε} {start : Path}

theorem holdsNull_target (proper : start.holdsNull = false) :
    (placePath (target start)).holdsNull = false := by
  rw [Path.holdsNull, List.any_eq_false] at proper ⊢
  intro name member
  rcases mem_follow member with none | ⟨kept, -⟩
  · cases none
  · exact proper name kept

theorem on_find_eq (absolute : start.isAbsolute = true) (proper : start.holdsNull = false) :
    (find start).on w = (search ((target start).length + 1) (target start) >>= fun found =>
      match found with
      | some dir => pure ((placePath dir).child fileName)
      | none => pure (start.child fileName)).on w := by
  have checked : (Act.checkedPath start).on w = (.ok (), w) := by
    rw [Act.checkedPath, proper]
    rfl
  unfold find
  rw [Act.on_bind_ok checked, Act.on_bind_ok (Act.on_workspace w)]
  simp only [absolute, if_true]
  rfl

theorem on_find (absolute : start.isAbsolute = true) (proper : start.holdsNull = false)
    (shallow : target start = [] ∨ ¬ IsTooDeep w.files (target start)) :
    (find start).on w = (.ok (answer w.files start), w) := by
  have searched : (search ((target start).length + 1) (target start)).on w =
      (.ok (foundIn w.files (target start)), w) := by
    rcases shallow with top | shallow
    · rw [top]
      rfl
    · exact on_search (holdsNull_target proper) shallow _
  rw [on_find_eq absolute proper, Act.on_bind_ok searched, answer]
  cases foundIn w.files (target start) <;> rfl

theorem on_find_of_isTooDeep (absolute : start.isAbsolute = true)
    (proper : start.holdsNull = false) (below : target start ≠ [])
    (deep : IsTooDeep w.files (target start)) :
    (find start).on w =
      (.error (.file .nameTooLong ((placePath (target start)).child fileName).text), w) := by
  have searched : (search ((target start).length + 1) (target start)).on w =
      (.error (.file .nameTooLong ((placePath (target start)).child fileName).text), w) := by
    rw [search, Act.on_ite, if_neg (by simpa using below)]
    exact Act.on_bind_error (on_look_of_isTooDeep (holdsNull_target proper) deep)
  rw [on_find_eq absolute proper, Act.on_bind_error searched]

end Find

end Config

end StillMotion
