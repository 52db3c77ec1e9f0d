import StillMotion.Proofs.Files.Storage
import StillMotion.Proofs.Pipeline.Production
import StillMotion.Proofs.Text.Search
import StillMotion.Render.CommandRenderer

/-!
# What a render command leaves

The renderer writes a file of properties for its process and removes it afterwards, whatever becomes
of the process: it cannot be started, fails, takes too long or leaves no video, and its run may fail
itself.  The process may rewrite the file or remove it.  In the end the file is not there, and what
the process has not touched is as it was before, but for new directories.

What is answered tells how the process has ended and what it has left.
-/

namespace StillMotion

open StillMotion.Number StillMotion.Scripting

variable {ε : Type}

/-! ## Programs -/

structure Workspace.CanRun (w : Workspace ε) (text : String) : Prop where
  short : text.utf8ByteSize ≤ FileTree.pathLimit
  proper : (Path.ofText text).holdsNull = false
  /-- What is behind the last slash names a file. -/
  named : ∀ name, (Text.split '/' text).getLast? = some name → name ∉ ["", ".", ".."]
  file : ∃ place content,
    w.files.walk (if (Path.ofText text).isAbsolute then [] else w.directory)
      (Path.ofText text).names = .ok place ∧ w.files.node? place = some (.file content true)

/-- A text lists directories, with colons between them. -/
structure Lists (list : String) (dirs : List String) : Prop where
  joined : list.toList = [':'].intercalate (dirs.map String.toList)
  whole : ∀ dir ∈ dirs, ':' ∉ dir.toList
  present : dirs ≠ []

/-- A program is on the search path: its name is a path of its own, or a directory has it that is
listed by the variable, and where that is not set one of the standard directories. -/
inductive Workspace.HasProgram (w : Workspace ε) (program : String) : Prop where
  | path (slash : '/' ∈ program.toList) (runs : w.CanRun program)
  | listed {list dir : String} {dirs : List String} (plain : '/' ∉ program.toList)
      (set : w.environment.find? (fun entry => entry.1 == "PATH") = some ("PATH", list))
      (filled : list ≠ "") (lists : Lists list dirs) (member : dir ∈ dirs)
      (runs : w.CanRun (pathIn dir program))
  | standard {dir : String} (plain : '/' ∉ program.toList)
      (unset : ∀ entry ∈ w.environment, entry.1 ≠ "PATH") (member : dir ∈ ["/bin", "/usr/bin"])
      (runs : w.CanRun (pathIn dir program))

theorem FileTree.isExecutable_iff {tree : FileTree} {place : Place} :
    tree.isExecutable place = true ↔ ∃ content, tree.node? place = some (.file content true) := by
  unfold isExecutable
  split
  next content executable there => simp [there]
  next other =>
      refine iff_of_false Bool.false_ne_true ?_
      rintro ⟨content, there⟩
      exact other content true there

theorem isRunnable_iff {w : Workspace ε} {text : String} :
    isRunnable w.files w.directory text = true ↔ w.CanRun text := by
  unfold isRunnable
  dsimp only
  split
  next refused =>
      refine iff_of_false Bool.false_ne_true fun runs => ?_
      have present : Text.split '/' text ≠ [] := by
        simpa [Text.split] using Text.splitChar_ne_nil _ _
      obtain ⟨name, last⟩ : ∃ name, (Text.split '/' text).getLast? = some name :=
        ⟨_, List.getLast?_eq_some_getLast present⟩
      have named : directoryNames.contains name = false := by
        simpa [directoryNames] using runs.named name last
      rw [last, Option.getD_some, runs.proper, named, decide_eq_false runs.short.not_gt] at refused
      cases refused
  next allowed =>
      simp only [Bool.or_eq_true, not_or, decide_eq_true_eq, Nat.not_lt,
        Bool.not_eq_true] at allowed
      obtain ⟨⟨short, proper⟩, named⟩ := allowed
      constructor
      · intro runs
        refine ⟨short, proper, ?_, ?_⟩
        · intro name last
          rw [last] at named
          simpa [directoryNames] using named
        · split at runs
          next place walked =>
              obtain ⟨content, there⟩ := FileTree.isExecutable_iff.mp runs
              exact ⟨place, content, walked, there⟩
          next => cases runs
      · intro runs
        obtain ⟨place, content, walked, there⟩ := runs.file
        rw [walked]
        exact FileTree.isExecutable_iff.mpr ⟨content, there⟩

theorem lists_split (list : String) : Lists list (Text.split ':' list) := by
  refine ⟨?_, ?_, by simpa [Text.split] using Text.splitChar_ne_nil _ _⟩
  · have texts : (Text.split ':' list).map String.toList = list.toList.splitOn ':' := by
      simp [Text.split, Text.splitChar_eq_splitOn, Function.comp_def]
    rw [texts, List.intercalate_splitOn]
  · intro dir member
    obtain ⟨piece, listed, rfl⟩ := List.mem_map.mp member
    simpa using Text.not_mem_of_mem_splitChar listed

theorem Lists.split_eq {list : String} {dirs : List String} (lists : Lists list dirs) :
    Text.split ':' list = dirs := by
  rw [Text.split, Text.splitChar_eq_splitOn, lists.joined,
    List.splitOn_intercalate _ _ (by simpa using lists.present), List.map_map]
  · simp [Function.comp_def]
  · simpa using lists.whole

theorem isAvailable_iff {w : Workspace ε} {program : String} :
    isAvailable w.files w.directory w.environment program = true ↔ w.HasProgram program := by
  have searched : (isAvailable w.files w.directory w.environment program = true) ↔
      if '/' ∈ program.toList then w.CanRun program
      else ∃ dir ∈ listedDirectories w.environment, w.CanRun (pathIn dir program) := by
    unfold isAvailable
    split <;> simp [isRunnable_iff]
  rw [searched]
  constructor
  · intro found
    split at found
    next slash => exact .path slash found
    next plain =>
        obtain ⟨dir, member, runs⟩ := found
        unfold listedDirectories at member
        split at member
        next unset =>
            refine .standard plain (fun entry listed same => ?_) member runs
            exact List.find?_eq_none.mp unset entry listed (beq_iff_eq.mpr same)
        next name list set =>
            split at member
            next => cases member
            next filled =>
                obtain rfl : name = "PATH" := by simpa [searchVariable] using List.find?_some set
                exact .listed plain set (by simpa using filled) (lists_split list) member runs
  · rintro (⟨slash, runs⟩ | ⟨plain, set, filled, lists, member, runs⟩ |
      ⟨plain, unset, member, runs⟩)
    · rwa [if_pos slash]
    · rw [if_neg plain, listedDirectories, searchVariable, set]
      refine ⟨_, ?_, runs⟩
      dsimp only
      rw [if_neg (by simpa using filled), lists.split_eq]
      exact member
    · have none : w.environment.find? (fun entry => entry.1 == "PATH") = none := by
        simpa using unset
      rw [if_neg plain, listedDirectories, searchVariable, none]
      exact ⟨_, member, runs⟩

/-! ## Usable videos -/

inductive Node.IsNonEmpty : Node → Prop where
  | directory : IsNonEmpty .directory
  | file {content : ByteArray} {executable : Bool} (filled : content.size ≠ 0) :
      IsNonEmpty (.file content executable)

def Workspace.HasContent (w : Workspace ε) (path : Path) : Prop :=
  path.holdsNull = false ∧ ∃ place node, w.files.locate w.directory path = .ok place ∧
    w.files.node? place = some node ∧ node.IsNonEmpty

theorem Act.on_sizeOf {w : Workspace ε} {path : Path} {place : Place} {node : Node}
    (proper : path.holdsNull = false) (found : w.files.locate w.directory path = .ok place)
    (there : w.files.node? place = some node) :
    ∃ size, (Act.sizeOf path).on w = (.ok size, w) ∧ (size ≠ 0 ↔ node.IsNonEmpty) := by
  rw [Act.sizeOf, Act.on_onFiles, proper, if_neg Bool.false_ne_true, found]
  simp only [Except.ok_bind, there]
  cases node with
  | directory => exact ⟨4096, rfl, iff_of_true (by decide) .directory⟩
  | file content executable =>
      refine ⟨content.size, rfl, .file, fun shown => ?_⟩
      cases shown with
      | file filled => exact filled

namespace RenderOutcome

theorem on_isUsable (path : Path) (w : Workspace ε) :
    ∃ outcome, (isUsable path).on w = (outcome, w) ∧ (outcome = .ok true ↔ w.HasContent path) ∧
      ∀ fault, outcome = .error fault → fault = .file .nameTooLong path.text := by
  rw [isUsable, Act.on_bind, Act.on_exists?, Act.on_nodeAt?]
  cases null : path.holdsNull with
  | true => exact ⟨.ok false, rfl, by simp [Workspace.HasContent, null], nofun⟩
  | false =>
      cases found : w.files.locate w.directory path with
      | error cause =>
          cases cause
          case nameTooLong =>
            exact ⟨.error _, rfl, by simp [Workspace.HasContent, found], by simp [eq_comm]⟩
          all_goals exact ⟨.ok false, rfl, by simp [Workspace.HasContent, found], nofun⟩
      | ok place =>
          cases there : w.files.node? place with
          | none =>
              refine ⟨.ok false, ?_, by simp [Workspace.HasContent, found, there], nofun⟩
              simp only [Bool.false_eq_true, if_false, there]
              rfl
          | some node =>
              obtain ⟨size, sized, filled⟩ := Act.on_sizeOf null found there
              refine ⟨.ok (size != 0), ?_, ?_, nofun⟩
              · simp only [Bool.false_eq_true, if_false, there]
                exact Act.on_bind_ok sized
              · simp [Workspace.HasContent, null, found, there, filled]

end RenderOutcome

/-! ## Processes -/

/-- What a status says of the ending of a process, and of the video that it was to leave. -/
inductive RenderStatus.Tells (w : Workspace ε) (output : Path) : RenderStatus → Ending → Prop where
  | spawnError (cause : FileCause) : Tells w output .spawnError (.notStarted cause)
  | timeout : Tells w output .timeout .expired
  | exitError {code : Int} (failed : code ≠ 0) : Tells w output .exitError (.exited code)
  | emptyOutput (useless : ¬ w.HasContent output) : Tells w output .emptyOutput (.exited 0)
  | ok (usable : w.HasContent output) : Tells w output .ok (.exited 0)

theorem RenderStatus.Tells.eq_ok_iff {w : Workspace ε} {output : Path} {status : RenderStatus}
    {ending : Ending} (tells : status.Tells w output ending) :
    status = .ok ↔ ending = .exited 0 ∧ w.HasContent output := by
  cases tells with
  | spawnError cause => simp
  | timeout => simp
  | exitError failed => simp [failed]
  | emptyOutput useless => simp [useless]
  | ok usable => simp [usable]

namespace RenderOutcome

variable {w v : Workspace ε} {output : Path}

theorem word_injective : Function.Injective RenderStatus.word := by
  intro status other
  cases status <;> cases other <;> decide

theorem isOk_iff {told : RenderOutcome} {status : RenderStatus}
    (word : told.status = status.word) : told.isOk = true ↔ status = .ok := by
  rw [isOk, beq_iff_eq, word, word_injective.eq_iff]

theorem on_ofFinished (command : String) (output : Path) (deadline : Float) (finished : Finished)
    (w : Workspace ε) :
    (∃ told status, (ofFinished command output deadline finished).on w = (.ok told, w) ∧
      told.status = RenderStatus.word status ∧ status.Tells w output finished.ending) ∨
    (ofFinished command output deadline finished).on w =
      (.error (.file .nameTooLong output.text), w) ∧ ¬ w.HasContent output := by
  unfold ofFinished
  cases ended : finished.ending with
  | notStarted cause => exact .inl ⟨_, .spawnError, rfl, rfl, .spawnError cause⟩
  | expired => exact .inl ⟨_, .timeout, rfl, rfl, .timeout⟩
  | exited code =>
      by_cases failed : code = 0
      · subst failed
        obtain ⟨outcome, looked, usable, long⟩ := on_isUsable output w
        rcases outcome with fault | found
        · refine .inr ⟨?_, fun shown => nomatch usable.mpr shown⟩
          rw [← long fault rfl]
          exact Act.on_bind_error looked
        · cases found with
          | true => exact .inl ⟨_, .ok, Act.on_bind_ok looked, rfl, .ok (usable.mp rfl)⟩
          | false =>
              have useless : ¬ w.HasContent output := fun shown => nomatch usable.mpr shown
              exact .inl ⟨_, .emptyOutput, Act.on_bind_ok looked, rfl, .emptyOutput useless⟩
      · dsimp only
        rw [if_pos (bne_iff_ne.mpr failed)]
        exact .inl ⟨_, .exitError, rfl, rfl, .exitError failed⟩

variable {launcher : Launcher ε} {line : List String} {deadline : Value} {limit : Float}
  {finished : Finished} {told : RenderOutcome}

theorem on_ofCommandGiven_of_finished (output : Path) (limited : seconds deadline = .ok limit)
    (launched : (launcher line limit).on w = (.ok finished, v)) :
    (∃ told status, (ofCommandGiven launcher line output deadline).on w = (.ok told, v) ∧
      told.status = RenderStatus.word status ∧ status.Tells v output finished.ending) ∨
    (ofCommandGiven launcher line output deadline).on w =
      (.error (.file .nameTooLong output.text), v) ∧ ¬ v.HasContent output := by
  rw [ofCommandGiven, limited]
  dsimp only
  rw [ofCommand, Act.on_bind_ok launched]
  exact on_ofFinished _ output limit finished v

theorem on_ofCommand_eq_ok (ran : (ofCommand launcher line output limit).on w = (.ok told, v)) :
    ∃ finished status, (launcher line limit).on w = (.ok finished, v) ∧
      told.status = RenderStatus.word status ∧ status.Tells v output finished.ending := by
  obtain ⟨finished, left, launched, judged⟩ := Act.on_bind_eq_ok.mp ran
  rcases on_ofFinished (line.head?.getD "") output limit finished left with
    ⟨told', status, same, word, tells⟩ | ⟨failed, -⟩
  · rw [same] at judged
    cases judged
    exact ⟨finished, status, launched, word, tells⟩
  · rw [failed] at judged
    cases judged

theorem on_ofCommandGiven_eq_ok
    (ran : (ofCommandGiven launcher line output deadline).on w = (.ok told, v)) :
    ∃ limit finished status, (launcher line limit).on w = (.ok finished, v) ∧
      told.status = RenderStatus.word status ∧ status.Tells v output finished.ending ∧
      (status = .spawnError ∨ seconds deadline = .ok limit) := by
  rw [ofCommandGiven] at ran
  split at ran
  next limit limited =>
      obtain ⟨finished, status, launched, word, tells⟩ := on_ofCommand_eq_ok ran
      exact ⟨limit, finished, status, launched, word, tells, .inr limited⟩
  next fault _ =>
      -- A deadline that cannot be reckoned with stays unnoticed only if no process was started.
      obtain ⟨told', left, given, judged⟩ := Act.on_bind_eq_ok.mp ran
      rw [Act.on_ite] at judged
      split at judged
      next => cases judged
      next unstarted =>
          cases judged
          obtain ⟨finished, status, launched, word, tells⟩ := on_ofCommand_eq_ok given
          have spawnError : told.status = RenderStatus.spawnError.word := by
            simpa [hasStarted] using unstarted
          rw [word] at spawnError
          exact ⟨_, finished, status, launched, word, tells, .inl (word_injective spawnError)⟩

end RenderOutcome

/-! ## Rendering -/

namespace CommandRenderer

def runCommand (launcher : Launcher ε) (command : RenderCommand) (request : RenderRequest)
    (properties : Path) : Act ε RenderOutcome := do
  let line ← Act.of (command.line request.composition.id request.output properties)
  RenderOutcome.ofCommandGiven launcher line request.output request.deadline

end CommandRenderer

/-- What a process leaves of a file of its parent: the file, perhaps with other content, or nothing.
With the file may go directories that lead to it. -/
structure Workspace.Spares (w v : Workspace ε) (path : Path) : Prop where
  directory : v.directory = w.directory
  remains : (∃ content, v.HasFile path content) ∨
    ∃ place, w.files.locate w.directory path = .ok place ∧ v.files.node? place = none ∧
      v.files.unlink v.directory path = .error .notFound

namespace CommandRenderer

/-- A rendering until its process has ended: the directories can be made, and the properties can be
written to a file that was not there before. -/
structure Rendering (launcher : Launcher ε) (command : RenderCommand) (directory : Path)
    (request : RenderRequest) (w : Workspace ε) where
  /-- With the directory of the video. -/
  housed : Workspace ε
  properties : Path
  /-- With the file of properties. -/
  prepared : Workspace ε
  outcome : Except Fault RenderOutcome
  /-- As the process leaves it. -/
  left : Workspace ε
  houses : (Act.makeDirectories request.output.parent).on w = (.ok (), housed)
  writes : (writeProperties command.bakesFrames directory request).on housed =
    (.ok properties, prepared)
  fresh : ∀ place, prepared.files.locate prepared.directory properties = .ok place →
    w.files.node? place = none
  runs : (runCommand launcher command request properties).on prepared = (outcome, left)
  spares : prepared.Spares left properties

variable {launcher : Launcher ε} {command : RenderCommand} {directory : Path}
  {request : RenderRequest} {w w' : Workspace ε}

/-! ### The file of properties -/

theorem on_newName_eq_ok {start ending name : String}
    (named : (Act.newName start ending).on w = (.ok name, w')) :
    w' = { w with identifiers := w.identifiers + 1 } := by
  obtain ⟨now, v, looked, named⟩ := Act.on_bind_eq_ok.mp named
  cases looked
  obtain ⟨millisecond, v, reckoned, named⟩ := Act.on_bind_eq_ok.mp named
  rw [Act.on_ofArithmetic] at reckoned
  obtain ⟨-, rfl⟩ := Prod.mk.inj reckoned
  exact (congrArg Prod.snd named).symm

theorem on_writeProperties_eq_ok {bakesFrames : Bool} {properties : Path}
    (written : (writeProperties bakesFrames directory request).on w = (.ok properties, w')) :
    properties.holdsNull = false ∧ w'.directory = w.directory ∧
      (∃ name, properties = directory.join (Path.ofText name)) ∧
      ∃ tree place content executable, w.files.GrowsTo tree ∧
        tree.locate w.directory properties = .ok place ∧ tree.node? place ≠ some .directory ∧
        w'.files = tree.put place (.file content executable) := by
  obtain ⟨_, v, made, housed⟩ := Act.on_bind_eq_ok.mp written
  obtain ⟨tree, rfl, grows⟩ := Act.on_makeDirectories_grows made
  obtain ⟨name, v, chosen, named⟩ := Act.on_bind_eq_ok.mp housed
  obtain rfl := on_newName_eq_ok chosen
  obtain ⟨entries, v, rendered, encoded⟩ := Act.on_bind_eq_ok.mp named
  obtain ⟨_, v', shown, checked⟩ := Act.on_bind_eq_ok.mp encoded
  rw [Act.on_ofArithmetic] at rendered shown
  obtain ⟨-, rfl⟩ := Prod.mk.inj rendered
  obtain ⟨-, rfl⟩ := Prod.mk.inj shown
  obtain ⟨_, v, put, returned⟩ := Act.on_bind_eq_ok.mp checked
  cases returned
  obtain ⟨proper, files, stored, rfl⟩ := Act.on_writeText_eq_ok put
  obtain ⟨place, executable, found, solid, rfl⟩ := FileTree.write_eq_ok stored
  exact ⟨proper, rfl, ⟨name, rfl⟩, tree, place, _, executable, grows, found, solid, rfl⟩

/-! ### Removing the file -/

namespace Rendering

/-- What is left of a rendering: the file of properties is gone from its place, everywhere else is
what the process has left, and a place that it has not touched has a file if and only if it had the
same one before. -/
structure CleansUp (run : Rendering launcher command directory request w) (w' : Workspace ε)
    (place : Place) : Prop where
  inside : ∃ name, run.properties = directory.join (Path.ofText name)
  located : run.prepared.files.locate run.prepared.directory run.properties = .ok place
  written : ∃ content executable,
    run.prepared.files.node? place = some (.file content executable)
  gone : w'.files.node? place = none
  others : ∀ other ≠ place, w'.files.node? other = run.left.files.node? other
  untouched : ∀ other, other = place ∨
      run.left.files.node? other = run.prepared.files.node? other →
    ∀ content executable, w'.files.node? other = some (.file content executable) ↔
      w.files.node? other = some (.file content executable)

/-- What a rendering has done before its process starts: it has made directories, and one file at a
place of its own. -/
theorem exists_place (run : Rendering launcher command directory request w) :
    run.properties.holdsNull = false ∧
      (∃ name, run.properties = directory.join (Path.ofText name)) ∧
      ∃ place, run.prepared.files.locate run.prepared.directory run.properties = .ok place ∧
        place ≠ [] ∧ (∃ content executable,
          run.prepared.files.node? place = some (.file content executable)) ∧
        ∀ other ≠ place, run.prepared.files.node? other = w.files.node? other ∨
          w.files.node? other = none ∧ run.prepared.files.node? other = some .directory := by
  obtain ⟨housed, made, grows⟩ := Act.on_makeDirectories_grows run.houses
  obtain ⟨proper, same, inside, tree, place, content, executable, grows', found, solid, put⟩ :=
    on_writeProperties_eq_ok run.writes
  rw [made] at same grows'
  have present : place ≠ [] := by
    rintro rfl
    exact solid rfl
  refine ⟨proper, inside, place, ?_, present, ⟨content, executable, ?_⟩, fun other different => ?_⟩
  · rw [made] at found
    rw [put, same]
    exact FileTree.locate_put solid found
  · rw [put, FileTree.node?_put_self present]
  · rw [put, FileTree.node?_put_of_ne different]
    exact grows.trans grows' other

theorem exists_on_removeIfThere (run : Rendering launcher command directory request w) :
    ∃ w' place, (Act.removeIfThere run.properties).on run.left = (.ok (), w') ∧
      run.CleansUp w' place := by
  obtain ⟨proper, inside, place, located, present, written, grown⟩ := run.exists_place
  obtain ⟨w', removed, gone, others⟩ : ∃ w',
      (Act.removeIfThere run.properties).on run.left = (.ok (), w') ∧
        w'.files.node? place = none ∧
        ∀ other ≠ place, w'.files.node? other = run.left.files.node? other := by
    -- Whether the file is still there or not, its path can lead to no other place than before.
    rcases run.spares.remains with ⟨content, there⟩ | ⟨place', located', gone, nothing⟩
    · obtain ⟨place', located', removed⟩ := Act.on_removeIfThere_of_hasFile there
      rw [run.spares.directory] at located'
      obtain rfl := FileTree.locate_unique located located'
      exact ⟨_, removed, FileTree.node?_remove_self present,
        fun other different => FileTree.node?_remove_of_ne different⟩
    · obtain rfl := FileTree.locate_unique located located'
      exact ⟨_, Act.on_removeIfThere_of_nothing proper nothing, gone, fun _ _ => rfl⟩
  refine ⟨w', place, removed, inside, located, written, gone, others, ?_⟩
  intro other kept content executable
  by_cases here : other = place
  · subst here
    rw [gone, run.fresh other located]
  · rw [others other here, kept.resolve_left here]
    rcases grown other here with same | ⟨nothing, made⟩
    · rw [same]
    · rw [nothing, made]
      simp

end Rendering

/-! ### Answers -/

def answer (request : RenderRequest) (outcome : Except Fault RenderOutcome) : Except Fault Path := do
  let told ← outcome
  if told.isOk then .ok request.output else .error (.render told)

variable {program : String}

theorem on_isInstalled (program : String) (w : Workspace ε) :
    (isInstalled program).on w =
      (.ok (isAvailable w.files w.directory w.environment program), w) := rfl

theorem on_render_of_missing (named : command.program = .ok program)
    (missing : ¬ w.HasProgram program) :
    (render launcher command directory request).on w = (.error (.launcherMissing program), w) := by
  rw [← isAvailable_iff, Bool.not_eq_true] at missing
  rw [render, named, Act.on_bind_ok (Act.on_of _ w), Act.on_bind_ok (on_isInstalled program w),
    missing]
  rfl

theorem exists_on_render (named : command.program = .ok program)
    (installed : w.HasProgram program)
    (run : Rendering launcher command directory request w) :
    ∃ w' place, (render launcher command directory request).on w =
      (answer request run.outcome, w') ∧ run.CleansUp w' place := by
  obtain ⟨w', place, removed, cleans⟩ := run.exists_on_removeIfThere
  refine ⟨w', place, ?_, cleans⟩
  have attempted : (Act.attempt (runCommand launcher command request run.properties)).on
      run.prepared = (.ok run.outcome, run.left) := by
    rw [Act.on_attempt, run.runs]
  rw [render, named, Act.on_bind_ok (Act.on_of _ w), Act.on_bind_ok (on_isInstalled program w),
    isAvailable_iff.mpr installed, Bool.not_true, if_neg Bool.false_ne_true,
    Act.on_bind_ok run.houses,
    Act.on_bind_ok run.writes]
  refine (Act.on_bind_ok attempted).trans ?_
  rw [Act.on_bind_ok removed, answer]
  cases run.outcome with
  | error fault => rfl
  | ok told =>
      rw [Act.on_bind_ok (Act.on_of _ w'), Act.on_ite, Except.ok_bind]
      split <;> rfl

/-- The process of a rendering has been given a time, and a status tells how it has ended. -/
def Rendering.Ends (run : Rendering launcher command directory request w) (limit : Float)
    (status : RenderStatus) : Prop :=
  ∃ line finished,
    command.line request.composition.id request.output run.properties = .ok line ∧
    (launcher line limit).on run.prepared = (.ok finished, run.left) ∧
    status.Tells run.left request.output finished.ending

/-- The process has been started, it has ended within the deadline and without an error, and it has
left a video. -/
def Rendering.Succeeds (run : Rendering launcher command directory request w) : Prop :=
  ∃ line limit finished,
    command.line request.composition.id request.output run.properties = .ok line ∧
    RenderOutcome.seconds request.deadline = .ok limit ∧
    (launcher line limit).on run.prepared = (.ok finished, run.left) ∧
    finished.ending = .exited 0 ∧ run.left.HasContent request.output

namespace Rendering

variable (run : Rendering launcher command directory request w) {told : RenderOutcome}
include run

theorem ends_of_outcome (outcome : run.outcome = .ok told) :
    ∃ limit status, told.status = RenderStatus.word status ∧ run.Ends limit status ∧
      (status = .spawnError ∨ RenderOutcome.seconds request.deadline = .ok limit) := by
  have ran := run.runs
  rw [outcome] at ran
  obtain ⟨line, v, made, ran⟩ := Act.on_bind_eq_ok.mp ran
  rw [Act.on_of] at made
  obtain ⟨lined, rfl⟩ := Prod.mk.inj made
  obtain ⟨limit, finished, status, launched, word, tells, limited⟩ :=
    RenderOutcome.on_ofCommandGiven_eq_ok ran
  exact ⟨limit, status, word, ⟨line, finished, lined, launched, tells⟩, limited⟩

theorem outcome_of_finished {line : List String} {limit : Float} {finished : Finished}
    {left : Workspace ε}
    (lined : command.line request.composition.id request.output run.properties = .ok line)
    (limited : RenderOutcome.seconds request.deadline = .ok limit)
    (launched : (launcher line limit).on run.prepared = (.ok finished, left)) :
    left = run.left ∧
      ((∃ told status, run.outcome = .ok told ∧ told.status = RenderStatus.word status ∧
        status.Tells run.left request.output finished.ending) ∨
      run.outcome = .error (.file .nameTooLong request.output.text) ∧
        ¬ run.left.HasContent request.output) := by
  have ran := run.runs
  rw [runCommand, lined, Act.on_bind_ok (Act.on_of _ _)] at ran
  rcases RenderOutcome.on_ofCommandGiven_of_finished request.output limited launched with
    ⟨told, status, same, word, tells⟩ | ⟨same, useless⟩
  all_goals
    rw [same] at ran
    obtain ⟨outcome, rfl⟩ := Prod.mk.inj ran
  · exact ⟨rfl, .inl ⟨told, status, outcome.symm, word, tells⟩⟩
  · exact ⟨rfl, .inr ⟨outcome.symm, useless⟩⟩

theorem succeeds_iff : run.Succeeds ↔ ∃ told, run.outcome = .ok told ∧ told.isOk = true := by
  constructor
  · rintro ⟨line, limit, finished, lined, limited, launched, ended, usable⟩
    rcases run.outcome_of_finished lined limited launched with
      ⟨-, ⟨told, status, outcome, word, tells⟩ | ⟨-, useless⟩⟩
    · have ok := tells.eq_ok_iff.mpr ⟨ended, usable⟩
      exact ⟨told, outcome, (RenderOutcome.isOk_iff word).mpr ok⟩
    · exact absurd usable useless
  · rintro ⟨told, outcome, ok⟩
    obtain ⟨limit, status, word, ⟨line, finished, lined, launched, tells⟩, limited⟩ :=
      run.ends_of_outcome outcome
    have done := (RenderOutcome.isOk_iff word).mp ok
    obtain ⟨ended, usable⟩ := tells.eq_ok_iff.mp done
    have inTime := limited.resolve_left fun unstarted => by
      rw [done] at unstarted
      cases unstarted
    exact ⟨line, limit, finished, lined, inTime, launched, ended, usable⟩

end Rendering

theorem answer_eq_ok_iff {outcome : Except Fault RenderOutcome} :
    answer request outcome = .ok request.output ↔
      ∃ told, outcome = .ok told ∧ told.isOk = true := by
  rw [answer, Except.bind_eq_ok]
  refine exists_congr fun told => and_congr_right fun _ => ?_
  split <;> simp_all

/-- Rendering cleans up and tells what has become of it.  A program that is not installed is missed
before anything is made.  Otherwise the file of properties is gone in the end, whatever the process
and its run come to, and nothing else is touched.  There is a video if and only if the process has
been started, has ended in time and without an error, and has left one; any other outcome is told by
the failure, and the fault of a run that itself fails is passed on. -/
theorem render_cleansUp (named : command.program = .ok program) :
    (¬ w.HasProgram program →
      (render launcher command directory request).on w = (.error (.launcherMissing program), w)) ∧
    (w.HasProgram program →
      ∀ run : Rendering launcher command directory request w, ∃ answered w' place,
        (render launcher command directory request).on w = (answered, w') ∧
        run.CleansUp w' place ∧
        (answered = .ok request.output ↔ run.Succeeds) ∧
        (∀ told, run.outcome = .ok told →
          (told.isOk = true ↔ run.Succeeds) ∧
          (told.isOk = false → answered = .error (.render told)) ∧
          ∃ limit status, told.status = RenderStatus.word status ∧ run.Ends limit status ∧
            (status = .spawnError ∨ RenderOutcome.seconds request.deadline = .ok limit)) ∧
        (∀ fault, run.outcome = .error fault → answered = .error fault) ∧
        ∀ limit status, RenderOutcome.seconds request.deadline = .ok limit →
          run.Ends limit status → (∃ told, run.outcome = .ok told) ∨
            run.outcome = .error (.file .nameTooLong request.output.text)) := by
  refine ⟨on_render_of_missing named, fun installed run => ?_⟩
  obtain ⟨w', place, answered, cleans⟩ := exists_on_render named installed run
  refine ⟨_, w', place, answered, cleans, answer_eq_ok_iff.trans run.succeeds_iff.symm,
    fun told outcome => ⟨?_, fun failed => ?_, run.ends_of_outcome outcome⟩, fun fault outcome => ?_,
    fun limit status limited ends => ?_⟩
  · rw [run.succeeds_iff, outcome]
    simp
  · rw [answer, outcome, Except.ok_bind, failed]
    rfl
  · rw [outcome]
    rfl
  · obtain ⟨line, finished, lined, launched, -⟩ := ends
    exact (run.outcome_of_finished lined limited launched).2.imp
      (fun ⟨told, _, outcome, _⟩ => ⟨told, outcome⟩) And.left

/-! ### A program that leaves a video -/

def blankComposition : Composition Float where
  id := "motion-000000000000"
  metadata := ⟨640, 360, 30, 1.0, 30, black⟩
  tracks := []
  camera := ⟨.flat, ⟨0.0, 0.0, 0.0⟩, ⟨0.0, 0.0, 0.0⟩, none, []⟩
  globalEffects := []

def clipRequest : RenderRequest := ⟨blankComposition, Path.ofText "out/clip.mp4", none, .null⟩

def shellCommand : RenderCommand :=
  { RenderSettings.standard with command := ["sh"] }.toCommand

def painter : Launcher Unit := fun _ _ => do
  Act.writeText clipRequest.output "frames"
  return ⟨ByteArray.empty, .exited 0⟩

def temporary : Path := Path.ofText "temp"

def clipProperties : Path := Path.ofText "temp/props-0-00000001.json"

def equipped : Workspace Unit := { Workspace.blank with
  files := FileTree.empty.plant ["opt", "bin", "sh"] (.file "#!".toUTF8 true)
  environment := [("PATH", "/usr/bin:/opt/bin")] }

def housedClip : Workspace Unit := ((Act.makeDirectories clipRequest.output.parent).on equipped).2

def preparedClip : Workspace Unit :=
  ((writeProperties shellCommand.bakesFrames temporary clipRequest).on housedClip).2

def paint : Act Unit RenderOutcome := runCommand painter shellCommand clipRequest clipProperties

theorem paint_computed :
    ((Act.makeDirectories clipRequest.output.parent).on equipped).1.toOption = some () ∧
    ((writeProperties shellCommand.bakesFrames temporary clipRequest).on housedClip).1.toOption =
      some clipProperties ∧
    (preparedClip.files.locate preparedClip.directory clipProperties).toOption =
      some ["temp", "props-0-00000001.json"] ∧
    (paint.on preparedClip).2.directory = preparedClip.directory ∧
    ((Act.readBytes clipProperties).on (paint.on preparedClip).2).1.toOption.isSome = true ∧
    (paint.on preparedClip).1.toOption.map RenderOutcome.isOk = some true := by
  decide +kernel

def painting : Rendering painter shellCommand temporary clipRequest equipped where
  housed := housedClip
  properties := clipProperties
  prepared := preparedClip
  outcome := (paint.on preparedClip).1
  left := (paint.on preparedClip).2
  houses := Act.on_eq_of_toOption paint_computed.1
  writes := Act.on_eq_of_toOption paint_computed.2.1
  fresh place located := by
    have known := Except.toOption_eq_some.mp paint_computed.2.2.1
    rw [known, Except.ok.injEq] at located
    subst located
    rfl
  runs := (Prod.eta (paint.on preparedClip)).symm
  spares := by
    obtain ⟨-, -, -, directory, there, -⟩ := paint_computed
    obtain ⟨content, read⟩ := Option.isSome_iff_exists.mp there
    exact ⟨directory, .inl ⟨content, .of_on_readBytes (Except.toOption_eq_some.mp read)⟩⟩

theorem painting_succeeds : painting.Succeeds := by
  obtain ⟨told, outcome, ok⟩ := Option.map_eq_some_iff.mp paint_computed.2.2.2.2.2
  refine painting.succeeds_iff.mpr ⟨told, ?_, ok⟩
  dsimp only [painting]
  exact Except.toOption_eq_some.mp outcome

theorem equipped_hasProgram : equipped.HasProgram "sh" := by
  have found : isAvailable equipped.files equipped.directory equipped.environment "sh" = true := by
    decide +kernel
  exact isAvailable_iff.mp found

/-- A video is left and no properties are. -/
theorem painting_cleansUp :
    equipped.HasProgram "sh" ∧ ∃ w' place,
      (render painter shellCommand temporary clipRequest).on equipped =
        (.ok clipRequest.output, w') ∧ painting.CleansUp w' place := by
  have named : shellCommand.program = .ok "sh" := rfl
  obtain ⟨answered, w', place, rendered, cleans, video, -⟩ :=
    (render_cleansUp named).2 equipped_hasProgram painting
  rw [video.mpr painting_succeeds] at rendered
  exact ⟨equipped_hasProgram, w', place, rendered, cleans⟩

end CommandRenderer

end StillMotion
