import Mathlib.Data.List.DropRight
import StillMotion.Proofs.Render.Command

/-!
# The end of a render log

While the output of a renderer is read line by line, what is kept is at any time the end of what a
reader would make of the lines so far: those that are not blank, without the blanks at their ends.
So a blank line drives no other one out, and the lines stay in their order.  Every outcome of a
process that was started carries this end, and a failure is told with the end of it.
-/

namespace StillMotion

open StillMotion.Number StillMotion.Scripting StillMotion.Text

/-! ## The last items of a list -/

section LastItems

variable {α : Type} {count : Nat} {items part : List α}

/-- The last items of a list, in their order: so many of them, or all where there are not so many. -/
structure IsLastOf (count : Nat) (items part : List α) : Prop where
  ends : part <:+ items
  length : part.length = min count items.length

theorem isLastOf_rtake (count : Nat) (items : List α) : IsLastOf count items (items.rtake count) where
  ends := List.drop_suffix _ items
  length := by
    rw [List.rtake, List.length_drop]
    omega

theorem IsLastOf.eq_rtake (last : IsLastOf count items part) : part = items.rtake count := by
  have taken := isLastOf_rtake count items
  have same : part.length = (items.rtake count).length := last.length.trans taken.length.symm
  exact (List.suffix_of_suffix_length_le last.ends taken.ends same.le).eq_of_length same

theorem rtake_rtake (items : List α) (count more : Nat) :
    (items.rtake more).rtake count = items.rtake (min count more) := by
  simp only [List.rtake_eq_reverse_take_reverse, List.reverse_reverse, List.take_take]

theorem rtake_concat_rtake (items : List α) (item : α) (count : Nat) :
    (items.rtake count ++ [item]).rtake count = (items ++ [item]).rtake count := by
  cases count with
  | zero => rw [List.rtake_zero, List.rtake_zero]
  | succ count =>
      rw [List.rtake_concat_succ, List.rtake_concat_succ, rtake_rtake, Nat.min_eq_left (by omega)]

end LastItems

/-! ## Lines of a text -/

namespace Text

variable {c : Char} {cs rest : List Char} {more : List (List Char)}

theorem lines_cons (noFeed : c ≠ '\n') (noReturn : c ≠ '\r') (next : lines rest = cs :: more) :
    lines (c :: rest) = (c :: cs) :: more := by
  simp [lines, noFeed, noReturn, next]

theorem lines_append (noFeed : '\n' ∉ cs) (noReturn : '\r' ∉ cs) (stops : lines rest = [] :: more) :
    lines (cs ++ rest) = cs :: more := by
  induction cs with
  | nil => exact stops
  | cons c cs ih =>
      rw [List.mem_cons, not_or] at noFeed noReturn
      exact lines_cons (Ne.symm noFeed.1) (Ne.symm noReturn.1) (ih noFeed.2 noReturn.2)

theorem lines_eq_singleton (noFeed : '\n' ∉ cs) (noReturn : '\r' ∉ cs) (present : cs ≠ []) :
    lines cs = [cs] := by
  induction cs with
  | nil => exact absurd rfl present
  | cons c cs ih =>
      rw [List.mem_cons, not_or] at noFeed noReturn
      cases cs with
      | nil => simp [lines, Ne.symm noFeed.1, Ne.symm noReturn.1]
      | cons d cs =>
          exact lines_cons (Ne.symm noFeed.1) (Ne.symm noReturn.1)
            (ih noFeed.2 noReturn.2 (List.cons_ne_nil d cs))

end Text

namespace LogTail

/-! ## Taking lines -/

/-- What a reader makes of lines: they end where only blanks follow, and blank ones do not count. -/
def remaining (lines : List (List Char)) : List String :=
  ((lines.map (List.rdropWhile isBlank)).filter (· ≠ [])).map String.ofList

theorem remaining_append (lines more : List (List Char)) :
    remaining (lines ++ more) = remaining lines ++ remaining more := by
  simp only [remaining, List.map_append, List.filter_append]

theorem remaining_cons (line : List Char) (lines : List (List Char)) :
    remaining (line :: lines) = remaining [line] ++ remaining lines :=
  remaining_append [line] lines

theorem remaining_nil_cons (lines : List (List Char)) :
    remaining ([] :: lines) = remaining lines := rfl

/-- The step: with one line more the tail is the end of one line more. -/
theorem take_rtake (lines : List (List Char)) (line : List Char) :
    take ((remaining lines).rtake size) line = (remaining (lines ++ [line])).rtake size := by
  have last : remaining [line] = ([trimRight line].filter (· ≠ [])).map String.ofList := rfl
  rw [remaining_append, last, take]
  by_cases blank : trimRight line = []
  · rw [blank, List.filter_cons_of_neg (by simp), List.filter_nil, List.map_nil, List.append_nil]
    rfl
  · rw [if_neg (by simpa using blank), List.filter_cons_of_pos (by simpa using blank)]
    exact rtake_concat_rtake (remaining lines) (String.ofList (trimRight line)) size

/-- The run: from the end of the lines so far the tail comes to the end of all lines. -/
theorem foldl_take (before lines : List (List Char)) :
    lines.foldl take ((remaining before).rtake size) = (remaining (before ++ lines)).rtake size := by
  induction lines generalizing before with
  | nil => rw [List.foldl_nil, List.append_nil]
  | cons line lines ih =>
      rw [List.foldl_cons, take_rtake, ih, List.append_assoc, List.singleton_append]

theorem ofLines_eq (lines : List (List Char)) : ofLines lines = (remaining lines).rtake size :=
  foldl_take [] lines

/-! ## Printed lines -/

inductive LineEnd where
  | lineFeed
  | carriageReturn
  | both

def LineEnd.chars : LineEnd → List Char
  | .lineFeed => ['\n']
  | .carriageReturn => ['\r']
  | .both => ['\r', '\n']

structure Line where
  chars : List Char
  noFeed : '\n' ∉ chars
  noReturn : '\r' ∉ chars

namespace Line

def empty : Line := ⟨[], List.not_mem_nil, List.not_mem_nil⟩

def cons (c : Char) (line : Line) (noFeed : c ≠ '\n') (noReturn : c ≠ '\r') : Line where
  chars := c :: line.chars
  noFeed := by simp [noFeed.symm, line.noFeed]
  noReturn := by simp [noReturn.symm, line.noReturn]

end Line

/-- What a process prints: lines, each with its end, and what stands after the last end; where
nothing does, that is a blank line. -/
structure Printout where
  ended : List (Line × LineEnd)
  unended : Line

namespace Printout

def lines (printed : Printout) : List (List Char) :=
  printed.ended.map (·.1.chars) ++ [printed.unended.chars]

def text (printed : Printout) : String :=
  String.ofList (printed.ended.flatMap (fun (line, stop) => line.chars ++ stop.chars) ++
    printed.unended.chars)

def output (printed : Printout) : ByteArray := printed.text.toUTF8

def log (printed : Printout) : List String := remaining printed.lines

/-- Any text can be printed. -/
theorem exists_text (cs : List Char) : ∃ printed : Printout, printed.text.toList = cs := by
  induction cs with
  | nil => exact ⟨⟨[], .empty⟩, rfl⟩
  | cons c cs ih =>
      obtain ⟨⟨ended, unended⟩, rfl⟩ := ih
      by_cases feed : c = '\n'
      · subst feed
        exact ⟨⟨(.empty, .lineFeed) :: ended, unended⟩, by simp [text, Line.empty, LineEnd.chars]⟩
      by_cases back : c = '\r'
      · subst back
        exact ⟨⟨(.empty, .carriageReturn) :: ended, unended⟩,
          by simp [text, Line.empty, LineEnd.chars]⟩
      -- Any other character goes to the front of the first line.
      cases ended with
      | nil => exact ⟨⟨[], unended.cons c feed back⟩, by simp [text, Line.cons]⟩
      | cons first ended =>
          exact ⟨⟨(first.1.cons c feed back, first.2) :: ended, unended⟩, by simp [text, Line.cons]⟩

end Printout

/-- Where a line ends, the next one begins, unless a carriage return is followed by a line feed that
ends a line without characters: the two are then one line end. -/
theorem lines_lineEnd (stop : LineEnd) (rest : List Char) :
    ∃ more, Text.lines (stop.chars ++ rest) = [] :: more ∧
      (Text.lines rest = more ∨ Text.lines rest = [] :: more) := by
  have feed (rest : List Char) : Text.lines ('\n' :: rest) = [] :: Text.lines rest := by
    simp [Text.lines]
  cases stop with
  | lineFeed => exact ⟨_, feed rest, .inl rfl⟩
  | both => exact ⟨_, rfl, .inl rfl⟩
  | carriageReturn =>
      cases rest with
      | nil => exact ⟨[], rfl, .inl rfl⟩
      | cons c rest =>
          by_cases same : c = '\n'
          · subst same
            exact ⟨Text.lines rest, rfl, .inr (feed rest)⟩
          · refine ⟨Text.lines (c :: rest), ?_, .inl rfl⟩
            rw [LineEnd.chars, List.singleton_append, Text.lines]
            · rfl
            · simp [same]

theorem remaining_lines_append (line : Line) (stop : LineEnd) (rest : List Char) :
    remaining (Text.lines (line.chars ++ (stop.chars ++ rest))) =
      remaining (line.chars :: Text.lines rest) := by
  obtain ⟨more, ended, next⟩ := lines_lineEnd stop rest
  rw [Text.lines_append line.noFeed line.noReturn ended]
  rcases next with rfl | empty
  · rfl
  · rw [empty, remaining_cons line.chars more, remaining_cons line.chars ([] :: more),
      remaining_nil_cons]

/-- What is read of a printed text is what was printed. -/
theorem remaining_lines_text (printed : Printout) :
    remaining (Text.lines printed.text.toList) = printed.log := by
  obtain ⟨ended, unended⟩ := printed
  rw [Printout.text, String.toList_ofList, Printout.log, Printout.lines]
  dsimp only
  induction ended with
  | nil =>
      by_cases empty : unended.chars = []
      · rw [empty]
        rfl
      · rw [List.flatMap_nil, List.nil_append,
          Text.lines_eq_singleton unended.noFeed unended.noReturn empty, List.map_nil,
          List.nil_append]
  | cons first ended ih =>
      obtain ⟨line, stop⟩ := first
      rw [List.flatMap_cons, List.append_assoc, List.append_assoc, remaining_lines_append,
        remaining_cons, ih, List.map_cons, List.cons_append, ← remaining_cons]

theorem ofOutput_eq (printed : Printout) : ofOutput printed.output = printed.log.rtake size := by
  rw [ofOutput, Printout.output, Act.decode_toUTF8]
  dsimp only
  rw [ofLines_eq, remaining_lines_text]

end LogTail

/-! ## Outcomes -/

namespace RenderOutcome

open LogTail

variable {ε : Type} {launcher : Launcher ε} {command : List String} {output : Path}
  {deadline : Value} {limit : Float} {finished : Finished} {told : RenderOutcome}
  {w v : Workspace ε}

/-- An outcome carries the end of a log, and the failure in words closes with the end of that. -/
structure TellsLog (told : RenderOutcome) (log : List String) : Prop where
  tail : IsLastOf 20 log told.logTail
  closing : ∃ last, IsLastOf 5 log last ∧
    (Fault.render told).message =
      "render " ++ told.status ++ ": " ++ told.message ++ String.join (last.map ("\n" ++ ·))

theorem join_eq_intercalate {lines : List String} (present : lines ≠ []) :
    String.join (lines.map ("\n" ++ ·)) = "\n" ++ "\n".intercalate lines := by
  induction lines with
  | nil => exact absurd rfl present
  | cons line lines ih =>
      cases lines with
      | nil =>
          rw [List.map_singleton, String.join_cons, String.join_nil, String.append_empty,
            String.intercalate_singleton]
      | cons next lines =>
          rw [List.map_cons, String.join_cons, ih (List.cons_ne_nil next lines),
            String.intercalate_cons_cons]
          simp only [String.append_assoc]

theorem description_eq (told : RenderOutcome) :
    told.description = "render " ++ told.status ++ ": " ++ told.message ++
      String.join ((told.logTail.rtake toldLines).map ("\n" ++ ·)) := by
  rw [description]
  by_cases empty : told.logTail = []
  · rw [empty]
    exact (String.append_empty).symm
  · have some := List.length_pos_iff.mpr empty
    have present : told.logTail.rtake toldLines ≠ [] := by
      rw [← List.length_pos_iff, (isLastOf_rtake toldLines told.logTail).length, toldLines]
      omega
    rw [if_neg (by simpa using empty), join_eq_intercalate present, ← String.append_assoc]
    rfl

theorem tellsLog_of_logTail {log : List String} (kept : told.logTail = log.rtake size) :
    told.TellsLog log where
  tail := by
    rw [kept]
    exact isLastOf_rtake size log
  closing := by
    refine ⟨log.rtake toldLines, isLastOf_rtake toldLines log, ?_⟩
    have both : told.logTail.rtake toldLines = log.rtake toldLines := by
      rw [kept, rtake_rtake]
      rfl
    rw [← both]
    exact description_eq told

/-- Whatever becomes of a process that was started, its outcome carries the end of its log. -/
theorem logTail_of_ofFinished {name : String}
    (started : ∀ cause, finished.ending ≠ .notStarted cause)
    (judged : (ofFinished name output limit finished).on w = (.ok told, v)) :
    told.logTail = ofOutput finished.output := by
  unfold ofFinished at judged
  cases ended : finished.ending with
  | notStarted cause => exact absurd ended (started cause)
  | expired =>
      rw [ended] at judged
      cases judged
      rfl
  | exited code =>
      rw [ended] at judged
      dsimp only at judged
      split at judged
      next =>
          cases judged
          rfl
      next =>
          obtain ⟨usable, left, -, judged⟩ := Act.on_bind_eq_ok.mp judged
          cases usable <;> cases judged <;> rfl

/-- However its lines end and wherever there are blank ones, the tail of what a process has printed
is the end of the lines that remain.  A process that was started, with a deadline that is a number or
without one, has an outcome that carries this tail and that closes with the end of it when it is
told as a failure, unless the name of the video is too long to look for it. -/
theorem on_ofCommandGiven_tellsLog {printed : Printout} {ending : Ending} (output : Path)
    (limited : seconds deadline = .ok limit) (started : ∀ cause, ending ≠ .notStarted cause)
    (launched : (launcher command limit).on w = (.ok ⟨printed.output, ending⟩, v)) :
    IsLastOf 20 printed.log (ofOutput printed.output) ∧
    ((∃ told status, (ofCommandGiven launcher command output deadline).on w = (.ok told, v) ∧
        told.status = RenderStatus.word status ∧ status.Tells v output ending ∧
        told.TellsLog printed.log) ∨
      (ofCommandGiven launcher command output deadline).on w =
        (.error (.file .nameTooLong output.text), v) ∧ ¬ v.HasContent output) := by
  have kept := ofOutput_eq printed
  constructor
  · rw [kept]
    exact isLastOf_rtake size printed.log
  · refine (on_ofCommandGiven_of_finished output limited launched).imp_left ?_
    rintro ⟨told, status, ran, word, tells⟩
    have judged := ran
    rw [ofCommandGiven, limited] at judged
    dsimp only at judged
    rw [ofCommand, Act.on_bind_ok launched] at judged
    have carried : told.logTail = ofOutput printed.output := logTail_of_ofFinished started judged
    exact ⟨told, status, ran, word, tells, tellsLog_of_logTail (carried.trans kept)⟩

/-! ### A program that shows its progress -/

def bar (width : Nat) : Line where
  chars := List.replicate width '#'
  noFeed := fun member => nomatch List.eq_of_mem_replicate member
  noReturn := fun member => nomatch List.eq_of_mem_replicate member

def progress : Printout where
  ended := (List.range 23).flatMap fun n => [(bar (n + 1), .carriageReturn), (.empty, .both)]
  unended := bar 24

def failingPainter : Launcher Unit := fun _ _ => return ⟨progress.output, .exited 3⟩

theorem progress_tellsLog :
    seconds .null = .ok (infinity false) ∧ (∀ cause, Ending.exited 3 ≠ .notStarted cause) ∧
    (failingPainter ["paint"] (infinity false)).on .blank =
      (.ok ⟨progress.output, .exited 3⟩, .blank) ∧
    ∃ told, (ofCommandGiven failingPainter ["paint"] (Path.ofText "clip.mp4") .null).on .blank =
        (.ok told, .blank) ∧ told.status = "exit_error" ∧ told.TellsLog progress.log ∧
      told.logTail = (List.range 20).map fun n => String.ofList (List.replicate (n + 5) '#') := by
  have limited : seconds .null = .ok (infinity false) := rfl
  have started (cause : FileCause) : Ending.exited 3 ≠ .notStarted cause := nofun
  have launched : (failingPainter ["paint"] (infinity false)).on .blank =
      (.ok ⟨progress.output, .exited 3⟩, .blank) := rfl
  have judged : ∃ told, (ofCommandGiven failingPainter ["paint"] (Path.ofText "clip.mp4") .null).on
      .blank = (.ok told, .blank) ∧ told.status = "exit_error" := ⟨_, rfl, rfl⟩
  obtain ⟨told, ran, status⟩ := judged
  refine ⟨limited, started, launched, told, ran, status, ?_⟩
  have outcome := (on_ofCommandGiven_tellsLog (Path.ofText "clip.mp4") limited started launched).2
  rw [ran] at outcome
  obtain ⟨_, _, same, -, -, tells⟩ | ⟨failed, -⟩ := outcome
  · cases same
    exact ⟨tells, tells.tail.eq_rtake.trans (by rfl)⟩
  · cases failed

end RenderOutcome

end StillMotion
