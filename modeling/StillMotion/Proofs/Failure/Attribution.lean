import StillMotion.Proofs.Pipeline.Production
import StillMotion.Proofs.Text.Search

/-!
# Attribution of failures

A stage that has a category gives it to its failures.  Publishing has none, so the words of the
failure decide, and they can point to a stage that has succeeded long before: the words for a
file that is not there speak of a directory, in which the word for a director occurs.
-/

namespace StillMotion

open StillMotion.Text

variable {ε α : Type}

/-! ## Categories by words -/

namespace ErrorCategory

def isEarly : ErrorCategory → Bool
  | .imageAnalysis | .motionGeneration | .composition => true
  | .rendering | .unknown => false

def earlyWords : List String :=
  (keywords.filter fun row => row.2.isEarly).flatMap (·.1)

/-- A message points to an early stage exactly when it mentions a word for one: their rows are
consulted before all others. -/
theorem isEarly_ofMessage (message : String) :
    (ofMessage message).isEarly = mentions earlyWords (fold message) := by
  have early (folded : List Char) : mentions earlyWords folded =
      (mentions ["mapper", "schema", "image analysis", "analyze"] folded ||
        (mentions ["director", "motion", "timeline"] folded ||
          mentions ["coder", "composition"] folded)) := by
    simp [earlyWords, keywords, isEarly, mentions, Bool.or_assoc]
  unfold ofMessage
  rw [early]
  simp only [keywords, List.find?_cons]
  cases mentions ["mapper", "schema", "image analysis", "analyze"] (fold message) with
  | true => rfl
  | false =>
      cases mentions ["director", "motion", "timeline"] (fold message) with
      | true => rfl
      | false =>
          cases mentions ["coder", "composition"] (fold message) with
          | true => rfl
          | false =>
              cases mentions ["render", "remotion", "ffmpeg", "timeout"] (fold message) <;> rfl

end ErrorCategory

/-! ## Failures of stages -/

namespace Fault

/-- A failure is told under the category of its stage, and that of a stage which has none under
no category of a stage before the rendering. -/
def isHonest : Fault → Bool
  | .pipeline _ category _ (some stage) =>
      match ErrorCategory.ofStage? stage with
      | some own => category == own
      | none => !category.isEarly
  | _ => false

theorem isHonest_wrap (cause : Fault) {stage : Stage} (other : stage ≠ .publish)
    (requestId : String) (attempts : Nat) :
    (cause.wrap stage.word requestId attempts).isHonest = true := by
  cases stage with
  | publish => exact absurd rfl other
  | _ => rfl

theorem isHonest_wrap_publish (cause : Fault) (requestId : String) (attempts : Nat) :
    (cause.wrap Stage.publish.word requestId attempts).isHonest =
      !mentions ErrorCategory.earlyWords (fold cause.telling) := by
  rw [← ErrorCategory.isEarly_ofMessage]
  rfl

end Fault

/-! ## Failures of publishing -/

theorem quoteFor_eq (cs : List Char) : quoteFor cs = '"' ∨ quoteFor cs = apostrophe := by
  unfold quoteFor
  split
  · exact .inl rfl
  · exact .inr rfl

theorem exists_fold_quoted (s : String) :
    ∃ rest, fold (quoted s) = quoteFor s.toList :: rest := by
  have kept : foldChar (quoteFor s.toList) = [quoteFor s.toList] := by
    rcases quoteFor_eq s.toList with double | single
    · rw [double]
      decide
    · rw [single]
      decide
  simp only [fold, quoted, String.toList_ofList, List.flatMap_cons, kept]
  exact ⟨_, rfl⟩

def FileCause.lead (cause : FileCause) : String := s!"[Errno {cause.code}] {cause.words}: "

/-- The causes whose words speak of a directory. -/
def FileCause.namesDirectory : FileCause → Bool
  | .notFound | .notDirectory | .isDirectory => true
  | .permission | .fileExists | .nameTooLong => false

/-- The word for a director occurs in that for a directory; no other cause has a telling word. -/
theorem FileCause.mentions_lead (cause : FileCause) :
    mentions ErrorCategory.earlyWords (fold cause.lead) = cause.namesDirectory := by
  cases cause <;> decide

/-- The failures of publishing that are told under the category of an early stage: the words of
the cause speak of a directory, or the path mentions a word for such a stage. -/
def Fault.isMisleading : Fault → Bool
  | .file cause path =>
      cause.namesDirectory || mentions ErrorCategory.earlyWords (fold (quoted path))
  | _ => false

theorem mentions_file_telling (cause : FileCause) (path : String) :
    mentions ErrorCategory.earlyWords (fold (Fault.file cause path).telling) =
      (Fault.file cause path).isMisleading := by
  have parts : (Fault.file cause path).message = cause.lead ++ quoted path := rfl
  have full : ¬ (cause.lead ++ quoted path).isEmpty = true := by
    intro empty
    have letters := congrArg String.toList (String.isEmpty_iff.mp empty)
    simp [quoted] at letters
  have told : (Fault.file cause path).telling = cause.lead ++ quoted path := by
    rw [Fault.telling, parts, if_neg full]
  obtain ⟨rest, quotes⟩ := exists_fold_quoted path
  rw [told, fold_append, Fault.isMisleading, ← cause.mentions_lead, quotes]
  refine mentions_append_separator ?_ (by decide)
  rcases quoteFor_eq path.toList with double | single
  · rw [double]
    decide
  · rw [single]
    decide

/-- Publishing fails where the size of the video's file is not known. -/
theorem Pipeline.publish_error {pipeline : Pipeline ε} {config : Config}
    (settings : pipeline.settings = .ofConfig config) {composition : Composition Float}
    {video : Path} {w w' : Workspace ε} {fault : Fault}
    (h : (pipeline.publish composition video).on w = (.error fault, w')) :
    fault = .nullInPath ∨ ∃ cause, fault = .file cause video.text := by
  rcases sized : (Act.sizeOf video).on w with ⟨unknown | size, w₁⟩
  · unfold publish VideoMetadata.ofVideo at h
    rw [Act.on_bind_error (Act.on_bind_error sized)] at h
    cases h
    exact Act.on_onFiles_error sized
  · have known : (VideoMetadata.ofVideo composition video).on w = (.ok ⟨_, _, _, _, _⟩, w₁) :=
      Act.on_bind_ok sized
    unfold publish addressOf at h
    rw [Act.on_bind_ok known, settings] at h
    cases h

/-! ## Failures of runs -/

def Fault.IsOfFile (cause : Fault) : Prop := cause = .nullInPath ∨ ∃ why path, cause = .file why path

/-- A fault is that of a stage; in publishing its cause is a file. -/
def Fault.IsOfStage (requestId : String) (fault : Fault) : Prop :=
  ∃ stage cause attempts, fault = wrap cause (Stage.word stage) requestId attempts ∧
    (stage = .publish → cause.IsOfFile)

/-- The clock raises a fault instead of a wait that the configuration asks for. -/
def Timer.Raises (clock : Clock ε) (config : Config) (fault : Fault) : Prop :=
  ∃ attempt w w', (clock.wait (config.wait attempt)).on w = (.error fault, w')

def Fault.IsOfPipeline (fault : Fault) : Prop :=
  ∃ text category requestId stage, fault = .pipeline text category requestId stage

theorem Fault.isHonest_wrap_file (why : FileCause) (path requestId : String) (attempts : Nat) :
    ((file why path).wrap Stage.publish.word requestId attempts).isHonest =
      !(file why path).isMisleading := by
  rw [isHonest_wrap_publish, mentions_file_telling]

theorem Fault.not_isHonest_wrap {cause : Fault} (misleading : cause.isMisleading = true)
    (requestId : String) (attempts : Nat) :
    (cause.wrap Stage.publish.word requestId attempts).isHonest = false := by
  cases cause with
  | file why path => rw [isHonest_wrap_file, misleading, Bool.not_true]
  | _ => cases misleading

theorem Fault.IsOfStage.isOfPipeline {requestId : String} {fault : Fault}
    (h : fault.IsOfStage requestId) : fault.IsOfPipeline := by
  obtain ⟨stage, cause, attempts, rfl, -⟩ := h
  exact ⟨_, _, _, _, rfl⟩

theorem Fault.IsOfStage.isHonest_iff {requestId : String} {fault : Fault}
    (h : fault.IsOfStage requestId) :
    fault.isHonest = true ↔ ¬ ∃ cause requestId attempts,
      fault = wrap cause Stage.publish.word requestId attempts ∧ cause.isMisleading = true := by
  constructor
  · rintro honest ⟨cause, id, attempts, same, misleading⟩
    rw [same, not_isHonest_wrap misleading] at honest
    cases honest
  · intro clear
    obtain ⟨stage, cause, attempts, rfl, ofFile⟩ := h
    by_cases publishing : stage = .publish
    · subst publishing
      rcases ofFile rfl with rfl | ⟨why, path, rfl⟩
      · rw [isHonest_wrap_publish]
        decide
      · rw [isHonest_wrap_file, Bool.not_eq_true', Bool.eq_false_iff]
        exact fun misleading => clear ⟨_, _, _, rfl, misleading⟩
    · exact isHonest_wrap cause publishing requestId attempts

theorem Production.leads_perform_fault (production : Production ε) {config : Config}
    (settings : production.settings = .ofConfig config) (accepted : config.IsAccepted)
    (readable : production.clock.CanBeRead) (requestId : String) {stage : Stage} {work : Act ε α}
    (ofFile : ∀ {cause w₀ w₁}, work.on w₀ = (.error cause, w₁) → stage = .publish →
      cause.IsOfFile) (notes : List StageResult) (w : Workspace ε) :
    (production.perform requestId stage work).Leads notes w (fun _ _ _ => True)
      (fun fault _ _ => production.clock.Raises config fault ∨ fault.IsOfStage requestId) := by
  obtain ⟨final, ending, w₁, tried, settled⟩ :=
    production.exists_on_perform settings accepted readable requestId stage work notes w
  unfold Course.Leads
  cases ending with
  | cut raised =>
      obtain ⟨-, fault, w₀, paused⟩ := tried.exists_on_pause
      rw [StageRun.on_pause (production.waitAfter_stageRun settings requestId stage _ final)]
        at paused
      rw [settled]
      exact .inl ⟨final, _, _, paused⟩
  | came outcome =>
      obtain ⟨duration, performed⟩ := settled
      obtain ⟨w₀, worked⟩ := tried.exists_on
      rw [performed]
      cases outcome with
      | ok a => trivial
      | error cause =>
          rw [StageRun.outcomeOf_error]
          exact .inr ⟨stage, cause, final, rfl, ofFile worked⟩

namespace Pipeline

variable {pipeline : Pipeline ε} {config : Config}

theorem leads_course_fault (accepted : config.IsAccepted)
    (settings : pipeline.settings = .ofConfig config) (readable : pipeline.clock.CanBeRead)
    (image prompt requestId : String) (start : Float) (w : Workspace ε) :
    ((pipeline.production image prompt).course requestId start).Leads [] w (fun _ _ _ => True)
      (fun fault _ _ => pipeline.clock.Raises config fault ∨ fault.IsOfStage requestId) := by
  have early {β : Type} (stage : Stage) (other : stage ≠ .publish) (work : Act ε β)
      (notes : List StageResult) (w : Workspace ε) :=
    (pipeline.production image prompt).leads_perform_fault settings accepted readable requestId
      (fun {_ _ _} (_ : work.on _ = _) publishing => absurd publishing other) notes w
  refine (early .analyze (by decide) _ [] w).bind ?_
  intro schema notes₁ w₁ _
  refine (early .direct (by decide) _ notes₁ w₁).bind ?_
  intro motion notes₂ w₂ _
  refine (early .compose (by decide) _ notes₂ w₂).bind ?_
  intro composition notes₃ w₃ _
  refine (early .render (by decide) _ notes₃ w₃).bind ?_
  intro video notes₄ w₄ _
  have ofFile {cause : Fault} {w₀ w₁ : Workspace ε}
      (failed : (pipeline.publish composition video).on w₀ = (.error cause, w₁)) :
      cause.IsOfFile := (publish_error settings failed).imp id fun ⟨why, same⟩ => ⟨why, _, same⟩
  have publishing := (pipeline.production image prompt).leads_perform_fault settings accepted
    readable requestId (fun failed (_ : Stage.publish = .publish) => ofFile failed) notes₄ w₄
  refine publishing.bind ?_
  rintro ⟨metadata, address⟩ notes₅ w₅ _
  obtain ⟨finish, w', read⟩ := readable w₅
  have clockRead : (Course.lift pipeline.clock.read).on notes₅ w₅ = (.ok finish, notes₅, w') := by
    rw [Course.on_lift, read]
  exact Course.Leads.bind_ok clockRead (Course.Leads.bind_ok (Course.on_get notes₅ w') trivial)

end Pipeline

/-- A run fails with the failure of a stage, or with what its clock raises.  A failure of a stage
is told honestly, unless the video has no file where it should be, or one with a path that
mentions a word for an early stage and that cannot be read. -/
theorem run_isHonest_iff (pipeline : Pipeline ε) (config : Config)
    (accepted : config.IsAccepted) (settings : pipeline.settings = .ofConfig config)
    (sound : pipeline.clock.IsSound) (image prompt : String) (requestId? : Option String)
    {w w' : Workspace ε} {fault : Fault}
    (failed : (pipeline.run image prompt requestId?).on w = (.error fault, w')) :
    (fault.IsOfPipeline ∨ pipeline.clock.Raises config fault) ∧
    (fault.IsOfPipeline →
      (fault.isHonest = true ↔ ¬ ∃ cause requestId attempts,
        fault = Fault.wrap cause Stage.publish.word requestId attempts ∧
          cause.isMisleading = true)) := by
  obtain ⟨requestId, w₁, identified⟩ := Pipeline.exists_on_requestIdOr requestId? w
  obtain ⟨start, w₂, started⟩ := sound.read w₁
  have run := (pipeline.production image prompt).on_run identified started
  rw [← Pipeline.runWithNotes_eq] at run
  have course := Pipeline.leads_course_fault accepted settings sound.read image prompt requestId
    start w₂
  rcases ended : ((pipeline.production image prompt).course requestId start).on [] w₂
    with ⟨outcome, notes, w₃⟩
  rw [ended] at run
  unfold Course.Leads at course
  rw [ended] at course
  have same : (outcome, w₃) = (.error fault, w') := (Pipeline.on_run run).symm.trans failed
  cases same
  rcases course with raises | ofStage
  · refine ⟨.inr raises, ?_⟩
    rintro ⟨text, category, id, stage, rfl⟩
    obtain ⟨attempt, v, v', waited⟩ := raises
    obtain ⟨kind, text, same⟩ := sound.wait waited
    cases same
  · exact ⟨.inl ofStage.isOfPipeline, fun _ => ofStage.isHonest_iff⟩

def Fault.blamesDirecting : Except Fault α → Bool
  | .error (.pipeline _ category _ stage) =>
      category == .motionGeneration && stage == some "publish"
  | _ => false

/-- A video that was never written is missed when it is published, and the failure is told as one
of directing. -/
theorem exists_idle_failure : ∃ message requestId w',
    (Pipeline.idle.run "data:image/png;base64,AAAA" "calm" (some "req-1")).on Workspace.blank =
      (.error (.pipeline message .motionGeneration requestId (some "publish")), w') := by
  have told : Fault.blamesDirecting ((Pipeline.idle.run "data:image/png;base64,AAAA" "calm"
      (some "req-1")).on Workspace.blank).1 = true := by
    decide +kernel
  rcases ended : (Pipeline.idle.run "data:image/png;base64,AAAA" "calm" (some "req-1")).on
    Workspace.blank with ⟨fault | result, w'⟩
  · rw [ended] at told
    cases fault with
    | pipeline message category requestId stage =>
        simp only [Fault.blamesDirecting, Bool.and_eq_true, beq_iff_eq] at told
        obtain ⟨rfl, rfl⟩ := told
        exact ⟨message, requestId, w', rfl⟩
    | _ => cases told
  · rw [ended] at told
    cases told

theorem idle_isHonest_iff : ∃ fault w',
    (Pipeline.idle.run "data:image/png;base64,AAAA" "calm" (some "req-1")).on Workspace.blank =
      (.error fault, w') ∧
    (fault.isHonest = true ↔ ¬ ∃ cause requestId attempts,
      fault = Fault.wrap cause Stage.publish.word requestId attempts ∧
        cause.isMisleading = true) := by
  obtain ⟨message, requestId, w', failed⟩ := exists_idle_failure
  obtain ⟨-, exactly⟩ := run_isHonest_iff .idle .standard Config.standard_isAccepted rfl
    Clock.stopped_isSteady.isSound _ _ _ failed
  exact ⟨_, w', failed, exactly ⟨_, _, _, _, rfl⟩⟩

/-- Not every failed run is told honestly. -/
theorem not_all_runs_isHonest :
    ¬ ∀ (pipeline : Pipeline Unit) (config : Config), config.IsAccepted →
      pipeline.settings = .ofConfig config → pipeline.clock.IsSteady →
      ∀ image prompt requestId? w w' fault,
        (pipeline.run image prompt requestId?).on w = (.error fault, w') →
          fault.isHonest = true := by
  intro honest
  obtain ⟨message, requestId, w', failed⟩ := exists_idle_failure
  cases honest .idle .standard Config.standard_isAccepted rfl Clock.stopped_isSteady _ _ _ _ _ _
    failed

end StillMotion
