import StillMotion.Pipeline.Basic
import StillMotion.Proofs.Config.Accepted
import StillMotion.Proofs.Pipeline.Recording

/-!
# Productions

A production is what a run is made of: a clock, the settings and the work of every stage.  The
run of a pipeline is the course of its production, and so is the run that records its calls; the
two differ in the work of the stages only.
-/

namespace StillMotion

variable {ε α : Type}

structure Production (ε : Type) where
  clock : Clock ε
  settings : RunSettings
  identify : Option String → Act ε String
  analyze : Act ε VisualSchema
  direct : VisualSchema → Act ε (MotionIR Float)
  compose : MotionIR Float → Act ε (Composition Float)
  render : Composition Float → Act ε Path
  publish : Composition Float → Path → Act ε (VideoMetadata × String)

def Config.wait (config : Config) (attempt : Nat) : Numeric :=
  .float (config.pipeline.backoffSeconds * Float.ofNat attempt)

namespace Production

def stageRun (production : Production ε) (requestId : String) (stage : Stage) (limit : Nat) :
    StageRun Float Numeric ε :=
  ⟨production.clock, stage, requestId, limit, production.settings.waitAfter⟩

def perform (production : Production ε) (requestId : String) (stage : Stage) (work : Act ε α) :
    Course Float ε α := do
  let start ← Course.lift production.clock.read
  let limit ← Course.lift (Act.of production.settings.attempts)
  (production.stageRun requestId stage limit).perform start work

def course (production : Production ε) (requestId : String) (start : Float) :
    Course Float ε PipelineResult := do
  let schema ← production.perform requestId .analyze production.analyze
  let motion ← production.perform requestId .direct (production.direct schema)
  let composition ← production.perform requestId .compose (production.compose motion)
  let video ← production.perform requestId .render (production.render composition)
  let (metadata, address) ←
    production.perform requestId .publish (production.publish composition video)
  let finish ← Course.lift production.clock.read
  return ⟨requestId, video, address, metadata, motion, finish - start, ← get⟩

/-- Make a video; the results of the stages are there also when the run fails. -/
def run (production : Production ε) (requestId? : Option String) :
    Act ε (Except Fault PipelineResult × List StageResult) := do
  let requestId ← production.identify requestId?
  let start ← production.clock.read
  ExceptT.lift ((production.course requestId start).run.run [])

theorem on_run (production : Production ε) {requestId? : Option String} {requestId : String}
    {start : Float} {w w₁ w₂ : Workspace ε}
    (identified : (production.identify requestId?).on w = (.ok requestId, w₁))
    (started : production.clock.read.on w₁ = (.ok start, w₂)) :
    (production.run requestId?).on w =
      let (outcome, notes, w') := (production.course requestId start).on [] w₂
      (.ok (outcome, notes), w') := by
  rw [run, Act.on_bind_ok identified, Act.on_bind_ok started, Course.on_noted]

/-! ## Stages by an accepted configuration -/

theorem on_perform {production : Production ε} {config : Config} {start : Float}
    {w w₀ : Workspace ε} (settings : production.settings = .ofConfig config)
    (read : production.clock.read.on w = (.ok start, w₀)) (requestId : String) (stage : Stage)
    (work : Act ε α) (notes : List StageResult) :
    (production.perform requestId stage work).on notes w =
      ((production.stageRun requestId stage config.maxAttempts).perform start work).on
        notes w₀ := by
  have clockRead : (Course.lift production.clock.read).on notes w = (.ok start, notes, w₀) := by
    rw [Course.on_lift, read]
  have limitKnown : (Course.lift (Act.of production.settings.attempts)).on notes w₀ =
      (.ok config.maxAttempts, notes, w₀) := by
    rw [Course.on_lift, Act.on_of, settings]
    rfl
  rw [perform, Course.on_bind_ok clockRead, Course.on_bind_ok limitKnown]

theorem waitAfter_stageRun (production : Production ε) {config : Config}
    (settings : production.settings = .ofConfig config) (requestId : String) (stage : Stage)
    (limit attempt : Nat) :
    (production.stageRun requestId stage limit).waitAfter attempt = .ok (config.wait attempt) := by
  change production.settings.waitAfter attempt = _
  rw [settings]
  rfl

/-- What a stage gives and leaves whose attempts have ended. -/
def Settled (run : StageRun Float Numeric ε) (final : Nat) (notes : List StageResult)
    (w₁ : Workspace ε) :
    StageRun.Ending α → Except Fault α × List StageResult × Workspace ε → Prop
  | .came outcome, ended => ∃ duration, ended = (run.outcomeOf final outcome,
      notes ++ [run.noteOf duration final outcome], (run.clock.read.on w₁).2)
  | .cut raised, ended => ended = (.error raised, notes, w₁)

theorem exists_on_perform (production : Production ε) {config : Config}
    (settings : production.settings = .ofConfig config) (accepted : config.IsAccepted)
    (readable : production.clock.CanBeRead) (requestId : String) (stage : Stage)
    (work : Act ε α) (notes : List StageResult) (w : Workspace ε) :
    ∃ final ending w₁,
      (production.stageRun requestId stage config.maxAttempts).Tried work 1
        (production.clock.read.on w).2 final ending w₁ ∧
      Settled (production.stageRun requestId stage config.maxAttempts) final notes w₁ ending
        ((production.perform requestId stage work).on notes w) := by
  let run := production.stageRun requestId stage config.maxAttempts
  obtain ⟨start, w₀, started⟩ := readable w
  obtain ⟨final, ending, w₁, tried, performed⟩ :=
    run.exists_on_perform accepted.one_le_maxAttempts work start notes w₀
  refine ⟨final, ending, w₁, ?_, ?_⟩
  · rw [started]
    exact tried
  · rw [on_perform settings started, performed]
    cases ending with
    | came outcome =>
        obtain ⟨finish, w', read, settled⟩ :=
          run.exists_on_settle readable start final outcome notes w₁
        refine ⟨finish - start, ?_⟩
        rw [settled, read]
    | cut raised => exact run.on_settle_cut start final raised notes w₁

end Production

namespace Pipeline

variable (pipeline : Pipeline ε) (image prompt : String)

def production : Production ε where
  clock := pipeline.clock
  settings := pipeline.settings
  identify := requestIdOr
  analyze := pipeline.analyze image
  direct schema := pipeline.direct schema prompt image
  compose motion := Act.ofArithmetic motion.timeline.compose
  render composition := pipeline.render composition image
  publish := pipeline.publish

theorem stage_eq (requestId : String) (stage : Stage) (work : Act ε α) :
    pipeline.stage requestId stage work =
      (pipeline.production image prompt).perform requestId stage work := rfl

theorem runWithNotes_eq (requestId? : Option String) :
    pipeline.runWithNotes image prompt requestId? =
      (pipeline.production image prompt).run requestId? := rfl

theorem exists_on_requestIdOr (requestId? : Option String) (w : Workspace ε) :
    ∃ requestId w', (requestIdOr requestId?).on w = (.ok requestId, w') := by
  cases requestId? with
  | none => exact ⟨_, _, rfl⟩
  | some id =>
      rw [requestIdOr, Act.on_ite]
      split
      · exact ⟨_, _, rfl⟩
      · exact ⟨_, _, rfl⟩

theorem on_run {pipeline : Pipeline ε} {image prompt : String} {requestId? : Option String}
    {outcome : Except Fault PipelineResult} {notes : List StageResult} {w w' : Workspace ε}
    (h : (pipeline.runWithNotes image prompt requestId?).on w = (.ok (outcome, notes), w')) :
    (pipeline.run image prompt requestId?).on w = (outcome, w') :=
  (Act.on_bind_ok h).trans (Act.on_of outcome w')

/-! ## Recorded productions -/

def request (composition : Composition Float) : Act ε RenderRequest := do
  let format ← Act.of pipeline.settings.outputFormat
  let place ← Act.of pipeline.settings.outputPlace
  let name ← Act.newName "output" ("." ++ format)
  let output ← Act.of (place (Path.ofText name))
  let deadline ← Act.of pipeline.settings.deadline
  return { composition, output, imageSource := some image, deadline }

def recordedRender (request : RenderRequest) : Act (Recorded ε) Path := do
  let answer ← (Act.attempt (pipeline.renderer.render request)).within
  Act.record (.renderer answer)
  Act.of answer

/-- The production of a run that records when the work of a stage begins and what the renderer
answers. -/
def recordedProduction : Production (Recorded ε) where
  clock := pipeline.clock.within
  settings := pipeline.settings
  identify requestId? := (requestIdOr requestId?).within
  analyze := Act.begin .analyze (pipeline.analyze image).within
  direct schema := Act.begin .direct (pipeline.direct schema prompt image).within
  compose motion := Act.begin .compose (Act.ofArithmetic motion.timeline.compose).within
  render composition := Act.begin .render do
    let request ← (pipeline.request image composition).within
    pipeline.recordedRender request
  publish composition video := Act.begin .publish (pipeline.publish composition video).within

theorem forgets_perform {recorded : Act (Recorded ε) α} {work : Act ε α}
    (h : recorded.Forgets work) (requestId : String) (stage : Stage) :
    ((pipeline.recordedProduction image prompt).perform requestId stage recorded).Forgets
      ((pipeline.production image prompt).perform requestId stage work) := by
  refine (Course.forgets_lift (Act.forgets_within _)).bind fun start => ?_
  refine (Course.forgets_lift (Act.forgets_of _)).bind fun limit => ?_
  exact StageRun.forgets_perform ((pipeline.production image prompt).stageRun requestId stage limit)
    pipeline.clock.forgets_within h start

def idleRenderer : Renderer ε := ⟨pure "idle", pure true, fun request => pure request.output⟩

def idle : Pipeline ε where
  settings := .ofConfig .standard
  analyst := .ofBackend none
  renderer := idleRenderer
  policy := .proper (.ofSettings DirectorSettings.standard)
  clock := .stopped

end Pipeline

theorem Config.standard_isAccepted : Config.standard.IsAccepted := ⟨.mapping [], rfl⟩

def Workspace.blank : Workspace Unit where
  files := .empty
  directory := []
  environment := []
  time := 0.0
  now := ⟨2024, 1, 1, 0, 0, 0, 0⟩
  identifiers := 0
  clock := 0.0
  tick := 0.0
  sleeps := []
  log := []
  outside := ()

end StillMotion
