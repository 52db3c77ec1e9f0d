import StillMotion.Analysis.Backend
import StillMotion.Direction.GivenPolicy
import StillMotion.Pipeline.Course
import StillMotion.Pipeline.Settings
import StillMotion.Render.Renderer
import StillMotion.Scene.Identity

/-!
# The pipeline

From an image and a prompt to a published video: the image is analyzed, a timeline is directed,
composed and rendered, and the video gets its address.  A run succeeds in all stages or fails in
the first that does not, and then there is no result.
-/

namespace StillMotion

variable {ε : Type}

structure Pipeline (ε : Type) where
  settings : RunSettings
  analyst : Analyst ε
  renderer : Renderer ε
  policy : AnyPolicy
  clock : Clock ε

structure PipelineResult where
  requestId : String
  output : Path
  address : String
  metadata : VideoMetadata
  motion : MotionIR Float
  seconds : Float
  stages : List StageResult

def PipelineResult.response (result : PipelineResult) (withMotion : Bool) : Entries :=
  [("videoUrl", .str result.address), ("metadata", VideoMetadata.codec.encode result.metadata),
   ("processingTime", .float result.seconds), ("requestId", .str result.requestId)] ++
    if withMotion then [("motionIR", MotionIR.codec.encode result.motion)] else []

/-! ## Images -/

/-- Whether a reference is an address and no local file. -/
def isRemote (reference : String) : Bool :=
  Text.containsText reference "://" || Text.startsWith reference.toList "data:".toList

namespace Pipeline

/-! ## The work of the stages -/

/-- Refuse what does not fit, unless nothing is validated. -/
def gate (pipeline : Pipeline ε) (stage : Stage) (validation : ValidationResult) :
    Act ε Unit := do
  let validates ← Act.of pipeline.settings.validates
  if validates && !validation.isValid then throw (.gate stage.word validation.errors)

def analyze (pipeline : Pipeline ε) (image : String) : Act ε VisualSchema := do
  if !isRemote image then
    if !(← Act.exists? (Path.ofText image)) then
      throw (.gate Stage.analyze.word [s!"image not found: {image}"])
  let schema ← pipeline.analyst.examine image
  pipeline.gate .analyze schema.validate
  return schema

def direct (pipeline : Pipeline ε) (schema : VisualSchema) (prompt image : String) :
    Act ε (MotionIR Float) := do
  let now := (← Act.workspace).now.text
  let motion ← Act.of (pipeline.policy.direct schema prompt (some image) (some now))
  (Director.warnings motion).forM Act.warn
  pipeline.gate .direct motion.validation
  return motion

def render (pipeline : Pipeline ε) (composition : Composition Float) (image : String) :
    Act ε Path := do
  let format ← Act.of pipeline.settings.outputFormat
  let place ← Act.of pipeline.settings.outputPlace
  let name ← Act.newName "output" ("." ++ format)
  let output ← Act.of (place (Path.ofText name))
  let deadline ← Act.of pipeline.settings.deadline
  pipeline.renderer.render { composition, output, imageSource := some image, deadline }

def addressOf (pipeline : Pipeline ε) (video : Path) : Except Fault String := do
  let start ← pipeline.settings.address
  return start ++ "/api/videos/" ++ video.name

def publish (pipeline : Pipeline ε) (composition : Composition Float) (video : Path) :
    Act ε (VideoMetadata × String) := do
  let metadata ← VideoMetadata.ofVideo composition video
  return (metadata, ← Act.of (pipeline.addressOf video))

/-! ## Runs -/

def stage {α : Type} (pipeline : Pipeline ε) (requestId : String) (stage : Stage)
    (work : Act ε α) : Course Float ε α := do
  let start ← Course.lift pipeline.clock.read
  let limit ← Course.lift (Act.of pipeline.settings.attempts)
  StageRun.perform
    ⟨pipeline.clock, stage, requestId, limit, pipeline.settings.waitAfter⟩ start work

/-- The stages of a run that began at `start`. -/
def course (pipeline : Pipeline ε) (image prompt requestId : String) (start : Float) :
    Course Float ε PipelineResult := do
  let perform {α : Type} (stage : Stage) (work : Act ε α) : Course Float ε α :=
    pipeline.stage requestId stage work
  let schema ← perform .analyze (pipeline.analyze image)
  let motion ← perform .direct (pipeline.direct schema prompt image)
  let composition ← perform .compose (Act.ofArithmetic motion.timeline.compose)
  let video ← perform .render (pipeline.render composition image)
  let (metadata, address) ← perform .publish (pipeline.publish composition video)
  let finish ← Course.lift pipeline.clock.read
  return ⟨requestId, video, address, metadata, motion, finish - start, ← get⟩

def requestIdOr (requestId? : Option String) : Act ε String :=
  match requestId? with
  | some id => if id.isEmpty then Act.newIdentifier else pure id
  | none => Act.newIdentifier

/-- Make a video; the results of the stages are there also when the run fails. -/
def runWithNotes (pipeline : Pipeline ε) (image prompt : String) (requestId? : Option String) :
    Act ε (Except Fault PipelineResult × List StageResult) := do
  let requestId ← requestIdOr requestId?
  let start ← pipeline.clock.read
  ExceptT.lift ((pipeline.course image prompt requestId start).run.run [])

def run (pipeline : Pipeline ε) (image prompt : String) (requestId? : Option String) :
    Act ε PipelineResult := do
  let (outcome, _) ← pipeline.runWithNotes image prompt requestId?
  Act.of outcome

end Pipeline

end StillMotion
