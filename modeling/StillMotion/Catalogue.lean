import StillMotion.Analysis.VisualSchema
import StillMotion.Config.Basic
import StillMotion.Direction.Director
import StillMotion.Render.Renderer
import StillMotion.Scene.Composition
import StillMotion.Scene.Frame
import StillMotion.Text.Utf8

/-!
# The catalogue of records

Every kind of record under its title, with the restatement of its data: what reading and then
writing it gives.  Bytes that are no text cannot be written.
-/

namespace StillMotion

structure RecordKind where
  title : String
  restate : Value → Except Fault Value

/-- A value, unless bytes are left in it. -/
def requireNoBytes (value : Value) : Except Fault Value :=
  match value.bytes?.bind Utf8.fault? with
  | some fault => .error (.encoding fault)
  | none => .ok value

def RecordKind.of {α : Type} (codec : Codec α) : RecordKind :=
  ⟨codec.title, fun data => do requireNoBytes (codec.encode (← codec.read data))⟩

namespace Catalogue

def timelineKinds : List RecordKind :=
  [.of Vec2.codec, .of Vec3.codec, .of Asset.codec, .of KeyframeProperties.codec,
   .of Keyframe.codec, .of Effect.codec, .of Layer.codec, .of Track.codec,
   .of CameraMovement.codec, .of Camera.codec, .of TimelineMetadata.codec, .of Timeline.codec,
   .of ValidationResult.codec, .of CreativeDirection.codec, .of MotionIR.codec]

def sceneKinds : List RecordKind :=
  [.of LayerStyle.codec, .of EffectStyle.codec, .of CameraState.codec, .of CompositionLayer.codec,
   .of CompositionTrack.codec, .of CompositionMetadata.codec, .of Composition.codec,
   .of LayerSample.codec, .of FrameSample.codec, .of VideoMetadata.codec]

def analysisKinds : List RecordKind :=
  [.of Elements.codec, .of SceneFacts.codec, .of SceneComposition.codec, .of FocalPoint.codec,
   .of VisualAnalysis.codec, .of VisualSchema.codec]

def settingKinds : List RecordKind :=
  [.of VisionConfig.codec, .of ProvidersConfig.codec, .of PipelineSettings.codec,
   .of RenderSettings.codec, .of DirectorSettings.codec, .of PathsConfig.codec, .of Config.codec]

def kinds : List RecordKind := timelineKinds ++ sceneKinds ++ analysisKinds ++ settingKinds

def find? (title : String) : Option RecordKind := kinds.find? fun kind => kind.title == title

end Catalogue

end StillMotion
