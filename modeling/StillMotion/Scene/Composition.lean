import StillMotion.Scene.CameraState
import StillMotion.Scene.EffectStyle
import StillMotion.Scene.Style

/-!
# Compositions

A composition is what a renderer draws: tracks in the order in which they are painted, layers
with the source of their asset and their keyframes in order of time, and a length in frames.
Its identifier stands for the content of the timeline it comes from.
-/

namespace StillMotion

open StillMotion.Number

structure CompositionLayer (α : Type) where
  id : String
  name : String
  kind : String
  assetSource : Option String
  start : α
  duration : α
  keyframes : List (Keyframe α)
  effects : List (Effect α)
  blendMode : String
  visible : Bool
deriving DecidableEq, Repr

structure CompositionTrack (α : Type) where
  id : String
  name : String
  index : Int
  kind : String
  visible : Bool
  layers : List (CompositionLayer α)
deriving DecidableEq, Repr

structure CompositionMetadata (α : Type) where
  width : Int
  height : Int
  fps : Int
  duration : α
  durationInFrames : Int
  backgroundColor : String
deriving DecidableEq, Repr

structure Composition (α : Type) where
  id : String
  metadata : CompositionMetadata α
  tracks : List (CompositionTrack α)
  camera : Camera α
  globalEffects : List (Effect α)
deriving DecidableEq, Repr

def black : String := "#000000"

/-! ## Format -/

def CompositionLayer.codec : Codec (CompositionLayer Float) :=
  .record "CompositionLayer" .wire <| Fields.of CompositionLayer.mk
    |>.field (.required "id" .text) id
    |>.field (.required "name" .text) name
    |>.field (.required "type" .text) kind
    |>.field (.nullable "assetSrc" .text) assetSource
    |>.field (.required "startTime" .real) start
    |>.field (.required "duration" .real) duration
    |>.field (.composed "keyframes" (.list Keyframe.codec) []) keyframes
    |>.field (.composed "effects" (.list Effect.codec) []) effects
    |>.field (.optional "blendMode" .text BlendMode.normal.word) blendMode
    |>.field (.optional "visible" .bool true) visible

def CompositionTrack.codec : Codec (CompositionTrack Float) :=
  .record "CompositionTrack" .wire <| Fields.of CompositionTrack.mk
    |>.field (.required "id" .text) id
    |>.field (.required "name" .text) name
    |>.field (.required "index" .int) index
    |>.field (.required "type" .text) kind
    |>.field (.optional "visible" .bool true) visible
    |>.field (.composed "layers" (.list CompositionLayer.codec) []) layers

def CompositionMetadata.codec : Codec (CompositionMetadata Float) :=
  .record "CompositionMetadata" .wire <| Fields.of CompositionMetadata.mk
    |>.field (.required "width" .int) width
    |>.field (.required "height" .int) height
    |>.field (.required "fps" .int) fps
    |>.field (.required "duration" .real) duration
    |>.field (.required "durationInFrames" .int) durationInFrames
    |>.field (.optional "backgroundColor" .text black) backgroundColor

def Composition.codec : Codec (Composition Float) :=
  Codec.record "Composition" .wire (Fields.of Composition.mk
    |>.field (.required "compositionId" .text) id
    |>.field (.required "metadata" CompositionMetadata.codec) metadata
    |>.field (.composed "tracks" (.list CompositionTrack.codec) []) tracks
    |>.field (.composed "camera" Camera.codec .still) camera
    |>.field (.composed "globalEffects" (.list Effect.codec) []) globalEffects)
  |>.summarized "Renderer-facing scene: tracks of layers whose look is a function of time."

/-! ## From a timeline -/

variable {α : Type} [Scalar α]

/-- The source of the asset that a layer shows; an empty reference refers to no asset. -/
def Layer.source? (layer : Layer α) (timeline : Timeline α) : Option String :=
  match layer.assetId with
  | none => none
  | some id => if id.isEmpty then none else (timeline.asset? id).map (·.source)

def CompositionLayer.ofLayer (timeline : Timeline α) (layer : Layer α) : CompositionLayer α where
  id := layer.id
  name := layer.name
  kind := layer.kind.word
  assetSource := layer.source? timeline
  start := layer.start
  duration := layer.duration
  keyframes := sortByTime layer.keyframes
  effects := layer.effects
  blendMode := (layer.blendMode.getD .normal).word
  visible := layer.visible

def CompositionTrack.ofTrack (timeline : Timeline α) (track : Track α) : CompositionTrack α where
  id := track.id
  name := track.name
  index := track.index
  kind := track.kind.word
  visible := track.visible
  layers := track.layers.map (.ofLayer timeline)

/-- The number of frames of a clip, the nearest integer to its length and at least one. -/
def TimelineMetadata.frames (metadata : TimelineMetadata α) : Except ArithmeticFault Int := do
  let fps ← Scalar.ofInt? metadata.fps
  let frames ← Scalar.round? (metadata.duration * fps)
  .ok (max frames 1)

/-- The colour behind everything; an empty text counts as none given. -/
def TimelineMetadata.background (metadata : TimelineMetadata α) : String :=
  match metadata.backgroundColor with
  | none => black
  | some color => if color.isEmpty then black else color

def Composition.ofTimeline (id : String) (timeline : Timeline α) :
    Except ArithmeticFault (Composition α) := do
  let metadata := timeline.metadata
  let frames ← metadata.frames
  .ok {
    id
    metadata := {
      width := metadata.width
      height := metadata.height
      fps := metadata.fps
      duration := metadata.duration
      durationInFrames := frames
      backgroundColor := metadata.background }
    tracks := timeline.paintOrder.map (.ofTrack timeline)
    camera := timeline.camera
    globalEffects := timeline.globalEffects }

end StillMotion
