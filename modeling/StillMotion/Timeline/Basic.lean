import StillMotion.Data.Value
import StillMotion.Number.Scalar

/-!
# Timelines

A timeline says what is seen when: assets, tracks of layers with keyframes and effects, a
camera with movements, and effects on the whole picture.  Times are seconds.  The type of
scalars is a parameter; documents hold doubles.
-/

namespace StillMotion

open StillMotion.Number

variable {α : Type}

/-! ## Kinds -/

inductive AssetKind where
  | image | video | audio | text
deriving DecidableEq, Repr, Inhabited

inductive EffectKind where
  | zoom | pan | opacity | slide | fade | blur | colorGrade | filmGrain | cursor | animation
deriving DecidableEq, Repr, Inhabited

inductive LayerKind where
  | image | text | shape | composition
deriving DecidableEq, Repr, Inhabited

inductive TrackKind where
  | video | audio | effect
deriving DecidableEq, Repr, Inhabited

inductive BlendMode where
  | normal | multiply | screen | overlay
deriving DecidableEq, Repr, Inhabited

inductive CameraKind where
  | flat | layered | spatial
deriving DecidableEq, Repr, Inhabited

inductive MovementKind where
  | static | pan | zoom | dolly | orbit | tracking
deriving DecidableEq, Repr, Inhabited

inductive Easing where
  | linear | easeIn | easeOut | easeInOut | spring
deriving DecidableEq, Repr, Inhabited

/-! ## Parts of a timeline -/

structure Vec2 (α : Type) where
  x : α
  y : α
  z : Option α
deriving DecidableEq, Repr

structure Vec3 (α : Type) where
  x : α
  y : α
  z : α
deriving DecidableEq, Repr

structure Asset where
  id : String
  kind : AssetKind
  source : String
  metadata : Option Entries

inductive Parameter (α : Type) where
  | bool (b : Bool)
  | int (n : Int)
  | real (x : α)
  | text (s : String)
deriving DecidableEq, Repr

structure KeyframeProperties (α : Type) where
  position : Option (Vec2 α)
  scale : Option (Vec2 α)
  rotation : Option (Vec2 α)
  opacity : Option α
  color : Option String
  filter : Option String
deriving DecidableEq, Repr

def KeyframeProperties.none : KeyframeProperties α :=
  ⟨Option.none, Option.none, Option.none, Option.none, Option.none, Option.none⟩

structure Keyframe (α : Type) where
  time : α
  properties : KeyframeProperties α
  /-- The pace from this keyframe to the next. -/
  easing : Option Easing
deriving DecidableEq, Repr

structure Effect (α : Type) where
  id : String
  kind : EffectKind
  parameters : List (String × Parameter α)
  start : α
  duration : α
deriving DecidableEq, Repr

structure Layer (α : Type) where
  id : String
  name : String
  kind : LayerKind
  assetId : Option String
  trackIndex : Int
  start : α
  duration : α
  keyframes : List (Keyframe α)
  effects : List (Effect α)
  blendMode : Option BlendMode
  visible : Bool
deriving DecidableEq, Repr

structure Track (α : Type) where
  id : String
  name : String
  index : Int
  kind : TrackKind
  layers : List (Layer α)
  locked : Bool
  visible : Bool
deriving DecidableEq, Repr

/-- A change of the camera's position by an offset that goes from `origin` to `goal`. -/
structure CameraMovement (α : Type) where
  kind : MovementKind
  origin : Vec3 α
  goal : Vec3 α
  start : α
  duration : α
  easing : Easing
deriving DecidableEq, Repr

structure Camera (α : Type) where
  kind : CameraKind
  position : Vec3 α
  target : Vec3 α
  fov : Option α
  movements : List (CameraMovement α)
deriving DecidableEq, Repr

structure TimelineMetadata (α : Type) where
  projectName : String
  createdAt : String
  duration : α
  fps : Int
  width : Int
  height : Int
  backgroundColor : Option String
deriving DecidableEq, Repr

structure Timeline (α : Type) where
  metadata : TimelineMetadata α
  assets : List Asset
  tracks : List (Track α)
  camera : Camera α
  globalEffects : List (Effect α)

/-! ## Spans and lookup -/

section Spans

variable [Scalar α]

def Vec3.zero : Vec3 α := ⟨0.0, 0.0, 0.0⟩

/-- Whether a time lies in the span that starts at `start` and lasts `duration`. -/
def spans (start duration t : α) : Bool := start ≤ t && t ≤ start + duration

def Effect.finish (effect : Effect α) : α := effect.start + effect.duration

def Effect.isActive (effect : Effect α) (t : α) : Bool := spans effect.start effect.duration t

def Layer.finish (layer : Layer α) : α := layer.start + layer.duration

def Camera.still : Camera α := ⟨.flat, Vec3.zero, Vec3.zero, none, []⟩

end Spans

def Effect.parameter? (effect : Effect α) (name : String) : Option (Parameter α) :=
  (effect.parameters.find? fun binding => binding.1 == name).map (·.2)

namespace Timeline

def asset? (timeline : Timeline α) (id : String) : Option Asset :=
  timeline.assets.find? fun asset => asset.id == id

def paintOrder (timeline : Timeline α) : List (Track α) :=
  timeline.tracks.mergeSort fun a b => decide (a.index ≤ b.index)

def paintedLayers (timeline : Timeline α) : List (Track α × Layer α) :=
  timeline.paintOrder.flatMap fun track => track.layers.map fun layer => (track, layer)

def empty [Scalar α] (metadata : TimelineMetadata α) : Timeline α :=
  ⟨metadata, [], [], Camera.still, []⟩

end Timeline

end StillMotion
