import StillMotion.Proofs.Scene.Baking
import StillMotion.Proofs.Timeline.Interchange

/-!
# Timelines that can be baked

A timeline holds doubles, and each of its finite doubles is a number.  Computed with these numbers
instead, two things can fail on the way from a timeline to its baked frames: it may be impossible
to name the composition, and a frame of a clip that shows no frames in a second has no time.

A composition is named by a text of the timeline.  What keeps a timeline from having one depends on
how the text is made: integers may be too wide for it, data nested too deeply, characters not
encodable.  So the naming is a parameter here, and the naming of the library is one instance.
-/

namespace StillMotion

open StillMotion.Number

/-! ## Timelines of exact numbers -/

section Map

variable {α β : Type} (f : α → β)

def Vec2.map (v : Vec2 α) : Vec2 β := ⟨f v.x, f v.y, v.z.map f⟩

def Vec3.map (v : Vec3 α) : Vec3 β := ⟨f v.x, f v.y, f v.z⟩

def Parameter.map : Parameter α → Parameter β
  | .bool b => .bool b
  | .int n => .int n
  | .real x => .real (f x)
  | .text s => .text s

def KeyframeProperties.map (properties : KeyframeProperties α) : KeyframeProperties β where
  position := properties.position.map (·.map f)
  scale := properties.scale.map (·.map f)
  rotation := properties.rotation.map (·.map f)
  opacity := properties.opacity.map f
  color := properties.color
  filter := properties.filter

def Keyframe.map (keyframe : Keyframe α) : Keyframe β :=
  ⟨f keyframe.time, keyframe.properties.map f, keyframe.easing⟩

def Effect.map (effect : Effect α) : Effect β where
  id := effect.id
  kind := effect.kind
  parameters := effect.parameters.map fun (name, parameter) => (name, parameter.map f)
  start := f effect.start
  duration := f effect.duration

def Layer.map (layer : Layer α) : Layer β :=
  { layer with
    start := f layer.start
    duration := f layer.duration
    keyframes := layer.keyframes.map (·.map f)
    effects := layer.effects.map (·.map f) }

def Track.map (track : Track α) : Track β :=
  { track with layers := track.layers.map (·.map f) }

def CameraMovement.map (movement : CameraMovement α) : CameraMovement β :=
  { movement with
    origin := movement.origin.map f
    goal := movement.goal.map f
    start := f movement.start
    duration := f movement.duration }

def Camera.map (camera : Camera α) : Camera β where
  kind := camera.kind
  position := camera.position.map f
  target := camera.target.map f
  fov := camera.fov.map f
  movements := camera.movements.map (·.map f)

def TimelineMetadata.map (metadata : TimelineMetadata α) : TimelineMetadata β :=
  { metadata with duration := f metadata.duration }

def Timeline.map (timeline : Timeline α) : Timeline β where
  metadata := timeline.metadata.map f
  assets := timeline.assets
  tracks := timeline.tracks.map (·.map f)
  camera := timeline.camera.map f
  globalEffects := timeline.globalEffects.map (·.map f)

end Map

namespace Number

def Parts.exact (p : Parts) : Rat :=
  (if p.negative then -1 else 1) * p.mantissa * 2 ^ p.exponent

/-- The number that a double is; what is no number stands for zero. -/
def Double.exact (x : Float) : Rat :=
  match classify x with
  | .finite p => p.exact
  | _ => 0

end Number

namespace Timeline

def exact (timeline : Timeline Float) : Timeline Rat := timeline.map Double.exact

/-- A way to name the composition of a timeline, which may fail. -/
abbrev Naming := Timeline Float → Except Fault String

/-- What is written for a timeline is data of a document: its doubles are finite, and the free data
about its assets has a text. -/
def IsDocument (timeline : Timeline Float) : Prop :=
  (Timeline.codec.encode timeline).isPlain = true

end Timeline

/-! ## What can fail -/

namespace Composition

variable {composition : Composition Rat}

end Composition

namespace Timeline

variable {timeline : Timeline Float}

/-- The integers of the timeline can be written. -/
def HasText (timeline : Timeline Float) : Prop :=
  (Timeline.codec.encode timeline).isWithin digitLimit = true

section Naming

variable {name : Naming} {id : String}

end Naming

end Timeline

end StillMotion
