import StillMotion.Data.Record
import StillMotion.Timeline.Basic

/-!
# Checking timelines

A timeline is valid when it has an asset and a track, every layer ends within the duration and
every keyframe lies within it, up to a slack for accumulated times.  Each violation is reported
once, in the order of the tracks, their layers and the layers' keyframes.
-/

namespace StillMotion

open StillMotion.Number

structure ValidationResult where
  isValid : Bool
  errors : List String
deriving DecidableEq, Repr

namespace ValidationResult

def ofErrors (errors : List String) : ValidationResult := ⟨errors.isEmpty, errors⟩

def codec : Codec ValidationResult :=
  .record "ValidationResult" .wire <| Fields.of ValidationResult.mk
    |>.field (.required "isValid" .bool) isValid
    |>.field (.composed "errors" (.list .text) []) errors

end ValidationResult

variable {α : Type} [Scalar α]

/-- The slack granted to accumulated times. -/
def timeSlack : α := 1e-9

def briefly (x : α) : String := String.ofList (Scalar.brief x)

/-- What is wrong with a keyframe of a clip that lasts `total`. -/
def Keyframe.error? (total : α) (trackPlace layerPlace place : Nat) (keyframe : Keyframe α) :
    Option String :=
  if keyframe.time < 0.0 || total + timeSlack < keyframe.time then
    some (s!"Keyframe {place} in layer {layerPlace} of track {trackPlace} has " ++
      s!"invalid time {briefly keyframe.time}s")
  else none

def Layer.endError? (total : α) (track : Track α) (layer : Layer α) : Option String :=
  if total + timeSlack < layer.finish then
    some (s!"Layer '{layer.id}' in track '{track.id}' ends at {briefly layer.finish}s, " ++
      s!"beyond timeline duration {briefly total}s")
  else none

def Layer.errors (total : α) (track : Track α) (trackPlace place : Nat) (layer : Layer α) :
    List String :=
  (layer.endError? total track).toList ++
    layer.keyframes.zipIdx.filterMap fun (keyframe, k) => keyframe.error? total trackPlace place k

def Track.errors (total : α) (place : Nat) (track : Track α) : List String :=
  track.layers.zipIdx.flatMap fun (layer, l) => layer.errors total track place l

namespace Timeline

def errors (timeline : Timeline α) : List String :=
  (if timeline.assets.isEmpty then ["Timeline must have at least one asset"] else []) ++
  (if timeline.tracks.isEmpty then ["Timeline must have at least one track"] else []) ++
  timeline.tracks.zipIdx.flatMap fun (track, t) => track.errors timeline.metadata.duration t

def validate (timeline : Timeline α) : ValidationResult := .ofErrors timeline.errors

end Timeline

end StillMotion
