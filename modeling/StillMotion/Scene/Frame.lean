import StillMotion.Scene.Composition

/-!
# Frames

Sampling a composition at a time gives a frame: the camera, the layers that are visible then
and the open effects.  Baking samples every frame of the clip.
-/

namespace StillMotion

open StillMotion.Number

structure LayerSample (α : Type) where
  layerId : String
  trackId : String
  style : LayerStyle α
  effects : List (EffectStyle α)
deriving DecidableEq, Repr

structure FrameSample (α : Type) where
  frame : Int
  time : α
  camera : CameraState α
  layers : List (LayerSample α)
  globalEffects : List (EffectStyle α)
deriving DecidableEq, Repr

def LayerSample.codec : Codec (LayerSample Float) :=
  .record "LayerSample" .wire <| Fields.of LayerSample.mk
    |>.field (.required "layerId" .text) layerId
    |>.field (.required "trackId" .text) trackId
    |>.field (.required "style" LayerStyle.codec) style
    |>.field (.composed "effects" (.list EffectStyle.codec) []) effects

def FrameSample.codec : Codec (FrameSample Float) :=
  .record "FrameSample" .wire <| Fields.of FrameSample.mk
    |>.field (.required "frame" .int) frame
    |>.field (.required "time" .real) time
    |>.field (.required "camera" CameraState.codec) camera
    |>.field (.composed "layers" (.list LayerSample.codec) []) layers
    |>.field (.composed "globalEffects" (.list EffectStyle.codec) []) globalEffects

variable {α : Type} [Scalar α]

def CompositionLayer.isActive (layer : CompositionLayer α) (t : α) : Bool :=
  spans layer.start layer.duration t

def CompositionLayer.sample (layer : CompositionLayer α) (trackId : String) (t : α) :
    Except ArithmeticFault (LayerSample α) := do
  let style ← keyframeStyle layer.keyframes t
  let effects ← Effect.styles layer.effects t
  .ok ⟨layer.id, trackId, style, effects⟩

namespace Composition

def paintOrder (composition : Composition α) : List (CompositionTrack α) :=
  composition.tracks.mergeSort fun a b => decide (a.index ≤ b.index)

/-- The layers that are seen at `t`, with the identifiers of their tracks. -/
def shownLayers (composition : Composition α) (t : α) : List (String × CompositionLayer α) :=
  (composition.paintOrder.filter (·.visible)).flatMap fun track =>
    (track.layers.filter fun layer => layer.visible && layer.isActive t).map fun layer =>
      (track.id, layer)

/-- The number of the frame shown at `t`. -/
def frameAt (composition : Composition α) (t : α) : Except ArithmeticFault Int := do
  let fps ← Scalar.ofInt? composition.metadata.fps
  Scalar.round? (t * fps)

def sample [QuarterTurn α] (composition : Composition α) (t : α) :
    Except ArithmeticFault (FrameSample α) := do
  let layers ← (composition.shownLayers t).mapM fun (trackId, layer) => layer.sample trackId t
  let globalEffects ← Effect.styles composition.globalEffects t
  let frame ← composition.frameAt t
  let camera ← composition.camera.at t
  .ok ⟨frame, t, camera, layers, globalEffects⟩

def timeOf (composition : Composition α) (frame : Nat) : Except ArithmeticFault α :=
  Scalar.quotient? frame composition.metadata.fps

def bake [QuarterTurn α] (composition : Composition α) :
    Except ArithmeticFault (List (FrameSample α)) :=
  (List.range composition.metadata.durationInFrames.toNat).mapM fun frame => do
    let t ← composition.timeOf frame
    composition.sample t

end Composition

end StillMotion
