import StillMotion.Data.Ordering
import StillMotion.Scene.Pace

/-!
# The look of a layer

Keyframes fix properties at times; between two of them the properties that both carry are
interpolated and the others hold the value of the earlier one.
-/

namespace StillMotion

open StillMotion.Number

/-- Transform and appearance of a layer at one instant; what is not set is at rest. -/
structure LayerStyle (α : Type) where
  positionX : Option α
  positionY : Option α
  positionZ : Option α
  scaleX : Option α
  scaleY : Option α
  rotationX : Option α
  rotationY : Option α
  rotationZ : Option α
  opacity : Option α
  filter : Option String
  color : Option String
deriving DecidableEq, Repr

namespace LayerStyle

variable {α : Type}

def rest : LayerStyle α := ⟨none, none, none, none, none, none, none, none, none, none, none⟩

def isEmpty (style : LayerStyle α) : Bool :=
  style.positionX.isNone && style.positionY.isNone && style.positionZ.isNone &&
  style.scaleX.isNone && style.scaleY.isNone &&
  style.rotationX.isNone && style.rotationY.isNone && style.rotationZ.isNone &&
  style.opacity.isNone && style.filter.isNone && style.color.isNone

def codec : Codec (LayerStyle Float) :=
  .record "LayerStyle" .wire <| Fields.of LayerStyle.mk
    |>.field (.nullable "positionX" .real) positionX
    |>.field (.nullable "positionY" .real) positionY
    |>.field (.nullable "positionZ" .real) positionZ
    |>.field (.nullable "scaleX" .real) scaleX
    |>.field (.nullable "scaleY" .real) scaleY
    |>.field (.nullable "rotationX" .real) rotationX
    |>.field (.nullable "rotationY" .real) rotationY
    |>.field (.nullable "rotationZ" .real) rotationZ
    |>.field (.nullable "opacity" .real) opacity
    |>.field (.nullable "filter" .text) filter
    |>.field (.nullable "color" .text) color

end LayerStyle

variable {α : Type} [Scalar α]

/-! ## Interpolation -/

def mixGiven (a b : Option α) (t : α) : Option α :=
  match a, b with
  | some a, some b => some (mix a b t)
  | _, _ => none

def Vec2.mix (a b : Vec2 α) (t : α) : Vec2 α :=
  ⟨StillMotion.mix a.x b.x t, StillMotion.mix a.y b.y t, mixGiven a.z b.z t⟩

/-- A rotation about the depth axis that is not given is none; zero has no sign here. -/
def Vec2.spin (v : Vec2 α) : α :=
  let z := v.z.getD 0.0
  if 0.0 ≤ z && z ≤ 0.0 then 0.0 else z

def Vec2.mixRotation (a b : Vec2 α) (t : α) : Vec2 α :=
  ⟨StillMotion.mix a.x b.x t, StillMotion.mix a.y b.y t,
    some (StillMotion.mix a.spin b.spin t)⟩

/-- Interpolate a part that both ends carry; otherwise the start holds. -/
def between {β : Type} (interpolate : β → β → β) (start finish : Option β) : Option β :=
  match start, finish with
  | some a, some b => some (interpolate a b)
  | _, _ => start

def KeyframeProperties.mix (start finish : KeyframeProperties α) (t : α) : KeyframeProperties α :=
  { start with
    position := between (fun a b => Vec2.mix a b t) start.position finish.position
    scale := between (fun a b => Vec2.mix a b t) start.scale finish.scale
    rotation := between (fun a b => Vec2.mixRotation a b t) start.rotation finish.rotation
    opacity := between (fun a b => StillMotion.mix a b t) start.opacity finish.opacity }

def KeyframeProperties.style (properties : KeyframeProperties α) : LayerStyle α where
  positionX := properties.position.map (·.x)
  positionY := properties.position.map (·.y)
  positionZ := properties.position.bind (·.z)
  scaleX := properties.scale.map (·.x)
  scaleY := properties.scale.map (·.y)
  rotationX := properties.rotation.map (·.x)
  rotationY := properties.rotation.map (·.y)
  rotationZ := properties.rotation.map Vec2.spin
  opacity := properties.opacity
  filter := properties.filter
  color := properties.color

/-! ## Keyframes -/

/-- Keyframes in the order of their times; those of one time keep their order. -/
def sortByTime (keyframes : List (Keyframe α)) : List (Keyframe α) :=
  Ordering.byKey (·.time) keyframes

/-- In ordered keyframes, the last one at or before `t` and the first one after it. -/
def bracket (t : α) (current : Option (Keyframe α)) :
    List (Keyframe α) → Option (Keyframe α) × Option (Keyframe α)
  | [] => (current, none)
  | keyframe :: rest =>
      if keyframe.time ≤ t then bracket t (some keyframe) rest else (current, some keyframe)

/-- The style at `t`: nothing before the first keyframe, the last one's after it, and between
two keyframes the interpolation at the pace of the earlier one. -/
def keyframeStyle (keyframes : List (Keyframe α)) (t : α) : Except ArithmeticFault (LayerStyle α) :=
  match bracket t none (sortByTime keyframes) with
  | (none, _) => .ok .rest
  | (some current, none) => .ok current.properties.style
  | (some current, some upcoming) => do
      let progress := (t - current.time) / (upcoming.time - current.time)
      let eased ← (current.easing.getD .linear).apply progress
      .ok (current.properties.mix upcoming.properties eased).style

end StillMotion
