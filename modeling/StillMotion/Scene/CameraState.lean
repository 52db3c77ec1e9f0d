import StillMotion.Scene.Pace

/-!
# The camera at an instant

Every movement contributes an offset that goes from its origin to its goal while it lasts; the
offsets of all movements add up.
-/

namespace StillMotion

open StillMotion.Number

structure CameraState (α : Type) where
  kind : CameraKind
  position : Vec3 α
  target : Vec3 α
  fov : Option α
deriving DecidableEq, Repr

def CameraState.codec : Codec (CameraState Float) :=
  .record "CameraState" .wire <| Fields.of CameraState.mk
    |>.field (.required "type" CameraKind.codec) kind
    |>.field (.required "position" Vec3.codec) position
    |>.field (.required "target" Vec3.codec) target
    |>.field (.nullable "fov" .real) fov

variable {α : Type} [Scalar α]

def Vec3.add (a b : Vec3 α) : Vec3 α := ⟨a.x + b.x, a.y + b.y, a.z + b.z⟩

def Vec3.mix (a b : Vec3 α) (t : α) : Vec3 α :=
  ⟨StillMotion.mix a.x b.x t, StillMotion.mix a.y b.y t, StillMotion.mix a.z b.z t⟩

/-- A quarter of an orbit from `a` to `b`. -/
def Vec3.swing [QuarterTurn α] (a b : Vec3 α) (p : α) : Vec3 α where
  x := a.x + (b.x - a.x) * QuarterTurn.sine p
  y := StillMotion.mix a.y b.y p
  z := a.z + (b.z - a.z) * (1.0 - QuarterTurn.cosine p)

namespace CameraMovement

def progress (movement : CameraMovement α) (t : α) : Except ArithmeticFault α :=
  if t ≤ movement.start then .ok 0.0
  else if movement.duration ≤ 0.0 || movement.start + movement.duration ≤ t then .ok 1.0
  else movement.easing.apply ((t - movement.start) / movement.duration)

def offset [QuarterTurn α] (movement : CameraMovement α) (t : α) :
    Except ArithmeticFault (Vec3 α) := do
  let p ← movement.progress t
  match movement.kind with
  | .orbit => .ok (movement.origin.swing movement.goal p)
  | _ => .ok (movement.origin.mix movement.goal p)

end CameraMovement

/-- The camera at `t`. -/
def Camera.at [QuarterTurn α] (camera : Camera α) (t : α) :
    Except ArithmeticFault (CameraState α) := do
  let position ← camera.movements.foldlM
    (fun position movement => (movement.offset t).map position.add) camera.position
  .ok ⟨camera.kind, position, camera.target, camera.fov⟩

end StillMotion
