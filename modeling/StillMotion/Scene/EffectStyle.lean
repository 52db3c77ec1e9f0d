import StillMotion.Scene.Pace

/-!
# The contribution of an effect

An effect contributes while its window is open, both ends included.  How far it has run is its
progress; some kinds of effect derive more from it and from their parameters.
-/

namespace StillMotion

open StillMotion.Number

structure EffectStyle (α : Type) where
  effectId : String
  kind : String
  progress : α
  opacity : Option α
  blur : Option α
  temperature : Option α
  saturation : Option α
  contrast : Option α
  grainIntensity : Option α
  grainOpacity : Option α
  parameters : List (String × Parameter α)
deriving DecidableEq, Repr

def EffectStyle.codec : Codec (EffectStyle Float) :=
  .record "EffectStyle" .wire <| Fields.of EffectStyle.mk
    |>.field (.required "effectId" .text) effectId
    |>.field (.required "type" .text) kind
    |>.field (.required "progress" .real) progress
    |>.field (.nullable "opacity" .real) opacity
    |>.field (.nullable "blur" .real) blur
    |>.field (.nullable "temperature" .real) temperature
    |>.field (.nullable "saturation" .real) saturation
    |>.field (.nullable "contrast" .real) contrast
    |>.field (.nullable "grainIntensity" .real) grainIntensity
    |>.field (.nullable "grainOpacity" .real) grainOpacity
    |>.field (.composed "parameters" (.mapping Parameter.codec) []) parameters

namespace Effect

variable {α : Type} [Scalar α]

/-- The part of the window that has passed, between zero and one.  A window without length
has passed as soon as it opens. -/
def progress (effect : Effect α) (t : α) : α :=
  let part := if 0.0 < effect.duration then (t - effect.start) / effect.duration else 1.0
  greatest 0.0 (least 1.0 part)

/-- A numeric parameter as a scalar; other kinds of value count as absent. -/
def number? (effect : Effect α) (name : String) : Except ArithmeticFault (Option α) :=
  match effect.parameter? name with
  | some (.int n) => (Scalar.ofInt? n).map some
  | some (.real x) => .ok (some x)
  | _ => .ok none

def number (effect : Effect α) (name : String) (standard : α) :
    Except ArithmeticFault (Option α) :=
  (effect.number? name).map fun given => some (given.getD standard)

def plainStyle (effect : Effect α) (t : α) : EffectStyle α where
  effectId := effect.id
  kind := effect.kind.word
  progress := effect.progress t
  opacity := none
  blur := none
  temperature := none
  saturation := none
  contrast := none
  grainIntensity := none
  grainOpacity := none
  parameters := effect.parameters

def fadeOpacity (effect : Effect α) (t : α) : Option α :=
  match effect.parameter? "type" with
  | some (.text direction) =>
      if direction == "in" then some (effect.progress t)
      else if direction == "out" then some (1.0 - effect.progress t)
      else none
  | _ => none

def activeStyle (effect : Effect α) (t : α) : Except ArithmeticFault (EffectStyle α) :=
  let style := effect.plainStyle t
  match effect.kind with
  | .fade => .ok { style with opacity := effect.fadeOpacity t }
  | .blur => do
      let blur ← effect.number "intensity" 5.0
      .ok { style with blur }
  | .opacity => do
      let opacity ← effect.number? "opacity"
      .ok { style with opacity }
  | .colorGrade => do
      let temperature ← effect.number "temperature" 0.0
      let saturation ← effect.number "saturation" 0.0
      let contrast ← effect.number "contrast" 0.0
      .ok { style with temperature, saturation, contrast }
  | .filmGrain => do
      let grainIntensity ← effect.number "intensity" 0.1
      let grainOpacity ← effect.number "opacity" 0.3
      .ok { style with grainIntensity, grainOpacity }
  | _ => .ok style

/-- The contribution at `t`; nothing outside the window. -/
def style? (effect : Effect α) (t : α) : Except ArithmeticFault (Option (EffectStyle α)) :=
  if effect.isActive t then (effect.activeStyle t).map some else .ok none

def styles (effects : List (Effect α)) (t : α) : Except ArithmeticFault (List (EffectStyle α)) :=
  (effects.mapM fun effect => style? effect t).map (·.filterMap fun style => style)

end Effect

end StillMotion
