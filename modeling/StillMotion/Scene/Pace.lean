import StillMotion.Timeline.Format

/-!
# Pace

An easing turns the part of a span that has passed into the part of a change that is done.
Every easing goes from zero to one as time does; `mix` is the straight line between two values.
-/

namespace StillMotion

open StillMotion.Number

variable {α : Type} [Scalar α]

def Easing.apply (easing : Easing) (t : α) : Except ArithmeticFault α :=
  match easing with
  | .linear => .ok t
  | .easeIn => .ok (t * t)
  | .easeOut => .ok (t * (2.0 - t))
  | .easeInOut => .ok (if t < 0.5 then 2.0 * t * t else -1.0 + (4.0 - 2.0 * t) * t)
  | .spring => do
      let rest ← Scalar.cube? (1.0 - t)
      .ok (1.0 - rest)

/-- The easing that goes by a name; unknown names and no name stand for an even pace. -/
def Easing.named (name : Option String) : Easing :=
  (name.bind fun word => Easing.all.find? fun easing => easing.word == word).getD .linear

/-- The value at `t` on the line from `a` at zero to `b` at one. -/
def mix (a b t : α) : α := a + (b - a) * t

end StillMotion
