import StillMotion.Data.Record
import StillMotion.Timeline.Basic

/-!
# The policy of the director

The numbers behind a synthesized timeline.  A number that was given as an integer is shown as
one, so a quantity keeps the integer beside the scalar.
-/

namespace StillMotion

open StillMotion.Number

structure Quantity (α : Type) where
  value : α
  whole : Option Int
deriving DecidableEq, Repr

namespace Quantity

variable {α : Type}

def real (x : α) : Quantity α := ⟨x, none⟩

def ofInt? [Scalar α] (n : Int) : Except ArithmeticFault (Quantity α) :=
  (Scalar.ofInt? n).map fun x => ⟨x, some n⟩

def least [Scalar α] (a b : Quantity α) : Quantity α := if b.value < a.value then b else a

def parameter (q : Quantity α) : Parameter α :=
  match q.whole with
  | some n => .int n
  | none => .real q.value

/-- Whether an integer is at most a quantity. -/
def bounds [Scalar α] (q : Quantity α) (n : Int) : Bool :=
  match q.whole with
  | some m => n ≤ m
  | none => match Scalar.compareInt? n q.value with
      | some .gt => false
      | some _ => true
      | none => false

end Quantity

structure DirectorPolicy (α : Type) where
  defaultDuration : Quantity α
  maxDuration : Quantity α
  fadeDuration : Quantity α
  movementStart : Quantity α
  width : Int
  height : Int
  fps : Int
  zoomScale : Quantity α
  zoomEndFraction : Quantity α
  panOffset : Quantity α
  panEndFraction : Quantity α
  parallaxOffset : Quantity α
  secondaryOpacity : Quantity α
  mysteriousOverlayOpacity : Quantity α
  movementTargets : List (String × Vec3 α)

namespace DirectorPolicy

variable {α : Type} [Scalar α]

/-- Where the camera goes, for each movement.  The orbit is a quarter turn about the target. -/
def standardTargets : List (String × Vec3 α) :=
  [("pan", ⟨100.0, 0.0, 0.0⟩), ("zoom", ⟨0.0, 0.0, -200.0⟩), ("dolly", ⟨0.0, 0.0, 150.0⟩),
   ("orbit", ⟨150.0, 0.0, 150.0⟩)]

def standard : DirectorPolicy α where
  defaultDuration := ⟨5.0, some 5⟩
  maxDuration := ⟨30.0, some 30⟩
  fadeDuration := .real 0.5
  movementStart := .real 0.5
  width := 1920
  height := 1080
  fps := 30
  zoomScale := .real 1.2
  zoomEndFraction := .real 0.7
  panOffset := ⟨100.0, some 100⟩
  panEndFraction := .real 0.6
  parallaxOffset := ⟨20.0, some 20⟩
  secondaryOpacity := .real 0.7
  mysteriousOverlayOpacity := .real 0.8
  movementTargets := standardTargets

end DirectorPolicy

/-! ## Settings -/

structure DirectorSettings (α : Type) where
  defaultDuration : α
  maxDuration : α
  fadeDuration : α
  movementStart : α
  width : Int
  height : Int
  fps : Int
deriving DecidableEq, Repr

/-- Refuse a number unless it is greater than zero. -/
def positive (x : Float) : Option IssueKind := if 0.0 < x then none else some .greaterThan

def nonNegative (x : Float) : Option IssueKind := if 0.0 ≤ x then none else some .greaterThanEqual

def atLeast (least n : Int) : Option IssueKind :=
  if least ≤ n then none else some .greaterThanEqual

def DirectorSettings.codec : Codec (DirectorSettings Float) :=
  .record "DirectorSettings" .strict <| Fields.of DirectorSettings.mk
    |>.field (.optional "default_duration" (.refine .real positive) 5.0) defaultDuration
    |>.field (.optional "max_duration" (.refine .real positive) 30.0) maxDuration
    |>.field (.optional "fade_duration" (.refine .real nonNegative) 0.5) fadeDuration
    |>.field (.optional "movement_start" (.refine .real nonNegative) 0.5) movementStart
    |>.field (.optional "width" (.refine .int (atLeast 1)) 1920) width
    |>.field (.optional "height" (.refine .int (atLeast 1)) 1080) height
    |>.field (.optional "fps" (.refine .int (atLeast 1)) 30) fps

def DirectorPolicy.ofSettings {α : Type} [Scalar α] (settings : DirectorSettings α) :
    DirectorPolicy α :=
  { DirectorPolicy.standard with
    defaultDuration := .real settings.defaultDuration
    maxDuration := .real settings.maxDuration
    fadeDuration := .real settings.fadeDuration
    movementStart := .real settings.movementStart
    width := settings.width
    height := settings.height
    fps := settings.fps }

end StillMotion
