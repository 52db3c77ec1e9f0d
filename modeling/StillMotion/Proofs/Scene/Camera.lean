import Mathlib.Algebra.BigOperators.Group.List.Basic
import StillMotion.Proofs.Scene.Interpolation

/-!
# The way of the camera

The position of the camera is the sum of its own and of what each movement contributes, so the
order of the movements does not matter.  A movement goes from its origin to its goal without
turning back; an orbit does so along a quarter of an ellipse.
-/

namespace StillMotion.Number.QuarterTurn

/-- Sine and cosine are those of an angle, and exact where a quarter turn begins and ends. -/
structure IsExact [QuarterTurn Rat] : Prop where
  circle : ∀ p : Rat, sine p ^ 2 + cosine p ^ 2 = 1
  sine_zero : sine (0 : Rat) = 0
  cosine_zero : cosine (0 : Rat) = 1
  sine_one : sine (1 : Rat) = 1
  cosine_one : cosine (1 : Rat) = 0

end StillMotion.Number.QuarterTurn

namespace StillMotion

open StillMotion.Number

/-! ## Axes -/

inductive Axis where
  | x | y | z
deriving DecidableEq, Repr

def Vec3.on {α : Type} (v : Vec3 α) : Axis → α
  | .x => v.x
  | .y => v.y
  | .z => v.z

theorem Vec3.ext_axes {α : Type} {v w : Vec3 α} (h : ∀ axis, v.on axis = w.on axis) : v = w := by
  cases v
  cases w
  simp only [Vec3.mk.injEq]
  exact ⟨h .x, h .y, h .z⟩

@[simp] theorem Vec3.on_add (v w : Vec3 Rat) (axis : Axis) :
    (v.add w).on axis = v.on axis + w.on axis := by
  cases axis <;> rfl

@[simp] theorem Vec3.on_mix (v w : Vec3 Rat) (e : Rat) (axis : Axis) :
    (v.mix w e).on axis = StillMotion.mix (v.on axis) (w.on axis) e := by
  cases axis <;> rfl

theorem Vec3.on_foldl_add (v : Vec3 Rat) (offsets : List (Vec3 Rat)) (axis : Axis) :
    (offsets.foldl add v).on axis = v.on axis + (offsets.map (·.on axis)).sum := by
  induction offsets generalizing v with
  | nil => simp
  | cons offset offsets ih => simp [ih, add_assoc]

/-! ## The progress of a movement -/

namespace CameraMovement

variable {movement : CameraMovement Rat} {s t : Rat}

def elapsed (movement : CameraMovement Rat) (t : Rat) : Rat :=
  if t ≤ movement.start then 0
  else if movement.duration ≤ 0 ∨ movement.start + movement.duration ≤ t then 1
  else (t - movement.start) / movement.duration

theorem elapsed_of_early (early : t ≤ movement.start) : movement.elapsed t = 0 := if_pos early

theorem elapsed_of_late (late : movement.start < t)
    (past : movement.start + movement.duration ≤ t) : movement.elapsed t = 1 := by
  rw [elapsed, if_neg late.not_ge, if_pos (.inr past)]

theorem elapsed_of_between (begun : ¬ t ≤ movement.start)
    (unfinished : ¬ (movement.duration ≤ 0 ∨ movement.start + movement.duration ≤ t)) :
    movement.elapsed t = (t - movement.start) / movement.duration := by
  rw [elapsed, if_neg begun, if_neg unfinished]

theorem elapsed_bounds (movement : CameraMovement Rat) (t : Rat) :
    0 ≤ movement.elapsed t ∧ movement.elapsed t ≤ 1 := by
  unfold elapsed
  split
  next => exact ⟨le_rfl, zero_le_one⟩
  next begun =>
      split
      next => exact ⟨zero_le_one, le_rfl⟩
      next unfinished =>
          rw [not_or, not_le, not_le] at unfinished
          rw [not_le] at begun
          constructor
          · exact div_nonneg (by linarith) unfinished.1.le
          · rw [div_le_one unfinished.1]
            linarith

theorem elapsed_mono (le : s ≤ t) : movement.elapsed s ≤ movement.elapsed t := by
  by_cases early : s ≤ movement.start
  · rw [elapsed_of_early early]
    exact (movement.elapsed_bounds t).1
  -- Once the span is over at `t`, nothing that came before is ahead of it.
  by_cases done : movement.duration ≤ 0 ∨ movement.start + movement.duration ≤ t
  · have late : ¬ t ≤ movement.start := fun before => early (le.trans before)
    have all : movement.elapsed t = 1 := by rw [elapsed, if_neg late, if_pos done]
    rw [all]
    exact (movement.elapsed_bounds s).2
  · have lasts : 0 < movement.duration := not_le.mp fun none => done (.inl none)
    have unfinished : ¬ (movement.duration ≤ 0 ∨ movement.start + movement.duration ≤ s) := by
      rintro (none | past)
      · exact done (.inl none)
      · exact done (.inr (past.trans le))
    rw [elapsed_of_between early unfinished,
      elapsed_of_between (fun before => early (le.trans before)) done]
    exact div_le_div_of_nonneg_right (by linarith) lasts.le

def done (movement : CameraMovement Rat) (t : Rat) : Rat :=
  movement.easing.curve (movement.elapsed t)

theorem progress_eq (movement : CameraMovement Rat) (t : Rat) :
    movement.progress t = .ok (movement.done t) := by
  unfold progress done elapsed
  split
  next => norm_num
  next =>
      norm_num
      split
      next => simp
      next => exact Easing.apply_eq _ _

theorem done_mono (movement : CameraMovement Rat) (le : s ≤ t) :
    movement.done s ≤ movement.done t :=
  movement.easing.curve_mono (movement.elapsed_bounds s).1 (elapsed_mono le)
    (movement.elapsed_bounds t).2

theorem done_nonneg (movement : CameraMovement Rat) (t : Rat) : 0 ≤ movement.done t := by
  rw [← movement.easing.curve_zero]
  exact movement.easing.curve_mono le_rfl (movement.elapsed_bounds t).1
    (movement.elapsed_bounds t).2

theorem done_le_one (movement : CameraMovement Rat) (t : Rat) : movement.done t ≤ 1 := by
  rw [← movement.easing.curve_one]
  exact movement.easing.curve_mono (movement.elapsed_bounds t).1 (movement.elapsed_bounds t).2
    le_rfl

theorem done_of_early (early : t ≤ movement.start) : movement.done t = 0 := by
  rw [done, elapsed_of_early early, Easing.curve_zero]

theorem done_of_late (late : movement.start < t)
    (past : movement.start + movement.duration ≤ t) : movement.done t = 1 := by
  rw [done, elapsed_of_late late past, Easing.curve_one]

end CameraMovement

/-! ## What a movement contributes -/

section Turning

variable [QuarterTurn Rat] {movement : CameraMovement Rat} {camera : Camera Rat} {s t : Rat}

@[simp] theorem Vec3.swing_y (v w : Vec3 Rat) (p : Rat) :
    (v.swing w p).on .y = StillMotion.mix (v.on .y) (w.on .y) p := rfl

theorem Vec3.swing_zero (exact : QuarterTurn.IsExact) (v w : Vec3 Rat) : v.swing w 0 = v := by
  apply Vec3.ext_axes
  intro axis
  cases axis <;> norm_num [Vec3.on, Vec3.swing, exact.sine_zero, exact.cosine_zero]

theorem Vec3.swing_one (exact : QuarterTurn.IsExact) (v w : Vec3 Rat) : v.swing w 1 = w := by
  apply Vec3.ext_axes
  intro axis
  cases axis <;> norm_num [Vec3.on, Vec3.swing, StillMotion.mix, exact.sine_one, exact.cosine_one]

theorem Vec3.swing_circle (exact : QuarterTurn.IsExact) {v w : Vec3 Rat} (wide : w.x - v.x ≠ 0)
    (deep : w.z - v.z ≠ 0) (p : Rat) :
    (((v.swing w p).x - v.x) / (w.x - v.x)) ^ 2 +
      (1 - ((v.swing w p).z - v.z) / (w.z - v.z)) ^ 2 = 1 := by
  have across : ((v.swing w p).x - v.x) / (w.x - v.x) = QuarterTurn.sine p := by
    rw [Vec3.swing, add_sub_cancel_left, mul_div_cancel_left₀ _ wide]
  have along : 1 - ((v.swing w p).z - v.z) / (w.z - v.z) = QuarterTurn.cosine p := by
    rw [Vec3.swing, add_sub_cancel_left, mul_div_cancel_left₀ _ deep]
    norm_num
  rw [across, along, exact.circle]

namespace CameraMovement

def offsetAt (movement : CameraMovement Rat) (t : Rat) : Vec3 Rat :=
  if movement.kind = .orbit then movement.origin.swing movement.goal (movement.done t)
  else movement.origin.mix movement.goal (movement.done t)

theorem offset_eq (movement : CameraMovement Rat) (t : Rat) :
    movement.offset t = .ok (movement.offsetAt t) := by
  unfold offset offsetAt
  rw [progress_eq, Except.ok_bind]
  split
  next orbit => rw [if_pos orbit]
  next other => rw [if_neg other]

theorem offsetAt_of_early (exact : QuarterTurn.IsExact) (early : t ≤ movement.start) :
    movement.offsetAt t = movement.origin := by
  rw [offsetAt, done_of_early early, Vec3.swing_zero exact]
  split
  next => rfl
  next =>
      apply Vec3.ext_axes
      simp

theorem offsetAt_of_late (exact : QuarterTurn.IsExact) (late : movement.start < t)
    (past : movement.start + movement.duration ≤ t) : movement.offsetAt t = movement.goal := by
  rw [offsetAt, done_of_late late past, Vec3.swing_one exact]
  split
  next => rfl
  next =>
      apply Vec3.ext_axes
      simp [StillMotion.mix]

/-- Along an axis a movement goes straight, unless it is an orbit and the axis is in its plane. -/
def IsStraightOn (movement : CameraMovement Rat) (axis : Axis) : Prop :=
  movement.kind ≠ .orbit ∨ axis = .y

theorem on_offsetAt {axis : Axis} (straight : movement.IsStraightOn axis) (t : Rat) :
    (movement.offsetAt t).on axis =
      StillMotion.mix (movement.origin.on axis) (movement.goal.on axis) (movement.done t) := by
  unfold offsetAt
  split
  next orbit =>
      obtain rfl : axis = .y := straight.resolve_left fun other => other orbit
      rw [Vec3.swing_y]
  next => rw [Vec3.on_mix]

/-- A movement stays between its origin and its goal and never turns back on its way. -/
structure IsSteadyOn (movement : CameraMovement Rat) (axis : Axis) : Prop where
  between : ∀ t, (movement.offsetAt t).on axis ∈
    Set.uIcc (movement.origin.on axis) (movement.goal.on axis)
  rises : movement.origin.on axis ≤ movement.goal.on axis →
    Monotone fun t => (movement.offsetAt t).on axis
  falls : movement.goal.on axis ≤ movement.origin.on axis →
    Antitone fun t => (movement.offsetAt t).on axis

theorem isSteadyOn {axis : Axis} (straight : movement.IsStraightOn axis) :
    movement.IsSteadyOn axis where
  between t := by
    rw [on_offsetAt straight]
    exact mix_mem_uIcc (movement.done_nonneg t) (movement.done_le_one t)
  rises ahead s t le := by
    simp only [on_offsetAt straight, StillMotion.mix]
    have further := mul_le_mul_of_nonneg_left (movement.done_mono le) (sub_nonneg.mpr ahead)
    linarith
  falls behind s t le := by
    simp only [on_offsetAt straight, StillMotion.mix]
    have further := mul_le_mul_of_nonneg_left (movement.done_mono le) (sub_nonneg.mpr behind)
    linarith

/-- The contribution of an orbit stays on an ellipse around a point beside its origin. -/
theorem offsetAt_circle (exact : QuarterTurn.IsExact) (orbit : movement.kind = .orbit)
    (wide : movement.goal.x - movement.origin.x ≠ 0)
    (deep : movement.goal.z - movement.origin.z ≠ 0) (t : Rat) :
    (((movement.offsetAt t).x - movement.origin.x) /
        (movement.goal.x - movement.origin.x)) ^ 2 +
      (1 - ((movement.offsetAt t).z - movement.origin.z) /
        (movement.goal.z - movement.origin.z)) ^ 2 = 1 := by
  rw [offsetAt, if_pos orbit]
  exact Vec3.swing_circle exact wide deep _

end CameraMovement

/-! ## The sum of the movements -/

namespace Camera

def positionAt (camera : Camera Rat) (t : Rat) : Vec3 Rat :=
  (camera.movements.map (·.offsetAt t)).foldl Vec3.add camera.position

theorem at_eq (camera : Camera Rat) (t : Rat) :
    camera.at t = .ok ⟨camera.kind, camera.positionAt t, camera.target, camera.fov⟩ := by
  have moved (movements : List (CameraMovement Rat)) (position : Vec3 Rat) :
      movements.foldlM (fun position movement => (movement.offset t).map position.add) position =
        .ok ((movements.map (·.offsetAt t)).foldl Vec3.add position) := by
    induction movements generalizing position with
    | nil => rfl
    | cons movement movements ih =>
        rw [List.foldlM_cons, movement.offset_eq]
        exact ih _
  rw [Camera.at, moved]
  rfl

theorem on_positionAt (camera : Camera Rat) (t : Rat) (axis : Axis) :
    (camera.positionAt t).on axis = camera.position.on axis +
      (camera.movements.map fun movement => (movement.offsetAt t).on axis).sum := by
  rw [positionAt, Vec3.on_foldl_add, List.map_map]
  rfl

theorem positionAt_perm {movements : List (CameraMovement Rat)}
    (perm : movements.Perm camera.movements) :
    { camera with movements }.positionAt t = camera.positionAt t := by
  apply Vec3.ext_axes
  intro axis
  rw [on_positionAt, on_positionAt]
  congr 1
  exact (perm.map _).sum_eq

/-- Where a camera is before and after all of its movements. -/
structure IsMoved (camera : Camera Rat) : Prop where
  rests : ∀ t, (∀ movement ∈ camera.movements, t ≤ movement.start) →
    ∀ axis, (camera.positionAt t).on axis = camera.position.on axis +
      (camera.movements.map fun movement => movement.origin.on axis).sum
  arrives : ∀ t, (∀ movement ∈ camera.movements,
      movement.start < t ∧ movement.start + movement.duration ≤ t) →
    ∀ axis, (camera.positionAt t).on axis = camera.position.on axis +
      (camera.movements.map fun movement => movement.goal.on axis).sum

theorem isMoved (exact : QuarterTurn.IsExact) (camera : Camera Rat) : camera.IsMoved where
  rests t early axis := by
    rw [on_positionAt]
    congr 2
    apply List.map_congr_left
    intro movement member
    rw [CameraMovement.offsetAt_of_early exact (early movement member)]
  arrives t late axis := by
    rw [on_positionAt]
    congr 2
    apply List.map_congr_left
    intro movement member
    obtain ⟨begun, past⟩ := late movement member
    rw [CameraMovement.offsetAt_of_late exact begun past]

end Camera

end Turning

/-- The camera is where the contributions of its movements add up to, whatever their order: at the
sum of their origins before all of them and at the sum of their goals after.  A movement stays
between its origin and its goal and never turns back, and an orbit stays on its ellipse. -/
theorem Camera.at_isMoved [QuarterTurn Rat] (exact : QuarterTurn.IsExact) (camera : Camera Rat) :
    (∀ t, camera.at t = .ok ⟨camera.kind, camera.positionAt t, camera.target, camera.fov⟩) ∧
    (∀ t axis, (camera.positionAt t).on axis = camera.position.on axis +
      (camera.movements.map fun movement => (movement.offsetAt t).on axis).sum) ∧
    (∀ movements : List (CameraMovement Rat), movements.Perm camera.movements →
      ∀ t, { camera with movements }.at t = camera.at t) ∧
    camera.IsMoved ∧
    ∀ movement : CameraMovement Rat,
      (∀ t, movement.offset t = .ok (movement.offsetAt t)) ∧
      (∀ axis, movement.kind ≠ .orbit ∨ axis = .y → movement.IsSteadyOn axis) ∧
      (movement.kind = .orbit → movement.goal.x - movement.origin.x ≠ 0 →
        movement.goal.z - movement.origin.z ≠ 0 → ∀ t,
          (((movement.offsetAt t).x - movement.origin.x) /
              (movement.goal.x - movement.origin.x)) ^ 2 +
            (1 - ((movement.offsetAt t).z - movement.origin.z) /
              (movement.goal.z - movement.origin.z)) ^ 2 = 1) := by
  refine ⟨camera.at_eq, camera.on_positionAt, ?_, camera.isMoved exact, ?_⟩
  · intro movements perm t
    rw [at_eq, at_eq, positionAt_perm perm]
  · intro movement
    exact ⟨movement.offset_eq, fun axis straight => CameraMovement.isSteadyOn straight,
      fun orbit wide deep => CameraMovement.offsetAt_circle exact orbit wide deep⟩

@[reducible]
def circle : QuarterTurn Rat := ⟨fun p => 2 * p / (1 + p ^ 2), fun p => (1 - p ^ 2) / (1 + p ^ 2)⟩

theorem circle_isExact : @QuarterTurn.IsExact circle := by
  refine @QuarterTurn.IsExact.mk circle ?_ ?_ ?_ ?_ ?_
  · intro p
    have positive : (1 + p ^ 2 : Rat) ≠ 0 := by positivity
    change (2 * p / (1 + p ^ 2)) ^ 2 + ((1 - p ^ 2) / (1 + p ^ 2)) ^ 2 = 1
    field_simp
    ring
  all_goals norm_num [circle, QuarterTurn.sine, QuarterTurn.cosine]

def orbiting : CameraMovement Rat := ⟨.orbit, ⟨0, 0, 0⟩, ⟨150, 0, 150⟩, 0, 2, .linear⟩

def panning : CameraMovement Rat := ⟨.pan, ⟨0, 0, 0⟩, ⟨100, 0, 0⟩, 1 / 2, 9 / 2, .easeInOut⟩

def circling : Camera Rat := ⟨.flat, ⟨0, 0, 5⟩, ⟨0, 0, 0⟩, none, [panning, orbiting]⟩

theorem circling_isMoved :
    @QuarterTurn.IsExact circle ∧
      @Camera.at Rat _ circle circling 10 = .ok ⟨.flat, ⟨250, 0, 155⟩, ⟨0, 0, 0⟩, none⟩ ∧
      @Camera.at Rat _ circle { circling with movements := [orbiting, panning] } 10 =
        @Camera.at Rat _ circle circling 10 ∧
      ((@CameraMovement.offsetAt circle orbiting 1).x / 150) ^ 2 +
        (1 - (@CameraMovement.offsetAt circle orbiting 1).z / 150) ^ 2 = 1 := by
  obtain ⟨placed, -, unordered, moved, each⟩ := @Camera.at_isMoved circle circle_isExact circling
  have late (movement : CameraMovement Rat) (member : movement ∈ circling.movements) :
      movement.start < 10 ∧ movement.start + movement.duration ≤ 10 := by
    obtain rfl | rfl : movement = panning ∨ movement = orbiting := by simpa [circling] using member
    · norm_num [panning]
    · norm_num [orbiting]
  have goal : @Camera.positionAt circle circling 10 = ⟨250, 0, 155⟩ := by
    apply Vec3.ext_axes
    intro axis
    rw [@Camera.IsMoved.arrives circle circling moved 10 late]
    cases axis <;> norm_num [circling, panning, orbiting, Vec3.on]
  refine ⟨circle_isExact, ?_, unordered _ (List.Perm.swap _ _ _) 10, ?_⟩
  · rw [placed, goal]
    rfl
  · have ellipse := (each orbiting).2.2 rfl (by norm_num [orbiting]) (by norm_num [orbiting]) 1
    simpa [orbiting] using ellipse

end StillMotion
