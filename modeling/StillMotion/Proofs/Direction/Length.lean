import Mathlib.Tactic.Linarith
import Mathlib.Tactic.NormNum.OfScientific
import StillMotion.Direction.Director
import StillMotion.Proofs.Config.Accepted
import StillMotion.Proofs.Direction.Mention

/-!
# The length of a clip

A prompt asks for a length by a whole number of seconds that is in range, and any other prompt
gets the usual length.  By settings that a configuration may hold, a clip has a length.  In
doubles there is one more way: a number with too many digits is not read, and the clip has none.
-/

namespace StillMotion

open StillMotion.Number

/-! ## Settings -/

/-- What a configuration asks of the numbers of the director. -/
structure DirectorSettings.IsAccepted {α : Type} [Scalar α] (settings : DirectorSettings α) :
    Prop where
  defaultDuration : 0.0 < settings.defaultDuration
  maxDuration : 0.0 < settings.maxDuration
  fadeDuration : 0.0 ≤ settings.fadeDuration
  movementStart : 0.0 ≤ settings.movementStart
  width : 1 ≤ settings.width
  height : 1 ≤ settings.height
  fps : 1 ≤ settings.fps

structure DirectorSettings.IsFinite (settings : DirectorSettings Float) : Prop where
  defaultDuration : isFinite settings.defaultDuration = true
  maxDuration : isFinite settings.maxDuration = true
  fadeDuration : isFinite settings.fadeDuration = true
  movementStart : isFinite settings.movementStart = true

theorem DirectorSettings.standard_isAccepted : standard.IsAccepted := by
  constructor <;> decide

theorem DirectorSettings.standard_isFinite : standard.IsFinite := by
  constructor <;> decide

theorem pos_of_positive {x : Float} (h : positive x = none) : 0.0 < x := by
  unfold positive at h
  split at h
  next bound => exact bound
  next => cases h

theorem nonneg_of_nonNegative {x : Float} (h : nonNegative x = none) : 0.0 ≤ x := by
  unfold nonNegative at h
  split at h
  next bound => exact bound
  next => cases h

open Fields in
theorem DirectorSettings.isAccepted_of_decode :
    DirectorSettings.codec.Ensures DirectorSettings.IsAccepted := by
  have scalar {check : Float → Option IssueKind} {P : Float → Prop} {key : String} {a : Float}
      (checked : ∀ x, check x = none → P x) (standard : P a) :
      (Field.optional key (Codec.real.refine check) a).Ensures P :=
    Field.ensures (Codec.ensures_refine checked) (by rintro _ ⟨⟩; exact standard)
  have whole {key : String} {n : Int} (standard : 1 ≤ n) :
      (Field.optional key (Codec.int.refine (atLeast 1)) n).Ensures fun n => 1 ≤ n :=
    Field.ensures (Codec.ensures_refine fun _ => le_of_atLeast) (by rintro _ ⟨⟩; exact standard)
  refine Codec.ensures_record ?_
  refine ensures_field (whole (by decide)) (ensures_field (whole (by decide))
    (ensures_field (whole (by decide)) ?_))
  refine ensures_field (scalar (fun _ => nonneg_of_nonNegative) (by decide))
    (ensures_field (scalar (fun _ => nonneg_of_nonNegative) (by decide)) ?_)
  refine ensures_field (scalar (fun _ => pos_of_positive) (by decide))
    (ensures_field (scalar (fun _ => pos_of_positive) (by decide)) (ensures_of ?_))
  exact fun _ a _ b _ c _ d _ e _ f _ g => ⟨a, b, c, d, e, f, g⟩

/-! ## Lengths in prompts -/

theorem Duration.inRange_of_extractWith {inRange : Nat → Except Fault Bool} {prompt : List Char}
    {patterns : List (List Char → Option (List Char))} {n : Nat}
    (h : extractWith inRange prompt patterns = .ok (some n)) :
    n ≠ 0 ∧ inRange n = .ok true := by
  induction patterns with
  | nil => cases h
  | cons pattern rest ih =>
      unfold extractWith at h
      split at h
      next => exact ih h
      next digits matched =>
          obtain ⟨value, -, h⟩ := Except.bind_eq_ok.mp h
          by_cases nothing : value = 0
          · simp only [nothing, BEq.rfl, if_true] at h
            exact ih h
          · simp only [beq_iff_eq, nothing, if_false] at h
            obtain ⟨fits, judged, h⟩ := Except.bind_eq_ok.mp h
            cases fits with
            | false => exact ih h
            | true =>
                cases h
                exact ⟨nothing, judged⟩

namespace Director

section Exact

variable {settings : DirectorSettings Rat} {prompt : String} {length : Quantity Rat}

theorem lengthOf_cases (h : lengthOf prompt (.ofSettings settings) = .ok length) :
    length.value = settings.defaultDuration ∨
      ∃ n : Nat, length.value = n ∧ 1 ≤ n ∧ (n : Rat) ≤ settings.maxDuration := by
  obtain ⟨found, extracted, h⟩ := Except.bind_eq_ok.mp h
  cases found with
  | none =>
      cases h
      exact .inl rfl
  | some n =>
      cases h
      obtain ⟨nonzero, inRange⟩ := Duration.inRange_of_extractWith extracted
      refine .inr ⟨n, Rat.intCast_natCast n, Nat.one_le_iff_ne_zero.mpr nonzero, ?_⟩
      by_contra beyond
      have above : ¬ ((n : Int) : Rat) < settings.maxDuration ∧
          ¬ ((n : Int) : Rat) = settings.maxDuration := by
        rw [Rat.intCast_natCast]
        exact ⟨fun less => beyond less.le, fun same => beyond same.le⟩
      have outside : Scalar.compareInt? (n : Int) settings.maxDuration = some .gt := by
        change some (if _ then _ else if _ then _ else _) = _
        rw [if_neg above.1, if_neg above.2]
      simp [Quantity.bounds, DirectorPolicy.ofSettings, Quantity.real, outside] at inRange

theorem lengthOf_pos (accepted : settings.IsAccepted)
    (h : lengthOf prompt (.ofSettings settings) = .ok length) : 0 < length.value := by
  rcases lengthOf_cases h with usual | ⟨n, asked, positive, _⟩
  · rw [usual]
    have bound := accepted.defaultDuration
    norm_num at bound
    exact bound
  · rw [asked]
    exact Nat.cast_pos.mpr positive

end Exact

/-! ## Lengths in doubles -/

section Doubles

open Duration

variable {settings : DirectorSettings Float} {prompt : String}

theorem bounds_iff (settings : DirectorSettings Float) (n : Nat) :
    (DirectorPolicy.ofSettings settings).maxDuration.bounds n = true ↔
      IsUpTo (.float settings.maxDuration) n := by
  have compared : Scalar.compareInt? (n : Int) settings.maxDuration =
      compareInt? n settings.maxDuration := rfl
  rw [← compareInt?_admits_iff]
  simp only [Quantity.bounds, DirectorPolicy.ofSettings, Quantity.real, compared]
  cases compareInt? n settings.maxDuration with
  | none => simp
  | some o => cases o <;> simp [Comparison.admits]

theorem exists_ofInt?_of_isUpTo {n : Nat} {x : Float} (finite : isFinite x = true)
    (bounded : IsUpTo (.float x) n) :
    ∃ length : Quantity Float, Quantity.ofInt? n = .ok length := by
  rw [← compareInt?_admits_iff] at bounded
  have atMost : compareInt? n x ≠ some .gt := by
    intro above
    simp [above, Comparison.admits] at bounded
  obtain ⟨y, nearest⟩ := exists_ofInt?_of_compareInt? finite atMost
  have scalar : (Scalar.ofInt? n : Except ArithmeticFault Float) = .ok y := by
    change Double.ofInt? n = _
    rw [Double.ofInt?, nearest]
  exact ⟨⟨y, some n⟩, by rw [Quantity.ofInt?, scalar]; rfl⟩

theorem lengthOf_of_extract_none {α : Type} [Scalar α] {policy : DirectorPolicy α}
    (nothing : extract (fun n => policy.maxDuration.bounds n) prompt = .ok none) :
    lengthOf prompt policy = .ok policy.defaultDuration := by
  rw [lengthOf, nothing]
  rfl

/-- A clip has a length unless extraction stops at a number with too many digits: up to a finite
limit every number of seconds is a double. -/
theorem lengthOf_outcome (finite : isFinite settings.maxDuration = true) (prompt : String) :
    (¬ IsStopped (IsUpTo (.float settings.maxDuration)) prompt.toList wordings ∧
      ∃ length, lengthOf prompt (.ofSettings settings) = .ok length ∧
        ((∀ wording ∈ wordings, ∀ n,
          ¬ wording.Asks (IsUpTo (.float settings.maxDuration)) prompt.toList n) →
          length = .real settings.defaultDuration)) ∨
    (IsStopped (IsUpTo (.float settings.maxDuration)) prompt.toList wordings ∧
      ∃ count, digitLimit < count ∧
        lengthOf prompt (.ofSettings settings) = .error (.numeralTooLong count)) := by
  have outcome := extractWith_outcome
    (fun n => (DirectorPolicy.ofSettings settings).maxDuration.bounds n) prompt.toList
    patterns_render
  have first {n : Nat} := findSome?_asked?_eq_some_iff (n := n)
    (fun n => (DirectorPolicy.ofSettings settings).maxDuration.bounds n) prompt.toList wordings
  simp only [bounds_iff] at outcome first
  rcases outcome with ⟨goes, extracted⟩ | ⟨stops, count, many, failed⟩
  · refine .inl ⟨goes, ?_⟩
    rcases found : wordings.findSome? _ with _ | n
    · rw [found] at extracted
      exact ⟨_, lengthOf_of_extract_none extracted, fun _ => rfl⟩
    · rw [found] at extracted
      obtain ⟨earlier, wording, later, split, asks, -⟩ := first.mp found
      obtain ⟨length, held⟩ := exists_ofInt?_of_isUpTo finite asks.fits
      refine ⟨length, ?_, fun nothing => absurd asks (nothing wording (by simp [split]) n)⟩
      rw [lengthOf, extract, extracted, Except.ok_bind]
      simp only [held]
  · refine .inr ⟨stops, count, many, ?_⟩
    rw [lengthOf, extract, failed]
    rfl

end Doubles

end Director

end StillMotion
