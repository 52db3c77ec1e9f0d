import StillMotion.Proofs.Direction.Length
import StillMotion.Proofs.Timeline.Extent
import StillMotion.Scene.CameraState

/-!
# Synthesized timelines within their clips

Computed exactly, a synthesized timeline stays inside its own length whatever prompt, schema and
settings it comes from: short clips cut the fades, and all else is placed by fractions of the
length.  So there is never anything wrong with one.  The movement of the camera is the exception
that nothing looks at: its start is set, and a clip may be over by then.

In doubles every prompt has its timeline but those with a number that is too long to be read.
-/

namespace StillMotion.Director

open StillMotion.Number

/-! ## Outcomes -/

theorem direct_eq_ok_iff {α : Type} [Scalar α] {schema : VisualSchema} {prompt : String}
    {reference createdAt : Option String} {policy : DirectorPolicy α} {motion : MotionIR α} :
    direct schema prompt reference createdAt policy = .ok motion ↔
      ∃ length, lengthOf prompt policy = .ok length ∧
        motion = ⟨timelineOf schema (.ofPrompt prompt) length reference createdAt policy,
          (timelineOf schema (.ofPrompt prompt) length reference createdAt policy).validate,
          .ofPrompt prompt⟩ := by
  refine Except.bind_eq_ok.trans (exists_congr fun length => and_congr_right fun _ => ?_)
  rw [Except.ok.injEq, eq_comm]

/-! ## Fades -/

section Fades

variable {fade length : Quantity Rat}

theorem least_value (fade length : Quantity Rat) :
    (fade.least length).value = min fade.value length.value := by
  unfold Quantity.least
  split
  next shorter => exact (min_eq_right (le_of_lt shorter)).symm
  next longer => exact (min_eq_left (not_lt.mp longer)).symm

theorem greatest_sub {a b : Rat} (h : b ≤ a) : greatest (a - b) 0.0 = a - b := by
  have notNegative : ¬ a - b < 0.0 := by
    norm_num
    exact h
  rw [greatest, if_neg notNegative]

theorem fades_lieWithin {total : Rat} (nonneg : 0 ≤ fade.value) (cut : fade.value ≤ total) :
    ∀ effect ∈ fades fade total, LiesWithin total effect.start effect.duration := by
  intro effect member
  simp only [fades, List.mem_cons, List.not_mem_nil, or_false] at member
  rcases member with rfl | rfl
  · norm_num
    exact ⟨le_refl 0, nonneg, by linarith⟩
  · rw [greatest_sub cut]
    exact ⟨by linarith, nonneg, by linarith⟩

theorem fades_ends {total : Rat} (fade : Quantity Rat) (cut : fade.value ≤ total) :
    ∃ fadeIn fadeOut, fades fade total = [fadeIn, fadeOut] ∧
      fadeIn.id = "fade-in" ∧ fadeIn.start = 0 ∧ fadeIn.duration = fade.value ∧
      fadeOut.id = "fade-out" ∧ fadeOut.start + fadeOut.duration = total ∧
      fadeOut.duration = fade.value := by
  refine ⟨_, _, rfl, rfl, by norm_num, rfl, rfl, ?_, rfl⟩
  rw [greatest_sub cut]
  exact sub_add_cancel _ _

end Fades

/-! ## Parts of the timeline -/

section Parts

variable {total : Rat}

theorem throughout_liesWithin (nonneg : 0 ≤ total) (id : String) (kind : EffectKind)
    (parameters : List (String × Parameter Rat)) :
    LiesWithin total (throughout id kind parameters total).start
      (throughout id kind parameters total).duration := by
  norm_num [throughout]
  exact ⟨le_refl 0, nonneg, by linarith⟩

theorem styleEffects_lieWithin (nonneg : 0 ≤ total) (style : Style) :
    ∀ effect ∈ styleEffects style total, LiesWithin total effect.start effect.duration := by
  intro effect member
  cases style <;> simp only [styleEffects, List.mem_singleton, List.not_mem_nil] at member
  subst member
  exact throughout_liesWithin nonneg _ _ _

theorem moodEffects_lieWithin (nonneg : 0 ≤ total) (mood : Mood) :
    ∀ effect ∈ moodEffects mood total, LiesWithin total effect.start effect.duration := by
  intro effect member
  cases mood <;> simp only [moodEffects, List.mem_singleton, List.not_mem_nil] at member
  all_goals
    subst member
    exact throughout_liesWithin nonneg _ _ _

theorem part_liesWithin {fraction : Rat} (nonneg : 0 ≤ total) (low : 0 ≤ fraction)
    (high : fraction ≤ 1) : 0 ≤ total * fraction ∧ total * fraction ≤ total :=
  ⟨mul_nonneg nonneg low, mul_le_of_le_one_right nonneg high⟩

theorem pair_contained (first last : Keyframe Rat) (start : first.time = 0)
    (low : 0 ≤ last.time) (high : last.time ≤ total) :
    (∀ keyframe ∈ [first, last], 0 ≤ keyframe.time ∧ keyframe.time ≤ total) ∧
      [first, last].Pairwise fun a b => a.time ≤ b.time := by
  constructor
  · intro keyframe member
    simp only [List.mem_cons, List.not_mem_nil, or_false] at member
    rcases member with rfl | rfl
    · exact ⟨start.ge, by linarith⟩
    · exact ⟨low, high⟩
  · simp only [List.pairwise_pair]
    linarith

theorem mainKeyframes_contained (settings : DirectorSettings Rat) (nonneg : 0 ≤ total)
    (movement : Movement) :
    (∀ keyframe ∈ mainKeyframes movement total (.ofSettings settings),
      0 ≤ keyframe.time ∧ keyframe.time ≤ total) ∧
      (mainKeyframes movement total (.ofSettings settings)).Pairwise
        fun a b => a.time ≤ b.time := by
  have zoom : 0 ≤ total * (0.7 : Rat) ∧ total * (0.7 : Rat) ≤ total :=
    part_liesWithin nonneg (by norm_num) (by norm_num)
  have pan : 0 ≤ total * (0.6 : Rat) ∧ total * (0.6 : Rat) ≤ total :=
    part_liesWithin nonneg (by norm_num) (by norm_num)
  have start : (0.0 : Rat) = 0 := by norm_num
  cases movement
  case zoom => exact pair_contained _ _ start zoom.1 zoom.2
  case pan => exact pair_contained _ _ start pan.1 pan.2
  all_goals exact ⟨fun _ member => absurd member List.not_mem_nil, .nil⟩

theorem secondaryLayer_isContained (policy : DirectorPolicy Rat) (nonneg : 0 ≤ total) :
    (secondaryLayer total policy).IsContained total := by
  have start : (0.0 : Rat) = 0 := by norm_num
  obtain ⟨keyframes, ordered⟩ := pair_contained (placed 0.0 0.0 0.0 policy.secondaryOpacity.value)
    (placed total policy.parallaxOffset.value 0.0 policy.secondaryOpacity.value) start nonneg
    (le_refl total)
  refine ⟨?_, fun _ member => absurd member List.not_mem_nil, keyframes, ordered⟩
  exact ⟨start.ge, nonneg, by simp only [secondaryLayer, start, zero_add, le_refl]⟩

end Parts

/-! ## Synthesized timelines -/

section Synthesized

variable {settings : DirectorSettings Rat} {schema : VisualSchema} {prompt : String}
  {reference createdAt : Option String} {direction : CreativeDirection} {length : Quantity Rat}

theorem mainLayer_isContained (fades : 0 ≤ settings.fadeDuration) (lasts : 0 ≤ length.value) :
    (mainLayer length direction (.ofSettings settings)).IsContained length.value := by
  have start : (0.0 : Rat) = 0 := by norm_num
  have fade := least_value (.real settings.fadeDuration) length
  have keyframes := mainKeyframes_contained settings lasts direction.movement
  refine ⟨?_, ?_, keyframes.1, keyframes.2⟩
  · exact ⟨start.ge, lasts, by simp only [mainLayer, start, zero_add, le_refl]⟩
  · intro effect member
    rcases List.mem_append.mp member with fading | overlay
    · refine fades_lieWithin ?_ ?_ effect fading
      · exact fade.symm ▸ le_min fades lasts
      · exact fade.symm ▸ min_le_right _ _
    · cases mood : direction.mood <;>
        simp only [mood, List.mem_singleton, List.not_mem_nil] at overlay
      subst overlay
      exact throughout_liesWithin lasts _ _ _

theorem timelineOf_isContained (fades : 0 ≤ settings.fadeDuration) (lasts : 0 < length.value) :
    (timelineOf schema direction length reference createdAt (.ofSettings settings)).IsContained where
  duration_pos := lasts
  layers := by
    intro track trackMember layer layerMember
    obtain rfl := List.mem_singleton.mp trackMember
    rcases List.mem_cons.mp layerMember with rfl | later
    · exact mainLayer_isContained fades lasts.le
    · split at later
      · cases later
      · obtain rfl := List.mem_singleton.mp later
        exact secondaryLayer_isContained _ lasts.le
  globalEffects := by
    intro effect member
    rcases List.mem_append.mp member with style | mood
    · exact styleEffects_lieWithin lasts.le _ effect style
    · exact moodEffects_lieWithin lasts.le _ effect mood
  assets := by
    intro track trackMember layer layerMember id shown
    obtain rfl := List.mem_singleton.mp trackMember
    rcases List.mem_cons.mp layerMember with rfl | later
    · cases shown
      exact ⟨_, rfl⟩
    · split at later
      · cases later
      · obtain rfl := List.mem_singleton.mp later
        cases shown

/-- The only fades are those of the main layer: in from the start and out to the end. -/
theorem fades_timelineOf (policy : DirectorPolicy Rat) :
    (timelineOf schema direction length reference createdAt policy).fades =
      Director.fades (policy.fadeDuration.least length) length.value := by
  cases hidden : schema.elements.secondary.isEmpty <;> cases mood : direction.mood <;>
    simp [Timeline.fades, timelineOf, track, hidden, mainLayer, mood, secondaryLayer,
      Director.fades, throughout]

end Synthesized

/-- A synthesized timeline has a length, the usual one or one that the prompt asks for in whole
seconds up to the greatest length; all that it holds lies within, its only fades are one from the
start and one to the end, each cut to the length of the clip, and nothing is wrong with it. -/
theorem direct_isContained {settings : DirectorSettings Rat} (accepted : settings.IsAccepted)
    {schema : VisualSchema} {prompt : String} {reference createdAt : Option String}
    {motion : MotionIR Rat}
    (h : direct schema prompt reference createdAt (.ofSettings settings) = .ok motion) :
    motion.timeline.IsContained ∧
      (motion.timeline.metadata.duration = settings.defaultDuration ∨
        ∃ n : Nat, motion.timeline.metadata.duration = n ∧ 1 ≤ n ∧
          (n : Rat) ≤ settings.maxDuration) ∧
      (∃ fadeIn fadeOut, motion.timeline.fades = [fadeIn, fadeOut] ∧
        fadeIn.id = "fade-in" ∧ fadeIn.start = 0 ∧
        fadeIn.duration = min settings.fadeDuration motion.timeline.metadata.duration ∧
        fadeOut.id = "fade-out" ∧
        fadeOut.start + fadeOut.duration = motion.timeline.metadata.duration ∧
        fadeOut.duration = min settings.fadeDuration motion.timeline.metadata.duration) ∧
      motion.validation = ⟨true, []⟩ := by
  obtain ⟨length, measured, rfl⟩ := direct_eq_ok_iff.mp h
  have lasts := lengthOf_pos accepted measured
  have fades : 0 ≤ settings.fadeDuration := by
    have bound := accepted.fadeDuration
    norm_num at bound
    exact bound
  have contained : (timelineOf schema (.ofPrompt prompt) length reference createdAt
      (.ofSettings settings)).IsContained := timelineOf_isContained fades lasts
  refine ⟨contained, lengthOf_cases measured, ?_, contained.validate_eq nofun nofun⟩
  have fade := least_value (.real settings.fadeDuration) length
  obtain ⟨fadeIn, fadeOut, both, named, starts, lasting, named', ends, lasting'⟩ :=
    fades_ends ((Quantity.real settings.fadeDuration).least length)
      (fade.symm ▸ min_le_right _ length.value)
  exact ⟨fadeIn, fadeOut, (fades_timelineOf _).trans both, named, starts, lasting.trans fade,
    named', ends, lasting'.trans fade⟩

def lakeSchema : VisualSchema where
  elements := ⟨["boat"], ["mist"]⟩
  scene := ⟨"calm", "dusk", ["#102030"], ["water", "hills", "sky"]⟩
  composition := .standard
  visualAnalysis := .standard

def slowSettings : DirectorSettings Rat := ⟨5, 10, 100, 1 / 2, 640, 360, 24⟩

theorem slowSettings_isAccepted : slowSettings.IsAccepted := by
  constructor <;> norm_num [slowSettings]

theorem lakeSchema_isContained :
    slowSettings.IsAccepted ∧ ∃ motion : MotionIR Rat,
      direct lakeSchema "a 3 second zoom into shadow" none none (.ofSettings slowSettings) =
        .ok motion ∧
      motion.timeline.IsContained ∧
      (∃ fadeIn fadeOut, motion.timeline.fades = [fadeIn, fadeOut] ∧ fadeIn.start = 0 ∧
        fadeOut.start + fadeOut.duration = motion.timeline.metadata.duration) ∧
      motion.validation = ⟨true, []⟩ := by
  have measured : lengthOf "a 3 second zoom into shadow" (.ofSettings slowSettings) =
      .ok ⟨3, some 3⟩ := by
    rfl
  have made : direct lakeSchema "a 3 second zoom into shadow" none none
      (.ofSettings slowSettings) = .ok _ :=
    direct_eq_ok_iff.mpr ⟨_, measured, rfl⟩
  obtain ⟨contained, -, ⟨fadeIn, fadeOut, both, -, starts, -, -, ends, -⟩, valid⟩ :=
    direct_isContained slowSettings_isAccepted made
  exact ⟨slowSettings_isAccepted, _, made, contained, ⟨fadeIn, fadeOut, both, starts, ends⟩, valid⟩

/-! ## Camera movements -/

section Movements

/-- The camera is still, or it moves once, from the set start for what is left of the clip. -/
theorem movements_camera (direction : CreativeDirection) (schema : VisualSchema) (total : Rat)
    (policy : DirectorPolicy Rat) :
    direction.movement = .static ∧ (camera direction schema total policy).movements = [] ∨
    direction.movement ≠ .static ∧ ∃ movement,
      (camera direction schema total policy).movements = [movement] ∧
      movement.start = policy.movementStart.value ∧
      movement.duration = max (total - policy.movementStart.value) 0 := by
  by_cases still : direction.movement = .static
  · exact .inl ⟨still, by simp only [camera, still]⟩
  · have rest : greatest (total - policy.movementStart.value) 0.0 =
        max (total - policy.movementStart.value) 0 := by
      norm_num [greatest, max_def_lt]
    refine .inr ⟨still, ⟨movementKind direction.movement, Vec3.zero,
      targetOf policy direction.movement, policy.movementStart.value,
      greatest (total - policy.movementStart.value) 0.0, paceOf direction⟩, ?_, rfl, rest⟩
    cases moves : direction.movement
    case static => exact absurd moves still
    all_goals simp only [camera, moves]

variable {movement : CameraMovement Rat} {start total : Rat}

theorem liesWithin_rest_iff (starts : movement.start = start) (nonneg : 0 ≤ start)
    (lasts : movement.duration = max (total - start) 0) :
    LiesWithin total movement.start movement.duration ↔ start ≤ total := by
  rw [starts, lasts]
  constructor
  · intro within
    have rest := within.finish_le
    linarith [le_max_right (total - start) 0]
  · intro early
    rw [max_eq_left (by linarith)]
    exact ⟨nonneg, by linarith, by linarith⟩

theorem progress_rest_iff (starts : movement.start = start)
    (lasts : movement.duration = max (total - start) 0) :
    movement.progress total = .ok 1 ↔ start < total := by
  rw [CameraMovement.progress, starts, lasts]
  split
  next late =>
      norm_num
      exact late
  next early =>
      rw [not_le] at early
      have done :
          (max (total - start) 0 ≤ 0.0 || start + max (total - start) 0 ≤ total) = true := by
        rw [max_eq_left (by linarith)]
        norm_num
      rw [if_pos done]
      norm_num
      exact early

end Movements

/-- The camera moves, if at all, from the set start for what is left of the clip, and never back in
time.  The movement lies within the clip exactly when it starts before the clip is over, and it has
reached its goal at the end exactly when some of the clip is left for it: unlike a fade, its start
is not cut to the length of the clip. -/
theorem movements_lieWithin_iff {settings : DirectorSettings Rat} (accepted : settings.IsAccepted)
    {schema : VisualSchema} {prompt : String} {reference createdAt : Option String}
    {motion : MotionIR Rat}
    (h : direct schema prompt reference createdAt (.ofSettings settings) = .ok motion) :
    (∀ movement ∈ motion.timeline.camera.movements,
      0 ≤ movement.start ∧ 0 ≤ movement.duration) ∧
    ((∀ movement ∈ motion.timeline.camera.movements,
        LiesWithin motion.timeline.metadata.duration movement.start movement.duration) ↔
      motion.direction.movement = .static ∨
        settings.movementStart ≤ motion.timeline.metadata.duration) ∧
    ((∀ movement ∈ motion.timeline.camera.movements,
        movement.progress motion.timeline.metadata.duration = .ok 1) ↔
      motion.direction.movement = .static ∨
        settings.movementStart < motion.timeline.metadata.duration) := by
  obtain ⟨length, -, rfl⟩ := direct_eq_ok_iff.mp h
  have nonneg : 0 ≤ settings.movementStart := by
    have bound := accepted.movementStart
    norm_num at bound
    exact bound
  change (∀ movement ∈ (camera (.ofPrompt prompt) schema length.value _).movements, _) ∧
    ((∀ movement ∈ (camera (.ofPrompt prompt) schema length.value _).movements,
      LiesWithin length.value _ _) ↔ (CreativeDirection.ofPrompt prompt).movement = .static ∨
        _ ≤ length.value) ∧
    ((∀ movement ∈ (camera (.ofPrompt prompt) schema length.value _).movements,
      movement.progress length.value = _) ↔ (CreativeDirection.ofPrompt prompt).movement = .static ∨
        _ < length.value)
  rcases movements_camera (.ofPrompt prompt) schema length.value (.ofSettings settings) with
    ⟨still, none⟩ | ⟨moves, movement, one, starts, lasts⟩
  · simp only [none, still, List.not_mem_nil, false_implies, implies_true, true_or, and_self]
  · simp only [one, moves, List.mem_singleton, forall_eq, false_or,
      liesWithin_rest_iff starts nonneg lasts, progress_rest_iff starts lasts]
    exact ⟨⟨starts.symm ▸ nonneg, lasts.symm ▸ le_max_right _ _⟩, Iff.rfl, Iff.rfl⟩

def patientSettings : DirectorSettings Rat := ⟨5, 30, 1 / 2, 2, 640, 360, 24⟩

theorem patientSettings_isAccepted : patientSettings.IsAccepted := by
  constructor <;> norm_num [patientSettings]

theorem patientSettings_movements_lieWithin :
    patientSettings.IsAccepted ∧ ∃ motion : MotionIR Rat,
      direct lakeSchema "a 3 second zoom" none none (.ofSettings patientSettings) = .ok motion ∧
      (∀ movement ∈ motion.timeline.camera.movements,
        LiesWithin motion.timeline.metadata.duration movement.start movement.duration ∧
        movement.progress motion.timeline.metadata.duration = .ok 1) := by
  have measured : lengthOf "a 3 second zoom" (.ofSettings patientSettings) = .ok ⟨3, some 3⟩ := by
    rfl
  have made : direct lakeSchema "a 3 second zoom" none none (.ofSettings patientSettings) =
      .ok _ :=
    direct_eq_ok_iff.mpr ⟨_, measured, rfl⟩
  obtain ⟨-, within, done⟩ := movements_lieWithin_iff patientSettings_isAccepted made
  have early : (2 : Rat) < 3 := by norm_num
  exact ⟨patientSettings_isAccepted, _, made, fun movement member =>
    ⟨within.mpr (.inr early.le) movement member, done.mpr (.inr early) movement member⟩⟩

/-- A clip may be over before the camera starts to move. -/
theorem not_all_movements_lieWithin :
    ¬ ∀ settings : DirectorSettings Rat, settings.IsAccepted →
      ∀ (schema : VisualSchema) (prompt : String) (reference createdAt : Option String)
        (motion : MotionIR Rat),
        direct schema prompt reference createdAt (.ofSettings settings) = .ok motion →
        ∀ movement ∈ motion.timeline.camera.movements,
          0 ≤ movement.start ∧ 0 ≤ movement.duration ∧
          movement.start + movement.duration ≤ motion.timeline.metadata.duration := by
  intro always
  have measured : lengthOf "zoom 1 second" (.ofSettings patientSettings) = .ok ⟨1, some 1⟩ := by
    rfl
  have moves : (CreativeDirection.ofPrompt "zoom 1 second").movement = .zoom := by
    decide +kernel
  have within := always patientSettings patientSettings_isAccepted lakeSchema "zoom 1 second" none
    none _ (direct_eq_ok_iff.mpr ⟨_, measured, rfl⟩)
  rcases movements_camera (.ofPrompt "zoom 1 second") lakeSchema 1
    (.ofSettings patientSettings) with ⟨still, -⟩ | ⟨-, movement, one, starts, lasts⟩
  · rw [moves] at still
    cases still
  · have finish := (within movement (one ▸ List.mem_singleton_self movement)).2.2
    rw [starts, lasts] at finish
    norm_num [DirectorPolicy.ofSettings, patientSettings, Quantity.real, timelineOf, metadata]
      at finish

/-! ## Synthesis from any prompt -/

section Totality

open Duration

/-- A prompt gets its timeline, whatever else is asked of it, unless extraction stops at a number
with too many digits to be read; one without such numbers never does.  What is wrong with the
timeline is told beside it, and a prompt that asks for no duration in range gets the usual one. -/
theorem exists_direct_iff {settings : DirectorSettings Float} (finite : settings.IsFinite)
    (schema : VisualSchema) (prompt : String) (reference createdAt : Option String) :
    ((∃ motion, direct schema prompt reference createdAt (.ofSettings settings) = .ok motion) ↔
      ¬ IsStopped (IsUpTo (.float settings.maxDuration)) prompt.toList wordings) ∧
    ((∀ before digits after, IsNumber prompt.toList before digits after →
        digits.length ≤ digitLimit) →
      ∃ motion, direct schema prompt reference createdAt (.ofSettings settings) = .ok motion) ∧
    (∀ motion, direct schema prompt reference createdAt (.ofSettings settings) = .ok motion →
      motion.validation = motion.timeline.validate ∧
      ((∀ wording ∈ wordings, ∀ n,
        ¬ wording.Asks (IsUpTo (.float settings.maxDuration)) prompt.toList n) →
        motion.timeline.metadata.duration = settings.defaultDuration)) ∧
    ∀ fault, direct schema prompt reference createdAt (.ofSettings settings) = .error fault →
      ∃ count, fault = .numeralTooLong count ∧ digitLimit < count := by
  rcases lengthOf_outcome finite.maxDuration prompt with
    ⟨goes, length, measured, usual⟩ | ⟨stops, count, many, failed⟩
  · have made : direct schema prompt reference createdAt (.ofSettings settings) = .ok _ :=
      direct_eq_ok_iff.mpr ⟨length, measured, rfl⟩
    refine ⟨iff_of_true ⟨_, made⟩ goes, fun _ => ⟨_, made⟩, ?_, ?_⟩
    · rintro motion same
      rw [made] at same
      cases same
      exact ⟨rfl, fun nothing => by rw [usual nothing]; rfl⟩
    · rintro fault other
      rw [made] at other
      cases other
  · have stopped : direct schema prompt reference createdAt (.ofSettings settings) =
        .error (.numeralTooLong count) := by
      rw [direct, failed]
      rfl
    have never : ¬ ∃ motion,
        direct schema prompt reference createdAt (.ofSettings settings) = .ok motion := by
      rintro ⟨motion, made⟩
      rw [stopped] at made
      cases made
    refine ⟨iff_of_false never (not_not.mpr stops),
      fun short => absurd stops (not_isStopped_of_short short),
      fun motion made => absurd ⟨motion, made⟩ never, ?_⟩
    rintro fault same
    rw [stopped] at same
    cases same
    exact ⟨count, rfl, many⟩

theorem lateMention_exists_direct :
    DirectorSettings.standard.IsFinite ∧
    ∃ motion, direct lakeSchema lateMention none none (.ofSettings .standard) = .ok motion :=
  ⟨DirectorSettings.standard_isFinite,
    (exists_direct_iff DirectorSettings.standard_isFinite lakeSchema lateMention none none).2.1
    lateMention_isShort⟩

def onesPrompt (count : Nat) : String :=
  String.ofList (List.replicate count '1' ++ " seconds".toList)

theorem leftmost?_onesPrompt {count : Nat} (some_ : 0 < count) :
    Wording.seconds.leftmost? (onesPrompt count).toList = some (List.replicate count '1') := by
  have ones : ∀ c ∈ List.replicate count '1', Text.isDigit c = true := by
    intro c member
    rw [List.eq_of_mem_replicate member]
    decide
  have run : digitRun? (onesPrompt count).toList =
      some (List.replicate count '1', " seconds".toList) := by
    have digits : (onesPrompt count).toList.takeWhile Text.isDigit = List.replicate count '1' := by
      rw [onesPrompt, String.toList_ofList, List.takeWhile_append_of_pos ones]
      exact List.append_nil _
    rw [digitRun?, digits, onesPrompt, String.toList_ofList, List.dropWhile_append_of_pos ones]
    simp only [List.isEmpty_iff, List.replicate_eq_nil_iff, some_.ne', if_false]
    rfl
  have read : quantity? "second".toList (onesPrompt count).toList =
      some (List.replicate count '1') := by
    rw [quantity?, run]
    rfl
  rw [renders_seconds.leftmost?_eq, findSome?_tails_of_eq_some read]

theorem not_isShort_onesPrompt {count : Nat} (many : digitLimit < count) :
    ¬ Wording.seconds.IsShort (onesPrompt count).toList := by
  intro short
  have few := short _ (leftmost?_onesPrompt (Nat.zero_lt_of_lt many))
  rw [List.length_replicate] at few
  exact few.not_gt many

/-- A prompt may ask for more seconds than can be read. -/
theorem not_all_exists_direct :
    ¬ ∀ settings : DirectorSettings Float, settings.IsFinite → settings.IsAccepted →
      ∀ (schema : VisualSchema) (prompt : String) (reference createdAt : Option String),
        ∃ motion, direct schema prompt reference createdAt (.ofSettings settings) = .ok motion := by
  intro always
  obtain ⟨motion, made⟩ := always .standard DirectorSettings.standard_isFinite
    DirectorSettings.standard_isAccepted lakeSchema (onesPrompt 4301) none none
  obtain ⟨length, measured, -⟩ := direct_eq_ok_iff.mp made
  rcases lengthOf_outcome DirectorSettings.standard_isFinite.maxDuration (onesPrompt 4301) with
    ⟨goes, -⟩ | ⟨-, count, -, failed⟩
  · exact goes ⟨[], _, _, rfl, not_isShort_onesPrompt (by decide), nofun⟩
  · rw [failed] at measured
    cases measured

end Totality

end StillMotion.Director
