import StillMotion.Direction.GivenPolicy
import StillMotion.Proofs.Direction.Extent
import StillMotion.Scene.Identity

/-!
# What a timeline depends on

Of a prompt the director uses the duration that it asks for and the style, the movement and the mood
that it sets.  Of a schema it uses the colors, whether there are secondary elements, and whether
there are more than two layers of depth.  Prompts and schemas that have these facts in common may
differ in everything else, the effects that a prompt asks for among it: their timelines are the same.

Prompts that differ in the case of letters have all facts in common, and the whole direction.
-/

namespace StillMotion

open StillMotion.Number StillMotion.Text

/-! ## Letter case -/

/-- A reader of texts that makes no difference between a capital letter and its small one. -/
def Text.IgnoresCase {β : Type} (read : List Char → β) : Prop :=
  ∀ cs : List Char, read (cs.map asciiLower) = read cs

namespace Duration

variable {accepts : Char → Bool}

theorem isDigit_asciiLower (c : Char) : isDigit (asciiLower c) = isDigit c :=
  apply_asciiLower (by decide) c

theorem isBlank_asciiLower (c : Char) : isBlank (asciiLower c) = isBlank c :=
  apply_asciiLower (by decide) c

theorem isGap_asciiLower (c : Char) : isGap (asciiLower c) = isGap c :=
  apply_asciiLower (by decide) c

theorem isLetter_asciiLower (letter c : Char) :
    isLetter letter (asciiLower c) = isLetter letter c := by
  have same := apply_asciiLower (f := fun c => (asciiLower c, c.toNat == 0x17F, c.toNat == 0x130,
    c.toNat == 0x131)) (by decide) c
  simp only [Prod.mk.injEq] at same
  simp only [isLetter, same]

theorem takeWhile_asciiLower (ignores : ∀ c, accepts (asciiLower c) = accepts c) (cs : List Char) :
    (cs.map asciiLower).takeWhile accepts = (cs.takeWhile accepts).map asciiLower := by
  rw [List.takeWhile_map, Function.comp_def, funext ignores]

theorem dropWhile_asciiLower (ignores : ∀ c, accepts (asciiLower c) = accepts c) (cs : List Char) :
    (cs.map asciiLower).dropWhile accepts = (cs.dropWhile accepts).map asciiLower := by
  rw [List.dropWhile_map, Function.comp_def, funext ignores]

theorem trimLeft_asciiLower (cs : List Char) :
    trimLeft (cs.map asciiLower) = (trimLeft cs).map asciiLower :=
  dropWhile_asciiLower isBlank_asciiLower cs

/-- Digits are no letters, so a run of them is read as it is. -/
theorem digitRun?_asciiLower (cs : List Char) :
    digitRun? (cs.map asciiLower) =
      (digitRun? cs).map fun run => (run.1, run.2.map asciiLower) := by
  have digits : (cs.takeWhile isDigit).map asciiLower = cs.takeWhile isDigit := by
    conv_rhs => rw [← List.map_id (cs.takeWhile isDigit)]
    refine List.map_congr_left fun c member => ?_
    exact asciiLower_of_isDigit (List.mem_takeWhile_imp member)
  rw [digitRun?, digitRun?, takeWhile_asciiLower isDigit_asciiLower,
    dropWhile_asciiLower isDigit_asciiLower, digits]
  split <;> rfl

theorem dropWord?_asciiLower (word cs : List Char) :
    dropWord? word (cs.map asciiLower) = (dropWord? word cs).map (List.map asciiLower) := by
  induction word generalizing cs with
  | nil => rfl
  | cons letter word ih =>
      cases cs with
      | nil => rfl
      | cons c cs =>
          rw [List.map_cons, dropWord?, dropWord?, isLetter_asciiLower, ih]
          split <;> rfl

theorem quantity?_ignoresCase (unit : List Char) : IgnoresCase (quantity? unit) := by
  intro cs
  rw [quantity?, quantity?, digitRun?_asciiLower]
  cases digitRun? cs with
  | none => rfl
  | some run =>
      simp only [Option.map_some, Option.bind_eq_bind, Option.bind_some, trimLeft_asciiLower,
        dropWord?_asciiLower, Option.bind_map, Function.comp_def]

theorem labelled?_ignoresCase : IgnoresCase labelled? := by
  intro cs
  rw [labelled?, labelled?, dropWord?_asciiLower]
  cases dropWord? "duration".toList cs with
  | none => rfl
  | some rest =>
      cases rest with
      | nil => rfl
      | cons c rest =>
          change (if isGap (asciiLower c) then
              (digitRun? (((c :: rest).map asciiLower).dropWhile isGap)).map (·.1) else none) =
            if isGap c then (digitRun? ((c :: rest).dropWhile isGap)).map (·.1) else none
          rw [isGap_asciiLower, dropWhile_asciiLower isGap_asciiLower, digitRun?_asciiLower,
            Option.map_map, Function.comp_def]

theorem introduced?_ignoresCase : IgnoresCase introduced? := by
  intro cs
  rw [introduced?, introduced?, dropWord?_asciiLower]
  cases dropWord? "for".toList cs with
  | none => rfl
  | some rest =>
      cases rest with
      | nil => rfl
      | cons c rest =>
          change (if isBlank (asciiLower c) then
              quantity? "second".toList (trimLeft ((c :: rest).map asciiLower)) else none) =
            if isBlank c then quantity? "second".toList (trimLeft (c :: rest)) else none
          rw [isBlank_asciiLower, trimLeft_asciiLower, quantity?_ignoresCase]

theorem patterns_ignoreCase : ∀ pattern ∈ patterns, IgnoresCase pattern := by
  simp only [patterns, List.forall_mem_cons]
  exact ⟨quantity?_ignoresCase _, quantity?_ignoresCase _, labelled?_ignoresCase,
    introduced?_ignoresCase, nofun⟩

theorem firstMatch_ignoresCase {pattern : List Char → Option (List Char)}
    (ignores : IgnoresCase pattern) (afterDigit : Bool) :
    IgnoresCase (firstMatch pattern afterDigit) := by
  intro cs
  induction cs generalizing afterDigit with
  | nil => rfl
  | cons c cs ih =>
      rw [List.map_cons, firstMatch, firstMatch, isDigit_asciiLower, ih, ← List.map_cons, ignores]

theorem extractWith_ignoresCase (inRange : Nat → Except Fault Bool)
    {patterns : List (List Char → Option (List Char))}
    (each : ∀ pattern ∈ patterns, IgnoresCase pattern) :
    IgnoresCase fun prompt => extractWith inRange prompt patterns := by
  intro cs
  induction patterns with
  | nil => rfl
  | cons pattern patterns ih =>
      rw [List.forall_mem_cons] at each
      simp only [extractWith, firstMatch_ignoresCase each.1 false cs, ih each.2]

theorem extractWith_of_lowerAscii_eq (inRange : Nat → Except Fault Bool) {prompt recased : String}
    (same : lowerAscii recased = lowerAscii prompt) :
    extractWith inRange recased.toList patterns = extractWith inRange prompt.toList patterns := by
  have lowered (s : String) : extractWith inRange (lowerAscii s).toList patterns =
      extractWith inRange s.toList patterns := by
    rw [lowerAscii, String.toList_ofList]
    exact extractWith_ignoresCase inRange patterns_ignoreCase s.toList
  rw [← lowered, same, lowered]

end Duration

theorem CreativeDirection.ofPrompt_of_lowerAscii_eq {prompt recased : String}
    (same : lowerAscii recased = lowerAscii prompt) : ofPrompt recased = ofPrompt prompt := by
  rw [ofPrompt, ← fold_lowerAscii, same, fold_lowerAscii, ← ofPrompt]

/-! ## Facts -/

/-- Two directions that differ in their effects at most. -/
structure CreativeDirection.GuidesLike (direction other : CreativeDirection) : Prop where
  style : direction.style = other.style
  movement : direction.movement = other.movement
  mood : direction.mood = other.mood

/-- Two schemas that a timeline does not tell apart. -/
structure VisualSchema.LooksLike (schema other : VisualSchema) : Prop where
  colors : schema.scene.colors = other.scene.colors
  secondary : schema.elements.secondary = [] ↔ other.elements.secondary = []
  depth : 2 < schema.scene.depthLayers.length ↔ 2 < other.scene.depthLayers.length

def AnyPolicy.asked (policy : AnyPolicy) (prompt : String) : Except Fault (Option Nat) :=
  match policy with
  | .proper policy => Duration.extract (fun n => policy.maxDuration.bounds n) prompt
  | .given policy => Duration.extractUpTo (policy.number "max_duration") prompt

theorem CreativeDirection.GuidesLike.exists_eq {direction other : CreativeDirection}
    (guides : direction.GuidesLike other) :
    ∃ effects, other = { direction with effects := effects } := by
  obtain ⟨style, movement, mood, effects⟩ := other
  obtain ⟨rfl, rfl, rfl⟩ := guides
  exact ⟨effects, rfl⟩

theorem VisualSchema.LooksLike.isEmpty_secondary {schema other : VisualSchema}
    (looks : schema.LooksLike other) :
    schema.elements.secondary.isEmpty = other.elements.secondary.isEmpty := by
  rw [Bool.eq_iff_iff, List.isEmpty_iff, List.isEmpty_iff]
  exact looks.secondary

namespace Director

section Builders

variable {α : Type} [Scalar α] {schema other : VisualSchema} (looks : schema.LooksLike other)
  (direction : CreativeDirection) (effects : List String)
include looks

theorem camera_congr (duration : α) (policy : DirectorPolicy α) :
    camera direction schema duration policy =
      camera { direction with effects } other duration policy := by
  simp only [camera, looks.depth, paceOf]

theorem timelineOf_congr (length : Quantity α) (reference createdAt : Option String)
    (policy : DirectorPolicy α) :
    timelineOf schema direction length reference createdAt policy =
      timelineOf other { direction with effects } length reference createdAt policy := by
  simp only [timelineOf, metadata, asset, track, mainLayer, looks.colors, looks.isEmpty_secondary,
    camera_congr looks direction effects]

end Builders

def synthesized (outcome : Except Fault (MotionIR Float)) :
    Option (Timeline Float × ValidationResult) :=
  outcome.toOption.map fun motion => (motion.timeline, motion.validation)

theorem synthesized_bind_congr {β : Type} {first other : Except Fault β}
    {next next' : β → Except Fault (MotionIR Float)} (same : first.toOption = other.toOption)
    (each : ∀ b, synthesized (next b) = synthesized (next' b)) :
    synthesized (first >>= next) = synthesized (other >>= next') := by
  simp only [synthesized, Except.toOption_bind, Option.map_bind, same] at each ⊢
  exact congrArg _ (funext each)

theorem outcomes_of_synthesized_eq {outcome outcome' : Except Fault (MotionIR Float)}
    (same : synthesized outcome = synthesized outcome') :
    ((∃ fault, outcome = .error fault) ∧ ∃ fault, outcome' = .error fault) ∨
    ∃ motion motion', outcome = .ok motion ∧ outcome' = .ok motion' ∧
      motion.timeline = motion'.timeline ∧ motion.validation = motion'.validation := by
  rcases outcome with fault | motion <;> rcases outcome' with fault' | motion'
  · exact .inl ⟨⟨fault, rfl⟩, fault', rfl⟩
  · cases same
  · cases same
  · simp only [synthesized, Except.toOption, Option.map_some, Option.some.injEq,
      Prod.mk.injEq] at same
    exact .inr ⟨motion, motion', rfl, rfl, same⟩

section Synthesis

variable {schema other : VisualSchema} {prompt prompt' : String} (looks : schema.LooksLike other)
  (guides : (CreativeDirection.ofPrompt prompt).GuidesLike (.ofPrompt prompt'))
  (reference createdAt : Option String)
include looks guides

theorem direct_congr (policy : DirectorPolicy Float)
    (asked : (AnyPolicy.asked (.proper policy) prompt).toOption =
      (AnyPolicy.asked (.proper policy) prompt').toOption) :
    synthesized (direct schema prompt reference createdAt policy) =
      synthesized (direct other prompt' reference createdAt policy) := by
  obtain ⟨effects, same⟩ := guides.exists_eq
  have lengths : (lengthOf prompt policy).toOption = (lengthOf prompt' policy).toOption := by
    change (Duration.extract _ prompt).toOption = (Duration.extract _ prompt').toOption at asked
    rw [lengthOf, lengthOf, Except.toOption_bind, Except.toOption_bind, asked]
  refine synthesized_bind_congr lengths fun length => ?_
  -- The directions differ in their effects at most, and these are kept beside the timeline only.
  dsimp only
  rw [same, timelineOf_congr looks _ effects]
  rfl

theorem directBy_congr (policy : GivenPolicy)
    (asked : (AnyPolicy.asked (.given policy) prompt).toOption =
      (AnyPolicy.asked (.given policy) prompt').toOption) :
    synthesized (directBy policy schema prompt reference createdAt) =
      synthesized (directBy policy other prompt' reference createdAt) := by
  obtain ⟨effects, same⟩ := guides.exists_eq
  refine synthesized_bind_congr asked fun asked => ?_
  dsimp only
  rw [same, looks.colors, looks.isEmpty_secondary]
  simp only [camera_congr looks _ effects]
  cases asked
  all_goals
    refine synthesized_bind_congr rfl fun length => ?_
    refine synthesized_bind_congr rfl fun metadata => ?_
    refine synthesized_bind_congr rfl fun movements => ?_
    refine synthesized_bind_congr rfl fun main => ?_
    split
    next => rfl
    next => exact synthesized_bind_congr rfl fun secondary => rfl

end Synthesis

end Director

namespace AnyPolicy

open Director

variable {schema other : VisualSchema} {prompt prompt' recased : String}

theorem synthesized_direct_congr (policy : AnyPolicy) (reference createdAt : Option String)
    (asked : (policy.asked prompt).toOption = (policy.asked prompt').toOption)
    (guides : (CreativeDirection.ofPrompt prompt).GuidesLike (.ofPrompt prompt'))
    (looks : schema.LooksLike other) :
    synthesized (policy.direct schema prompt reference createdAt) =
      synthesized (policy.direct other prompt' reference createdAt) := by
  cases policy with
  | proper policy => exact direct_congr looks guides reference createdAt policy asked
  | given policy => exact directBy_congr looks guides reference createdAt policy asked

theorem direct_of_lowerAscii_eq (policy : AnyPolicy) (schema : VisualSchema)
    (reference createdAt : Option String) (same : lowerAscii recased = lowerAscii prompt) :
    policy.direct schema recased reference createdAt =
      policy.direct schema prompt reference createdAt := by
  have directions := CreativeDirection.ofPrompt_of_lowerAscii_eq same
  cases policy with
  | proper policy =>
      have lengths : lengthOf recased policy = lengthOf prompt policy := by
        rw [lengthOf, Duration.extract, Duration.extractWith_of_lowerAscii_eq _ same,
          ← Duration.extract, ← lengthOf]
      rw [direct, direct, Director.direct, lengths, directions, ← Director.direct]
  | given policy =>
      have durations (limit : Value) :
          Duration.extractUpTo limit recased = Duration.extractUpTo limit prompt :=
        Duration.extractWith_of_lowerAscii_eq _ same
      rw [direct, direct, directBy, durations, directions, ← directBy]

/-- Of prompts and schemas, the facts make the timeline: where these are the same, both calls fail or
both have the same timeline, with the same validation and the same identifier.  The case of letters
in a prompt makes no difference to any outcome. -/
theorem direct_of_facts (policy : AnyPolicy) (reference createdAt : Option String)
    (asked : (policy.asked prompt).toOption = (policy.asked prompt').toOption)
    (guides : (CreativeDirection.ofPrompt prompt).GuidesLike (.ofPrompt prompt'))
    (looks : schema.LooksLike other) :
    (((∃ fault, policy.direct schema prompt reference createdAt = .error fault) ∧
        ∃ fault, policy.direct other prompt' reference createdAt = .error fault) ∨
      ∃ motion motion', policy.direct schema prompt reference createdAt = .ok motion ∧
        policy.direct other prompt' reference createdAt = .ok motion' ∧
        motion.timeline = motion'.timeline ∧ motion.validation = motion'.validation ∧
        motion.timeline.contentId = motion'.timeline.contentId) ∧
    ∀ recased, lowerAscii recased = lowerAscii prompt →
      policy.direct schema recased reference createdAt =
        policy.direct schema prompt reference createdAt := by
  refine ⟨?_, fun recased same => direct_of_lowerAscii_eq policy schema reference createdAt same⟩
  have same := synthesized_direct_congr policy reference createdAt asked guides looks
  refine (outcomes_of_synthesized_eq same).imp_right ?_
  rintro ⟨motion, motion', made, made', timeline, validation⟩
  exact ⟨motion, motion', made, made', timeline, validation,
    congrArg Timeline.contentId timeline⟩

def harborSchema : VisualSchema where
  elements := ⟨["pier", "crane"], ["gulls", "smoke"]⟩
  scene := ⟨"busy", "noon", ["#102030"], ["quay", "ships", "town", "clouds"]⟩
  composition := ⟨"left third", "aerial", "sketch"⟩
  visualAnalysis := .standard

theorem harborSchema_looksLike : lakeSchema.LooksLike harborSchema where
  colors := rfl
  secondary := by decide
  depth := by decide

def fadingPrompt : String := "Zoom for 7 seconds and fade to shadow"

def plainPrompt : String := "a dark push in, duration: 7"

theorem fadingPrompt_directions :
    CreativeDirection.ofPrompt fadingPrompt = ⟨.gentle, .zoom, .mysterious, ["fade"]⟩ ∧
    CreativeDirection.ofPrompt plainPrompt = ⟨.gentle, .zoom, .mysterious, []⟩ ∧
    lowerAscii "ZOOM for 7 Seconds and FADE to shadow" = lowerAscii fadingPrompt := by
  decide +kernel

theorem fadingPrompt_guidesLike :
    (CreativeDirection.ofPrompt fadingPrompt).GuidesLike (.ofPrompt plainPrompt) := by
  rw [fadingPrompt_directions.1, fadingPrompt_directions.2.1]
  exact ⟨rfl, rfl, rfl⟩

theorem fadingPrompt_asked : (proper .standard).asked fadingPrompt = .ok (some 7) := by rfl

theorem plainPrompt_asked : (proper .standard).asked plainPrompt = .ok (some 7) := by rfl

theorem exists_direct_fadingPrompt :
    ∃ motion, (proper .standard).direct lakeSchema fadingPrompt none none = .ok motion := by
  obtain ⟨seven, held⟩ := exists_ofInt?_of_isUpTo DirectorSettings.standard_isFinite.maxDuration
    ((Duration.compareInt?_admits_iff 7 _).mp (by decide +kernel))
  have measured : lengthOf fadingPrompt (.standard : DirectorPolicy Float) = .ok seven := by
    refine Except.bind_eq_ok.mpr ⟨some 7, fadingPrompt_asked, ?_⟩
    simp only [held]
  exact ⟨_, direct_eq_ok_iff.mpr ⟨seven, measured, rfl⟩⟩

/-- Two prompts in other words, one of them with a fade and in any case, for two places. -/
theorem fadingPrompt_direct_of_facts :
    (proper .standard).asked fadingPrompt = .ok (some 7) ∧
    (proper .standard).asked plainPrompt = .ok (some 7) ∧
    CreativeDirection.ofPrompt fadingPrompt ≠ .ofPrompt plainPrompt ∧
    ∃ motion motion',
      (proper .standard).direct lakeSchema "ZOOM for 7 Seconds and FADE to shadow" none none =
        .ok motion ∧
      (proper .standard).direct harborSchema plainPrompt none none = .ok motion' ∧
      motion.timeline.contentId = motion'.timeline.contentId := by
  have different : CreativeDirection.ofPrompt fadingPrompt ≠ .ofPrompt plainPrompt := by
    rw [fadingPrompt_directions.1, fadingPrompt_directions.2.1]
    decide
  obtain ⟨facts, anyCase⟩ := direct_of_facts (proper .standard) none none
    (by rw [fadingPrompt_asked, plainPrompt_asked]) fadingPrompt_guidesLike harborSchema_looksLike
  rcases facts with ⟨⟨fault, failed⟩, -⟩ | ⟨motion, motion', first, second, -, -, identified⟩
  · obtain ⟨motion, made⟩ := exists_direct_fadingPrompt
    rw [made] at failed
    cases failed
  · exact ⟨fadingPrompt_asked, plainPrompt_asked, different, motion, motion',
      (anyCase _ fadingPrompt_directions.2.2).trans first, second, identified⟩

end AnyPolicy

end StillMotion
