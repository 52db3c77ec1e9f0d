import StillMotion.Analysis.VisualSchema
import StillMotion.Direction.Duration
import StillMotion.Direction.Policy
import StillMotion.Direction.Prompt
import StillMotion.Failure.Report
import StillMotion.Timeline.Format
import StillMotion.Timeline.Validation

/-!
# Synthesis of timelines

From a visual schema and a prompt the director builds a timeline: the image on a layer that
fades in and out, a second layer when there are secondary elements, a camera movement and
effects on the whole picture.  What is wrong with the result is attached to it.
-/

namespace StillMotion

open StillMotion.Number

structure MotionIR (α : Type) where
  timeline : Timeline α
  validation : ValidationResult
  direction : CreativeDirection

def MotionIR.codec : Codec (MotionIR Float) :=
  .record "MotionIR" .wire <| Fields.of MotionIR.mk
    |>.field (.required "timeline" Timeline.codec) timeline
    |>.field (.required "validation" ValidationResult.codec) validation
    |>.field (.required "direction" CreativeDirection.codec) direction

/-- A document that holds a timeline with its validation and direction, or a timeline alone,
which is then validated and has the direction of an empty prompt. -/
def MotionIR.ofDocument (data : Value) : Except Fault (MotionIR Float) :=
  if (data.get? "timeline").isSome then MotionIR.codec.read data
  else do
    let timeline ← Timeline.codec.read data
    .ok ⟨timeline, timeline.validate, .ofPrompt ""⟩

namespace Director

variable {α : Type} [Scalar α]

def epoch : String := "1970-01-01T00:00:00Z"

def mainAssetId : String := "main-image"

def placeholder : String := "placeholder.jpg"

def givenOr (standard : String) : Option String → String
  | none => standard
  | some s => if s.isEmpty then standard else s

def movementKind : Movement → MovementKind
  | .pan => .pan
  | .zoom => .zoom
  | .dolly => .dolly
  | .orbit => .orbit
  | .static => .static

def paceOf (direction : CreativeDirection) : Easing :=
  match direction.style with
  | .cinematic => .easeInOut
  | _ => .linear

def targetOf (policy : DirectorPolicy α) (movement : Movement) : Vec3 α :=
  ((policy.movementTargets.find? fun target => target.1 == movement.word).map (·.2)).getD Vec3.zero

def camera (direction : CreativeDirection) (schema : VisualSchema) (duration : α)
    (policy : DirectorPolicy α) : Camera α where
  kind := match direction.style with
    | .cinematic => .layered
    | _ => if 2 < schema.scene.depthLayers.length then .layered else .flat
  position := Vec3.zero
  target := Vec3.zero
  fov := none
  movements := match direction.movement with
    | .static => []
    | movement => [{
        kind := movementKind movement
        origin := Vec3.zero
        goal := targetOf policy movement
        start := policy.movementStart.value
        duration := greatest (duration - policy.movementStart.value) 0.0
        easing := paceOf direction }]

/-! ## Layers -/

/-- An effect over the whole clip. -/
def throughout (id : String) (kind : EffectKind) (parameters : List (String × Parameter α))
    (duration : α) : Effect α :=
  ⟨id, kind, parameters, 0.0, duration⟩

/-- Fades at both ends, which never run past either end of the clip. -/
def fades (fade : Quantity α) (duration : α) : List (Effect α) :=
  [⟨"fade-in", .fade, [("type", .text "in"), ("duration", fade.parameter)], 0.0, fade.value⟩,
   ⟨"fade-out", .fade, [("type", .text "out"), ("duration", fade.parameter)],
      greatest (duration - fade.value) 0.0, fade.value⟩]

def placed (time : α) (x y opacity : α) : Keyframe α :=
  ⟨time, { KeyframeProperties.none with position := some ⟨x, y, none⟩, opacity := some opacity },
    none⟩

def scaled (time scale : α) : Keyframe α :=
  ⟨time, { KeyframeProperties.none with scale := some ⟨scale, scale, none⟩, opacity := some 1.0 },
    none⟩

def mainKeyframes (movement : Movement) (duration : α) (policy : DirectorPolicy α) :
    List (Keyframe α) :=
  match movement with
  | .zoom =>
      [scaled 0.0 1.0, scaled (duration * policy.zoomEndFraction.value) policy.zoomScale.value]
  | .pan =>
      [placed 0.0 0.0 0.0 1.0,
       placed (duration * policy.panEndFraction.value) policy.panOffset.value 0.0 1.0]
  | _ => []

def mainLayer (length : Quantity α) (direction : CreativeDirection) (policy : DirectorPolicy α) :
    Layer α where
  id := "main-image-layer"
  name := "Main Image"
  kind := .image
  assetId := some mainAssetId
  trackIndex := 0
  start := 0.0
  duration := length.value
  keyframes := mainKeyframes direction.movement length.value policy
  effects := fades (policy.fadeDuration.least length) length.value ++
    match direction.mood with
    | .mysterious => [throughout "dark-overlay" .opacity
        [("opacity", policy.mysteriousOverlayOpacity.parameter)] length.value]
    | _ => []
  blendMode := none
  visible := true

/-- The layer of the secondary elements, which drifts for a sense of depth. -/
def secondaryLayer (duration : α) (policy : DirectorPolicy α) : Layer α where
  id := "secondary-elements-layer"
  name := "Secondary Elements"
  kind := .composition
  assetId := none
  trackIndex := 0
  start := 0.0
  duration := duration
  keyframes :=
    [placed 0.0 0.0 0.0 policy.secondaryOpacity.value,
     placed duration policy.parallaxOffset.value 0.0 policy.secondaryOpacity.value]
  effects := []
  blendMode := none
  visible := true

def track (schema : VisualSchema) (length : Quantity α) (direction : CreativeDirection)
    (policy : DirectorPolicy α) : Track α where
  id := "video-track-1"
  name := "Main Video Track"
  index := 0
  kind := .video
  layers := mainLayer length direction policy ::
    (if schema.elements.secondary.isEmpty then [] else [secondaryLayer length.value policy])
  locked := false
  visible := true

/-! ## The whole picture -/

def styleEffects (style : Style) (duration : α) : List (Effect α) :=
  match style with
  | .cinematic =>
      [throughout "film-grain" .filmGrain [("intensity", .real 0.1), ("opacity", .real 0.3)]
        duration]
  | _ => []

def moodEffects (mood : Mood) (duration : α) : List (Effect α) :=
  match mood with
  | .uplifting =>
      [throughout "warm-color-grade" .colorGrade
        [("temperature", .real 0.2), ("saturation", .real 0.1)] duration]
  | .mysterious =>
      [throughout "cool-color-grade" .colorGrade
        [("temperature", .real (-0.2)), ("saturation", .real (-0.1)), ("contrast", .real 0.1)]
        duration]
  | _ => []

def asset (schema : VisualSchema) (reference : Option String) (policy : DirectorPolicy α) :
    Asset where
  id := mainAssetId
  kind := .image
  source := givenOr placeholder reference
  metadata := some [("originalWidth", .int policy.width), ("originalHeight", .int policy.height),
    ("dominantColors", Value.strings schema.scene.colors)]

def metadata (schema : VisualSchema) (duration : α) (createdAt : Option String)
    (policy : DirectorPolicy α) : TimelineMetadata α where
  projectName := untitledProject
  createdAt := givenOr epoch createdAt
  duration := duration
  fps := policy.fps
  width := policy.width
  height := policy.height
  backgroundColor := some ((schema.scene.colors.head?).getD "#000000")

/-! ## Synthesis -/

/-- The length of the clip: the duration in the prompt, or the usual one. -/
def lengthOf (prompt : String) (policy : DirectorPolicy α) : Except Fault (Quantity α) := do
  match ← Duration.extract (fun n => policy.maxDuration.bounds n) prompt with
  | none => .ok policy.defaultDuration
  | some n =>
      match Quantity.ofInt? n with
      | .ok length => .ok length
      | .error _ => .error (.invalid "TimelineMetadata" [⟨[.key "duration"], .floatType⟩])

def timelineOf (schema : VisualSchema) (direction : CreativeDirection) (length : Quantity α)
    (reference createdAt : Option String) (policy : DirectorPolicy α) : Timeline α where
  metadata := metadata schema length.value createdAt policy
  assets := [asset schema reference policy]
  tracks := [track schema length direction policy]
  camera := camera direction schema length.value policy
  globalEffects :=
    styleEffects direction.style length.value ++ moodEffects direction.mood length.value

def direct (schema : VisualSchema) (prompt : String) (reference createdAt : Option String)
    (policy : DirectorPolicy α) : Except Fault (MotionIR α) := do
  let length ← lengthOf prompt policy
  let direction := CreativeDirection.ofPrompt prompt
  let timeline := timelineOf schema direction length reference createdAt policy
  .ok ⟨timeline, timeline.validate, direction⟩

/-- What is logged about a synthesized timeline. -/
def warnings (motion : MotionIR α) : List String :=
  if motion.validation.isValid then []
  else ["Motion-IR validation warnings: " ++ Text.quotedList motion.validation.errors]

end Director

end StillMotion
