import StillMotion.Data.Operation
import StillMotion.Direction.Director
import StillMotion.Direction.PolicyTable

/-!
# Policies with given numbers

A policy of which some numbers are given, as they are: each keeps its kind, whatever that is.
They are used in the order in which a timeline is built, and the first one that does not fit
where it is used decides what is wrong.
-/

namespace StillMotion

structure GivenPolicy where
  numbers : Entries
  movementTargets : List (String × Vec3 Float)

namespace GivenPolicy

def targetsKey : String := "movement_targets"

def ofEntries (given : Entries) : Except Fault GivenPolicy := do
  let standard : DirectorPolicy Float := .standard
  let movementTargets ← match Entries.get? given targetsKey with
    | none => .ok standard.movementTargets
    | some (.mapping targets) =>
        targets.mapM fun (name, v) => (Vec3.codec.read v).map fun target => (name, target)
    | some v => .error (.misfit (.noAttribute v.kindName "items"))
  match given.find? fun entry => !Entries.has standard.entries entry.1 with
  | some (name, _) => .error (.misfit (.unexpectedArgument "DirectorPolicy.__init__" name))
  | none => .ok ⟨given.foldl (fun numbers entry => Entries.put entry.1 entry.2 numbers)
      standard.entries, movementTargets⟩

def number (policy : GivenPolicy) (name : String) : Value :=
  (Entries.get? policy.numbers name).getD .null

end GivenPolicy

namespace Director

def combined (operator : Operator) (a b : Value) : Except Fault Value :=
  (Value.combine operator a b).mapError .misfit

/-- What is left after a part, at least nothing. -/
def remaining (total part : Value) : Except Fault Value := do
  (Value.greatest (← combined .subtract total part) (.float 0.0)).mapError .misfit

def givenMovement (policy : GivenPolicy) (direction : CreativeDirection) (length : Value) :
    Except Fault (List (CameraMovement Float)) := do
  match direction.movement with
  | .static => return []
  | movement => do
      let goal := ((policy.movementTargets.find? fun target => target.1 == movement.word).map
        (·.2)).getD Vec3.zero
      let start := policy.number "movement_start"
      let rest ← remaining length start
      let made ← CameraMovement.codec.read (.mapping [("type", .str movement.word),
        ("to", Vec3.codec.encode goal), ("start_time", start), ("duration", rest),
        ("easing", Easing.codec.encode (paceOf direction))])
      return [made]

def givenEffect (id : String) (kind : EffectKind) (parameters : Entries)
    (start duration : Value) : Except Fault (Effect Float) :=
  Effect.codec.read (.mapping [("id", .str id), ("type", .str kind.word),
    ("parameters", .mapping parameters), ("start_time", start), ("duration", duration)])

def givenFades (fade length : Value) : Except Fault (List (Effect Float)) := do
  let fadeIn ← givenEffect "fade-in" .fade [("type", .str "in"), ("duration", fade)]
    (.int 0) fade
  let start ← remaining length fade
  let fadeOut ← givenEffect "fade-out" .fade [("type", .str "out"), ("duration", fade)]
    start fade
  return [fadeIn, fadeOut]

def givenKeyframe (time : Value) (field : String) (x y opacity : Value) :
    Except Fault (Keyframe Float) := do
  let point ← Vec2.codec.read (.mapping [("x", x), ("y", y)])
  let properties ← KeyframeProperties.codec.read
    (.mapping [(field, Vec2.codec.encode point), ("opacity", opacity)])
  Keyframe.codec.read (.mapping [("time", time),
    ("properties", KeyframeProperties.codec.encode properties)])

def givenKeyframes (policy : GivenPolicy) (movement : Movement) (length : Value) :
    Except Fault (List (Keyframe Float)) := do
  match movement with
  | .zoom => do
      let time ← combined .multiply length (policy.number "zoom_end_fraction")
      let scale := policy.number "zoom_scale"
      let last ← givenKeyframe time "scale" scale scale (.int 1)
      return [scaled 0.0 1.0, last]
  | .pan => do
      let time ← combined .multiply length (policy.number "pan_end_fraction")
      let last ← givenKeyframe time "position" (policy.number "pan_offset") (.int 0) (.int 1)
      return [placed 0.0 0.0 0.0 1.0, last]
  | _ => return []

def givenMainLayer (policy : GivenPolicy) (direction : CreativeDirection) (length : Value)
    (duration : Float) : Except Fault (Layer Float) := do
  let fade ← (Value.least (policy.number "fade_duration") length).mapError .misfit
  let effects ← givenFades fade length
  let keyframes ← givenKeyframes policy direction.movement length
  let overlays ← match direction.mood with
    | .mysterious => do
        let overlay ← givenEffect "dark-overlay" .opacity
          [("opacity", policy.number "mysterious_overlay_opacity")] (.int 0) length
        pure [overlay]
    | _ => pure []
  return {
    id := "main-image-layer", name := "Main Image", kind := .image, assetId := some mainAssetId
    trackIndex := 0, start := 0.0, duration, keyframes, effects := effects ++ overlays
    blendMode := none, visible := true }

def givenSecondaryLayer (policy : GivenPolicy) (length : Value) (duration : Float) :
    Except Fault (Layer Float) := do
  let opacity := policy.number "secondary_opacity"
  let first ← givenKeyframe (.int 0) "position" (.int 0) (.int 0) opacity
  let last ← givenKeyframe length "position" (policy.number "parallax_offset") (.int 0) opacity
  return {
    id := "secondary-elements-layer", name := "Secondary Elements", kind := .composition
    assetId := none, trackIndex := 0, start := 0.0, duration, keyframes := [first, last]
    effects := [], blendMode := none, visible := true }

def directBy (policy : GivenPolicy) (schema : VisualSchema) (prompt : String)
    (reference createdAt : Option String) : Except Fault (MotionIR Float) := do
  let length ← match ← Duration.extractUpTo (policy.number "max_duration") prompt with
    | some n => .ok (.int n)
    | none => .ok (policy.number "default_duration")
  let width := policy.number "width"
  let height := policy.number "height"
  let metadata ← TimelineMetadata.codec.read (.mapping [
    ("created_at", .str (givenOr epoch createdAt)), ("duration", length),
    ("fps", policy.number "fps"), ("width", width), ("height", height),
    ("background_color", .str ((schema.scene.colors.head?).getD "#000000"))])
  let duration := metadata.duration
  let direction := CreativeDirection.ofPrompt prompt
  let movements ← givenMovement policy direction length
  let main ← givenMainLayer policy direction length duration
  let secondary ← if schema.elements.secondary.isEmpty then .ok []
    else (givenSecondaryLayer policy length duration).map fun layer => [layer]
  let standard : DirectorPolicy Float := .standard
  let timeline : Timeline Float := {
    metadata
    assets := [{ id := mainAssetId, kind := .image, source := givenOr placeholder reference
                 metadata := some [("originalWidth", width), ("originalHeight", height),
                   ("dominantColors", Value.strings schema.scene.colors)] }]
    tracks := [{ id := "video-track-1", name := "Main Video Track", index := 0, kind := .video
                 layers := main :: secondary, locked := false, visible := true }]
    camera := { camera direction schema duration standard with movements }
    globalEffects := styleEffects direction.style duration ++ moodEffects direction.mood duration }
  .ok ⟨timeline, timeline.validate, direction⟩

end Director

inductive AnyPolicy where
  | proper (policy : DirectorPolicy Float)
  | given (policy : GivenPolicy)

def AnyPolicy.direct (policy : AnyPolicy) (schema : VisualSchema) (prompt : String)
    (reference createdAt : Option String) : Except Fault (MotionIR Float) :=
  match policy with
  | .proper policy => Director.direct schema prompt reference createdAt policy
  | .given policy => Director.directBy policy schema prompt reference createdAt

end StillMotion
