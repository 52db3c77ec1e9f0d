import StillMotion.Failure.Report
import StillMotion.Scene.Identity
import StillMotion.Timeline.Draft
import StillMotion.Timeline.Format

/-!
# Editing sessions

A session starts from nothing, makes or loads a timeline and edits it as a draft: parts that are
given as data are added at the end of a list, and fields are assigned along a path.  A position
counts from the start of a list or, below zero, from its end.  An edit that fails leaves no trace.
-/

/-!
## New timelines

A timeline without content.  What is not given about it takes standard values.
-/

namespace StillMotion.Timeline

/-- What a new timeline is made from; arguments that are absent take their standard values. -/
structure NewTimeline where
  duration : Option Value
  width : Option Value
  height : Option Value
  fps : Option Value
  createdAt : Option Value

def NewTimeline.names : List String := ["duration", "width", "height", "fps", "created_at"]

/-- The arguments by their names; there are no others. -/
def NewTimeline.ofEntries (entries : Entries) : Except Fault NewTimeline :=
  match entries.find? fun entry => !names.contains entry.1 with
  | some (name, _) => .error (.misfit (.unexpectedArgument "create_basic_timeline" name))
  | none => .ok ⟨entries.get? "duration", entries.get? "width", entries.get? "height",
      entries.get? "fps", entries.get? "created_at"⟩

/-- A timeline without content, created now unless another time is given. -/
def create (now : String) (args : NewTimeline) : Except Fault (Timeline Float) := do
  let given := args.createdAt.getD .null
  let metadata ← TimelineMetadata.codec.read (.mapping [
    ("created_at", if given.isPresent then given else .str now),
    ("duration", args.duration.getD (.int 5)),
    ("fps", args.fps.getD (.int 30)),
    ("width", args.width.getD (.int 1920)),
    ("height", args.height.getD (.int 1080)),
    ("background_color", .str "#000000")])
  .ok (empty metadata)

end StillMotion.Timeline

namespace StillMotion

inductive Edit where
  | create (args : Entries)
  | load (data : Value)
  | addAsset (asset : Value)
  | addTrack (track : Value)
  | addLayer (track : Int) (layer : Value)
  | addKeyframe (track layer : Int) (keyframe : Value)
  | addEffect (track layer : Int) (effect : Value)
  | addGlobalEffect (effect : Value)
  | addMovement (movement : Value)
  | assign (path : List PathStep) (name : String) (value : Value)

namespace Edit

def nothing : Draft := .exact .null

def layerPath (track layer : Int) (list : String) : List PathStep :=
  [.field "tracks", .position track, .field "layers", .position layer, .field list]

def change : Edit → Draft → Except Fault Draft
  | .create _, d => .ok d
  | .load _, d => .ok d
  | .addAsset data, d => d.changeAt (Draft.append Asset.codec data) [.field "assets"]
  | .addTrack data, d => d.changeAt (Draft.append Track.codec data) [.field "tracks"]
  | .addLayer track data, d =>
      d.changeAt (Draft.append Layer.codec data)
        [.field "tracks", .position track, .field "layers"]
  | .addKeyframe track layer data, d =>
      d.changeAt (Draft.append Keyframe.codec data) (layerPath track layer "keyframes")
  | .addEffect track layer data, d =>
      d.changeAt (Draft.append Effect.codec data) (layerPath track layer "effects")
  | .addGlobalEffect data, d =>
      d.changeAt (Draft.append Effect.codec data) [.field "global_effects"]
  | .addMovement data, d =>
      d.changeAt (Draft.append CameraMovement.codec data) [.field "camera", .field "movements"]
  | .assign path name value, d => d.changeAt (Draft.assignPart name value) path

def apply (now : String) (edit : Edit) (draft? : Option Draft) : Except Fault Draft :=
  match edit with
  | .create args => do
      let args ← Timeline.NewTimeline.ofEntries args
      let timeline ← Timeline.create now args
      .ok (.of Timeline.codec timeline)
  | .load data => do
      let timeline ← Timeline.codec.read data
      .ok (.of Timeline.codec timeline)
  | edit => edit.change (draft?.getD nothing)

/-! ## Edits as data -/

def part (entries : Entries) (key : String) : Value := (Entries.get? entries key).getD .null

def positionAt (entries : Entries) (key : String) : Int :=
  match Entries.get? entries key with
  | some (.int n) => n
  | _ => 0

def nameAt (entries : Entries) (key : String) : String :=
  match Entries.get? entries key with
  | some (.str name) => name
  | _ => ""

def pathStep? : Value → Option PathStep
  | .str name => some (.field name)
  | .int n => some (.position n)
  | _ => none

def pathAt (entries : Entries) (key : String) : List PathStep :=
  match Entries.get? entries key with
  | some (.list steps) => steps.filterMap pathStep?
  | _ => []

def ofEntries? (word : String) (entries : Entries) : Option Edit :=
  let track := positionAt entries "track"
  let layer := positionAt entries "layer"
  match word with
  | "new" => some (.create entries)
  | "load" => some (.load (part entries "data"))
  | "add_asset" => some (.addAsset (part entries "asset"))
  | "add_track" => some (.addTrack (part entries "track"))
  | "add_layer" => some (.addLayer track (part entries "layer"))
  | "add_keyframe" => some (.addKeyframe track layer (part entries "keyframe"))
  | "add_effect" => some (.addEffect track layer (part entries "effect"))
  | "add_global_effect" => some (.addGlobalEffect (part entries "effect"))
  | "add_movement" => some (.addMovement (part entries "movement"))
  | "set" => some (.assign (pathAt entries "path") (nameAt entries "field")
      (part entries "value"))
  | _ => none

end Edit

namespace Draft

/-- What a draft is at a moment: its identifier, whether it is valid, and the numbers of its
assets, tracks, effects on the whole picture and camera movements. -/
structure Summary where
  id : String
  validation : ValidationResult
  counts : List Nat

def Summary.toData (summary : Summary) : Value :=
  .mapping [("id", .str summary.id),
    ("validation", ValidationResult.codec.encode summary.validation),
    ("counts", .list (summary.counts.map fun n : Nat => .int n))]

def summary (d : Draft) : Except Fault Summary := do
  let data := d.toData
  (Json.requireText data).mapError .arithmetic
  let validation ← d.validate
  let assets ← (← d.member "assets").length
  let tracks ← (← d.member "tracks").length
  let effects ← (← d.member "global_effects").length
  let movements ← (← (← d.member "camera").member "movements").length
  .ok ⟨identifierOf (Json.canonical data), validation, [assets, tracks, effects, movements]⟩

def layerEnds (d : Draft) : Except Fault (List Value) := do
  let found ← d.paintedLayers
  found.mapM fun (track, layer) => do
    let trackId ← track.member "id"
    let layerId ← layer.member "id"
    let finish ← layer.member "end_time"
    return .mapping [("track", trackId.toData), ("layer", layerId.toData), ("end", finish.toData)]

def compose (d : Draft) : Except Fault (Composition Float) := do
  let timeline ← Timeline.codec.read d.toData
  timeline.compose.mapError .arithmetic

end Draft

end StillMotion
