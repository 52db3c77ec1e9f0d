import StillMotion.Data.Ordering
import StillMotion.Draft
import StillMotion.Timeline.Format
import StillMotion.Timeline.Validation

/-!
# Timelines as drafts

A timeline that is edited as a draft.  Assets do not change, and the end of an effect or a layer
is computed from its start and its duration.
-/

namespace StillMotion

inductive PathStep where
  | field (name : String)
  | position (n : Int)
deriving DecidableEq, Repr

namespace Draft

/-! ## Reaching into a draft -/

def computesEnd (title name : String) : Bool :=
  name == "end_time" && (title == Effect.codec.title || title == Layer.codec.title)

def member (d : Draft) (name : String) : Except Fault Draft :=
  match d.field? name with
  | some inner => .ok inner
  | none =>
      if computesEnd d.kindName name then do
        let start := ((d.field? "start_time").map operand).getD .null
        let duration := ((d.field? "duration").map operand).getD .null
        let finish ← ofMisfit (Value.combine .add start duration)
        .ok (.loose finish)
      else d.noAttribute name

/-! ## Changing a draft -/

def settled : Shape → Value → Draft
  | .real, .float x => .exact (.float x)
  | .nullable .real, .float x => .exact (.float x)
  | .int, .bool b => .exact (.int (if b then 1 else 0))
  | .mapping _, .mapping entries => .exact (.mapping (entries.map fun (key, value) =>
      match value with
      | .float x => (key, .float x)
      | value => (key, Codec.plainData value)))
  | _, value => .given value

def assignPart (name : String) (value : Value) (d : Draft) : Except Fault Draft :=
  match d with
  | .record title _ =>
      if name.startsWith "_" then .ok d
      else if title == Asset.codec.title then
        .error (.invalid title [⟨[.key name], .frozenInstance⟩])
      else if computesEnd title name then misfit (.readOnly title name)
      else d.assign settled name value
  | d => d.noAttribute name

def changeAt (change : Draft → Except Fault Draft) : List PathStep → Draft → Except Fault Draft
  | [], d => change d
  | .field name :: rest, d => do
      let inner ← d.member name
      return d.replace name (← changeAt change rest inner)
  | .position n :: rest, d => do
      let inner ← d.item n
      let changed ← changeAt change rest inner
      match d with
      | .list items => do
          let place ← placeOf items.length n .index
          .ok (.list (items.set place changed))
      | d => .ok d

/-! ## Asking a draft -/

def requireRecord (question : String) : Draft → Except Fault Unit
  | .record _ _ => .ok ()
  | d => d.noAttribute question

def paintedLayers (d : Draft) : Except Fault (List (Draft × Draft)) := do
  d.requireRecord "iter_layers"
  let tracks ← (← d.member "tracks").items
  let keyed ← tracks.mapM fun track => return ((← track.member "index").operand, track)
  let sorted ← ofMisfit
    (Ordering.byInsertion (fun a b => Value.compareBy .less a.1 b.1) keyed)
  let found ← sorted.mapM fun (_, track) => do
    let layers ← (← track.member "layers").items
    return layers.map fun layer => (track, layer)
  return found.flatten

def asset? (id : String) (d : Draft) : Except Fault (Option Draft) := do
  d.requireRecord "get_asset"
  let rec find : List Draft → Except Fault (Option Draft)
    | [] => .ok none
    | asset :: rest => do
        let own ← asset.member "id"
        if Value.same own.operand (.str id) then return some asset else find rest
  find (← (← d.member "assets").items)

/-! ## Checking a draft -/

def isOver (a total : Value) : Except Fault Bool := do
  let bound ← ofMisfit (Value.combine .add total (.float timeSlack))
  ofMisfit (Value.compareBy .greater a bound)

def brief (v : Value) : Except Fault String := ofMisfit v.brief

/-- What is wrong with a keyframe of a clip that lasts `total`. -/
def keyframeError? (total : Value) (trackPlace layerPlace place : Nat) (keyframe : Draft) :
    Except Fault (Option String) := do
  let time := (← keyframe.member "time").operand
  let isBefore ← ofMisfit (Value.compareBy .less time (.int 0))
  if isBefore || (← isOver time total) then
    let shown ← brief time
    return some (s!"Keyframe {place} in layer {layerPlace} of track {trackPlace} has " ++
      s!"invalid time {shown}s")
  else return none

def layerErrors (total : Value) (track : Draft) (trackPlace place : Nat) (layer : Draft) :
    Except Fault (List String) := do
  let start := (← layer.member "start_time").operand
  let finish ← ofMisfit (Value.combine .add start (← layer.member "duration").operand)
  let ending ← if ← isOver finish total then do
      let layerId := (← layer.member "id").operand.shown
      let trackId := (← track.member "id").operand.shown
      let shownFinish ← brief finish
      let shownTotal ← brief total
      pure [s!"Layer '{layerId}' in track '{trackId}' ends at {shownFinish}s, " ++
        s!"beyond timeline duration {shownTotal}s"]
    else pure []
  let keyframes ← (← layer.member "keyframes").items
  let wrong ← keyframes.zipIdx.filterMapM fun (keyframe, k) =>
    keyframeError? total trackPlace place k keyframe
  return ending ++ wrong

def validate (d : Draft) : Except Fault ValidationResult := do
  let total := (← (← d.member "metadata").member "duration").operand
  let assets ← d.member "assets"
  let tracks ← d.member "tracks"
  let empty :=
    (if assets.isPresent then [] else ["Timeline must have at least one asset"]) ++
    (if tracks.isPresent then [] else ["Timeline must have at least one track"])
  let found ← (← tracks.items).zipIdx.mapM fun (track, t) => do
    let layers ← (← track.member "layers").items
    let errors ← layers.zipIdx.mapM fun (layer, l) => layerErrors total track t l layer
    return errors.flatten
  return .ofErrors (empty ++ found.flatten)

end Draft

end StillMotion
