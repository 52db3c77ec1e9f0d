import StillMotion.Analysis.VisualSchema
import StillMotion.Data.Value
import StillMotion.Number.Numeral
import StillMotion.Number.Scalar

/-!
# Normalization

Every field of a visual schema has spellings, in order of preference.  A field takes its value
from the first spelling under which the payload holds something usable, and a standard value
when there is none.  Analysis backends answer in many shapes: a coercion reads the shapes that make
sense for a kind of field, and nothing is the answer for all others.
-/

namespace StillMotion

open StillMotion.Number

/-! ## Reading loose values -/

namespace Coercion

open StillMotion.Text

def nonEmpty {α : Type} : List α → Option (List α)
  | [] => none
  | items => some items

def commaParts (s : String) : List String :=
  ((split ',' s).map trim).filter fun part => !part.isEmpty

/-- The first of the values that counts as present, or else the last. -/
def firstPresent : List (Option Value) → Option Value
  | [] => none
  | [last] => last
  | some value :: rest => if value.isPresent then some value else firstPresent rest
  | none :: rest => firstPresent rest

def memberText? : Value → Option String
  | .str s => some s
  | .mapping entries =>
      (firstPresent (["name", "label", "hex"].map (Entries.get? entries))).bind Value.str?
  | _ => none

def texts? : Value → Option (List String)
  | .str s => nonEmpty (commaParts s)
  | .list items => nonEmpty (items.filterMap memberText?)
  | _ => none

def nonBlank? (s : String) : Option String := if s.isEmpty then none else some s

def text? : Value → Option String
  | .str s => nonBlank? (trim s)
  | .list items =>
      (texts? (.list items)).bind fun words => nonBlank? (", ".intercalate words)
  | _ => none

def number? : Value → Except ArithmeticFault (Option Float)
  | .float x => .ok (some x)
  | .int n => (Scalar.ofInt? n).map some
  | .str s => .ok (freeReal? s)
  | _ => .ok none

/-- A six-digit colour in lower case with its mark; other colours as they are. -/
def color (s : String) : String :=
  let cs := trimChars s.toList
  let digits := match cs with
    | '#' :: rest => rest
    | _ => cs
  if digits.length == 6 && digits.all fun c => (hexValue? c).isSome then
    String.ofList ('#' :: digits.map asciiLower)
  else String.ofList cs

end Coercion

/-! ## Spellings -/

abbrev Spelling := List String

namespace Spelling

def name (spelling : Spelling) : String := "path:" ++ ".".intercalate spelling

/-- The value of the first spelling that holds anything but nothing and empty values. -/
def extract (data : Value) (spellings : List Spelling) (standard : Value) : Value :=
  (spellings.findSome? fun spelling =>
    (data.at? spelling).bind fun value => if value.isEmpty then none else some value).getD standard

end Spelling

namespace Spellings

def primary : List Spelling :=
  [["elements", "primary"], ["primary_elements"], ["primary"], ["subjects"], ["main_subjects"],
    ["objects"]]

def secondary : List Spelling :=
  [["elements", "secondary"], ["secondary_elements"], ["secondary"], ["supporting_elements"],
    ["background_elements"]]

def emotion : List Spelling :=
  [["scene", "emotion"], ["scene", "mood"], ["emotion"], ["mood"], ["atmosphere"]]

def lighting : List Spelling := [["scene", "lighting"], ["lighting"], ["light"]]

def colors : List Spelling :=
  [["scene", "colors"], ["scene", "color_palette"], ["colors"], ["color_palette"], ["palette"]]

def depthLayers : List Spelling :=
  [["scene", "depth_layers"], ["scene", "layers"], ["depth_layers"], ["layers"]]

def focus : List Spelling :=
  [["composition", "focus"], ["composition", "focal_point"], ["focus"], ["focal_point"]]

def perspective : List Spelling :=
  [["composition", "perspective"], ["composition", "camera_angle"], ["perspective"],
    ["camera_angle"]]

def style : List Spelling := [["composition", "style"], ["style"], ["photography_style"]]

def dominantColors : List Spelling :=
  [["visual_analysis", "dominant_colors"], ["dominant_colors"], ["visual_analysis", "colors"]]

def contrastRatio : List Spelling :=
  [["visual_analysis", "contrast_ratio"], ["contrast_ratio"], ["contrast"]]

def complexityScore : List Spelling :=
  [["visual_analysis", "complexity_score"], ["complexity_score"], ["complexity"]]

def focalPoints : List Spelling := [["visual_analysis", "focal_points"], ["focal_points"]]

def segmentation : List Spelling :=
  [["visual_analysis", "segmentation"], ["segmentation"], ["segments"]]

end Spellings

/-! ## Resolution -/

/-- The first usable value among the spellings of a field. -/
def resolve {α : Type} (raw : Value) (coerce : Value → Option α) (spellings : List Spelling) :
    Option α :=
  spellings.findSome? fun spelling => (raw.at? spelling).bind coerce

/-- The first usable value, for a coercion that can fail. -/
def resolveM {α : Type} (raw : Value) (coerce : Value → Except ArithmeticFault (Option α)) :
    List Spelling → Except ArithmeticFault (Option α)
  | [] => .ok none
  | spelling :: rest =>
      match raw.at? spelling with
      | none => resolveM raw coerce rest
      | some value => do
          match ← coerce value with
          | some found => .ok (some found)
          | none => resolveM raw coerce rest

def numberAt (entries : Entries) (key : String) : Except ArithmeticFault (Option Float) :=
  match entries.get? key with
  | some value => Coercion.number? value
  | none => .ok none

def focalPoint? : Value → Except ArithmeticFault (Option FocalPoint)
  | .mapping entries => do
      let x ← numberAt entries "x"
      let y ← numberAt entries "y"
      match x, y with
      | some x, some y =>
          let weight ← numberAt entries "weight"
          .ok (some ⟨x, y, weight.getD 1.0, (Entries.get? entries "label").bind Value.str?⟩)
      | _, _ => .ok none
  | _ => .ok none

def focalPoints? : Value → Except ArithmeticFault (Option (List FocalPoint))
  | .list items => do
      let points ← items.mapM focalPoint?
      .ok (Coercion.nonEmpty (points.filterMap fun point => point))
  | _ => .ok none

def segment? : Value → Option Entries
  | .mapping entries => some entries
  | .str s => some [("label", .str s)]
  | _ => none

def segments? : Value → Option (List Entries)
  | .list items => Coercion.nonEmpty (items.filterMap segment?)
  | _ => none

/-! ## Fields -/

namespace VisualSchema

def colorsOf (raw : Value) : List String :=
  match resolve raw Coercion.texts? Spellings.colors with
  | some colors => colors.map Coercion.color
  | none => SceneFacts.standard.colors

/-- The dominant colours, for which the colours of the scene stand in. -/
def dominantColorsOf (raw : Value) : List String :=
  match resolve raw Coercion.texts? Spellings.dominantColors with
  | some colors => colors.map Coercion.color
  | none => colorsOf raw

def elementsOf (raw : Value) : Elements where
  primary := (resolve raw Coercion.texts? Spellings.primary).getD ["subject"]
  secondary := (resolve raw Coercion.texts? Spellings.secondary).getD []

def sceneOf (raw : Value) : SceneFacts where
  emotion := (resolve raw Coercion.text? Spellings.emotion).getD SceneFacts.standard.emotion
  lighting := (resolve raw Coercion.text? Spellings.lighting).getD SceneFacts.standard.lighting
  colors := colorsOf raw
  depthLayers := (resolve raw Coercion.texts? Spellings.depthLayers).getD []

def compositionOf (raw : Value) : SceneComposition where
  focus := (resolve raw Coercion.text? Spellings.focus).getD SceneComposition.standard.focus
  perspective :=
    (resolve raw Coercion.text? Spellings.perspective).getD SceneComposition.standard.perspective
  style := (resolve raw Coercion.text? Spellings.style).getD SceneComposition.standard.style

def visualAnalysisOf (raw : Value) : Except ArithmeticFault VisualAnalysis := do
  let contrast ← resolveM raw Coercion.number? Spellings.contrastRatio
  let complexity ← resolveM raw Coercion.number? Spellings.complexityScore
  let points ← resolveM raw focalPoints? Spellings.focalPoints
  .ok {
    dominantColors := dominantColorsOf raw
    contrastRatio := contrast.getD VisualAnalysis.standard.contrastRatio
    complexityScore := complexity.getD VisualAnalysis.standard.complexityScore
    focalPoints := points.getD []
    segmentation := (resolve raw segments? Spellings.segmentation).getD [] }

def normalize (raw : Value) : Except ArithmeticFault VisualSchema := do
  let visualAnalysis ← visualAnalysisOf raw
  .ok ⟨elementsOf raw, sceneOf raw, compositionOf raw, visualAnalysis⟩

end VisualSchema

end StillMotion
