import StillMotion.Data.Record
import StillMotion.Timeline.Validation

/-!
# Visual schemas

What an image shows, in the terms that the director works with: elements, the scene with its
colours, the composition and measures of the picture.  A description is usable when the facts
that everything else rests on are there.
-/

namespace StillMotion

structure Elements where
  primary : List String
  secondary : List String
deriving DecidableEq, Repr

structure SceneFacts where
  emotion : String
  lighting : String
  colors : List String
  depthLayers : List String
deriving DecidableEq, Repr

structure SceneComposition where
  focus : String
  perspective : String
  style : String
deriving DecidableEq, Repr

structure FocalPoint where
  x : Float
  y : Float
  weight : Float
  label : Option String

structure VisualAnalysis where
  dominantColors : List String
  contrastRatio : Float
  complexityScore : Float
  focalPoints : List FocalPoint
  segmentation : List Entries

/-- Normalized description of an image's visual content. -/
structure VisualSchema where
  elements : Elements
  scene : SceneFacts
  composition : SceneComposition
  visualAnalysis : VisualAnalysis

/-! ## Standard values -/

def Elements.standard : Elements := ⟨[], []⟩
def SceneFacts.standard : SceneFacts := ⟨"calm", "natural", ["#000000", "#ffffff"], []⟩
def SceneComposition.standard : SceneComposition := ⟨"center", "eye-level", "photographic"⟩
def VisualAnalysis.standard : VisualAnalysis := ⟨[], 0.5, 0.5, [], []⟩

/-! ## Format -/

def Elements.codec : Codec Elements :=
  .record "Elements" .full <| Fields.of Elements.mk
    |>.field (.composed "primary" (.list .text) []) primary
    |>.field (.composed "secondary" (.list .text) []) secondary

def SceneFacts.codec : Codec SceneFacts :=
  .record "Scene" .full <| Fields.of SceneFacts.mk
    |>.field (.optional "emotion" .text standard.emotion) emotion
    |>.field (.optional "lighting" .text standard.lighting) lighting
    |>.field (.composed "colors" (.list .text) standard.colors) colors
    |>.field (.composed "depth_layers" (.list .text) []) depthLayers

def SceneComposition.codec : Codec SceneComposition :=
  .record "SceneComposition" .full <| Fields.of SceneComposition.mk
    |>.field (.optional "focus" .text standard.focus) focus
    |>.field (.optional "perspective" .text standard.perspective) perspective
    |>.field (.optional "style" .text standard.style) style

def FocalPoint.codec : Codec FocalPoint :=
  .record "FocalPoint" .full <| Fields.of FocalPoint.mk
    |>.field (.optional "x" .real 0.5) x
    |>.field (.optional "y" .real 0.5) y
    |>.field (.optional "weight" .real 1.0) weight
    |>.field (.nullable "label" .text) label

def VisualAnalysis.codec : Codec VisualAnalysis :=
  .record "VisualAnalysis" .full <| Fields.of VisualAnalysis.mk
    |>.field (.composed "dominant_colors" (.list .text) []) dominantColors
    |>.field (.optional "contrast_ratio" .real standard.contrastRatio) contrastRatio
    |>.field (.optional "complexity_score" .real standard.complexityScore) complexityScore
    |>.field (.composed "focal_points" (.list FocalPoint.codec) []) focalPoints
    |>.field (.composed "segmentation" (.list .entries) []) segmentation

def VisualSchema.codec : Codec VisualSchema :=
  Codec.record "VisualSchema" .full (Fields.of VisualSchema.mk
    |>.field (.composed "elements" Elements.codec .standard) elements
    |>.field (.composed "scene" SceneFacts.codec .standard) scene
    |>.field (.composed "composition" SceneComposition.codec .standard) composition
    |>.field (.composed "visual_analysis" VisualAnalysis.codec .standard) visualAnalysis)
  |>.summarized "Normalized description of an image's visual content."

/-! ## Usability -/

/-- A section of a description; anything but a mapping counts as an empty one. -/
def sectionOf (data : Value) (key : String) : Entries :=
  ((data.get? key).bind Value.mapping?).getD []

def hasList (entries : Entries) (key : String) : Bool :=
  ((entries.get? key).bind Value.list?).isSome

def hasPresentList (entries : Entries) (key : String) : Bool :=
  match (entries.get? key).bind Value.list? with
  | some items => !items.isEmpty
  | none => false

def hasPresent (entries : Entries) (key : String) : Bool :=
  ((entries.get? key).map Value.isPresent).getD false

def schemaErrors (data : Value) : List String :=
  if !data.isDict then ["Schema must be a mapping"]
  else
    let scene := sectionOf data "scene"
    (if hasList (sectionOf data "elements") "primary" then []
      else ["elements.primary must be a list"]) ++
    (if hasPresent scene "emotion" then [] else ["scene.emotion is required"]) ++
    (if hasPresentList scene "colors" then [] else ["scene.colors must be a non-empty list"]) ++
    (if hasPresent (sectionOf data "composition") "focus" then []
      else ["composition.focus is required"]) ++
    (if hasPresentList (sectionOf data "visual_analysis") "dominant_colors" then []
      else ["visual_analysis.dominant_colors must be a non-empty list"])

def validateSchema (data : Value) : ValidationResult := .ofErrors (schemaErrors data)

def VisualSchema.validate (schema : VisualSchema) : ValidationResult :=
  validateSchema (VisualSchema.codec.encode schema)

end StillMotion
