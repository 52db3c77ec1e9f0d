import StillMotion.Analysis.VisualSchema
import StillMotion.Text.Search

/-!
# Analysis without a backend

A description that depends on nothing but the words in the reference of an image.
-/

namespace StillMotion.Fallback

open StillMotion.Text

def base : VisualSchema where
  elements := ⟨["main subject"], ["background details"]⟩
  scene := {
    emotion := "calm"
    lighting := "natural"
    colors := ["#2c3e50", "#ecf0f1", "#3498db"]
    depthLayers := ["foreground", "background"] }
  composition := ⟨"center", "eye-level", "photographic"⟩
  visualAnalysis := {
    dominantColors := ["#2c3e50", "#ecf0f1", "#3498db"]
    contrastRatio := 0.5
    complexityScore := 0.3
    focalPoints := [⟨0.5, 0.5, 1.0, some "center"⟩]
    segmentation := [] }

def withPerspective (perspective : String) (schema : VisualSchema) : VisualSchema :=
  { schema with composition := { schema.composition with perspective } }

def withPalette (palette : List String) (schema : VisualSchema) : VisualSchema :=
  { schema with
    scene := { schema.scene with colors := palette }
    visualAnalysis := { schema.visualAnalysis with dominantColors := palette } }

def portrait (schema : VisualSchema) : VisualSchema :=
  { withPerspective "close-up" schema with
    elements := { schema.elements with primary := "person" :: schema.elements.primary }
    visualAnalysis :=
      { schema.visualAnalysis with focalPoints := [⟨0.5, 0.4, 1.0, some "face"⟩] } }

def landscape (schema : VisualSchema) : VisualSchema :=
  { withPerspective "wide" schema with
    scene := { schema.scene with depthLayers := ["foreground", "midground", "background"] } }

def night (schema : VisualSchema) : VisualSchema :=
  let schema := withPalette ["#0b0c10", "#1f2833", "#45a29e"] schema
  { schema with
    scene := { schema.scene with emotion := "mysterious", lighting := "low-key" }
    visualAnalysis := { schema.visualAnalysis with contrastRatio := 0.7 } }

def sunset (schema : VisualSchema) : VisualSchema :=
  let schema := withPalette ["#ff7e5f", "#feb47b", "#6a0572"] schema
  { schema with scene := { schema.scene with lighting := "golden hour" } }

/-- The words that change the description; every rule that applies contributes, in order. -/
def rules : List (List String × (VisualSchema → VisualSchema)) :=
  [(["portrait"], portrait), (["landscape"], landscape), (["night", "dark"], night),
   (["sunset"], sunset)]

def describe (reference : String) : VisualSchema :=
  let folded := fold reference
  rules.foldl (fun schema rule => if mentions rule.1 folded then rule.2 schema else schema) base

def payload (reference : String) : Value := VisualSchema.codec.encode (describe reference)

end StillMotion.Fallback
