import StillMotion.Data.Json.Writer
import StillMotion.Digest.Sha256
import StillMotion.Scene.Frame

/-!
# Identifiers of compositions

A composition is identified by a digest of the canonical text of its timeline, so equal content
has one identifier.
-/

namespace StillMotion

open StillMotion.Number

def Timeline.canonical (timeline : Timeline Float) : String :=
  Json.canonical (Timeline.codec.encode timeline)

def identifierOf (canonical : String) : String :=
  "motion-" ++ String.ofList ((Sha256.hex canonical.toUTF8).toList.take 12)

def Timeline.contentId (timeline : Timeline Float) : String := identifierOf timeline.canonical

/-- The composition of a timeline under the identifier of its content.  A timeline with integers
that cannot be written has none; its texts are sequences of characters, and there is no limit to
how deeply the data about its assets is nested. -/
def Timeline.compose (timeline : Timeline Float) : Except ArithmeticFault (Composition Float) := do
  Json.requireText (Timeline.codec.encode timeline)
  Composition.ofTimeline timeline.contentId timeline

/-- What a renderer is given: the composition, on demand the source of the still image and the
samples of all frames. -/
def Composition.renderProps (composition : Composition Float) (imageSource : Option String)
    (baked : Bool) : Except ArithmeticFault Entries := do
  let frames ← if baked then composition.bake.map some else .ok none
  .ok ([("composition", Composition.codec.encode composition)] ++
    (imageSource.map fun source => ("imageSrc", Value.str source)).toList ++
    (frames.map fun samples =>
      ("frames", Value.list (samples.map FrameSample.codec.encode))).toList)

end StillMotion
