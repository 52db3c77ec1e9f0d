import StillMotion.Files.Workspace
import StillMotion.Scene.Composition

/-!
# Renderers

A renderer turns a composition into a video file and answers where the file is.  What is known
of a finished video comes from the composition and from the file.
-/

namespace StillMotion

open StillMotion.Number

variable {ε : Type}

structure RenderRequest where
  composition : Composition Float
  output : Path
  imageSource : Option String
  /-- How many seconds the renderer may take, as it was given. -/
  deadline : Value

structure Renderer (ε : Type) where
  id : Act ε String
  /-- Whether what the renderer needs is installed. -/
  isAvailable : Act ε Bool
  render : RenderRequest → Act ε Path

/-! ## Videos -/

structure VideoMetadata where
  duration : Float
  width : Int
  height : Int
  fps : Int
  fileSize : Int

namespace VideoMetadata

def codec : Codec VideoMetadata :=
  .record "VideoMetadata" .wire <| Fields.of VideoMetadata.mk
    |>.field (.required "duration" .real) duration
    |>.field (.required "width" .int) width
    |>.field (.required "height" .int) height
    |>.field (.required "fps" .int) fps
    |>.field (.required "fileSize" .int) fileSize

def ofVideo (composition : Composition Float) (video : Path) : Act ε VideoMetadata := do
  let size ← Act.sizeOf video
  let facts := composition.metadata
  return ⟨facts.duration, facts.width, facts.height, facts.fps, size⟩

end VideoMetadata

end StillMotion
