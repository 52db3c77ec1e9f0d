import StillMotion.Text.Search

/-!
# Categories of failure

A failure belongs to the stage in which it happened.  Where the stage has no category of its
own, the words of the message decide.
-/

namespace StillMotion

open StillMotion.Text

inductive ErrorCategory where
  | imageAnalysis
  | motionGeneration
  | composition
  | rendering
  | unknown
deriving DecidableEq, Repr

namespace ErrorCategory

def word : ErrorCategory → String
  | .imageAnalysis => "image_analysis"
  | .motionGeneration => "motion_generation"
  | .composition => "composition"
  | .rendering => "rendering"
  | .unknown => "unknown"

def hint : ErrorCategory → String
  | .imageAnalysis => "Please check if the image file exists and is valid."
  | .motionGeneration => "Please try rephrasing the prompt."
  | .composition => "The animation could not be turned into a renderable composition."
  | .rendering => "Please check that the renderer is installed and has enough resources."
  | .unknown => "Please try again."

def ofStage? : String → Option ErrorCategory
  | "analyze" => some .imageAnalysis
  | "direct" => some .motionGeneration
  | "compose" => some .composition
  | "render" => some .rendering
  | _ => none

def keywords : List (List String × ErrorCategory) :=
  [(["mapper", "schema", "image analysis", "analyze"], .imageAnalysis),
   (["director", "motion", "timeline"], .motionGeneration),
   (["coder", "composition"], .composition),
   (["render", "remotion", "ffmpeg", "timeout"], .rendering)]

def ofMessage (message : String) : ErrorCategory :=
  let folded := fold message
  ((keywords.find? fun row => mentions row.1 folded).map (·.2)).getD .unknown

def ofFailure (message : String) (stage : Option String) : ErrorCategory :=
  (stage.bind ofStage?).getD (ofMessage message)

end ErrorCategory

end StillMotion
