import StillMotion.Files.Workspace
import StillMotion.Instruction.Fill

/-!
# Instructions for analysis backends

The instruction that goes with an image is a template; it may take hints about the image.
Templates are found by name, in a directory of files or among those of the library.
-/

namespace StillMotion.Instruction

open StillMotion.Text

def analysisTemplateLines : List String :=
  ["Analyze this image and extract visual elements for animation. " ++
     "Provide a JSON object with the following structure:",
   "",
   "\x7b",
   "  \"elements\": \x7b",
   "    \"primary\": [\"list of main subjects\"],",
   "    \"secondary\": [\"supporting elements\"]",
   "  \x7d,",
   "  \"scene\": \x7b",
   "    \"emotion\": \"overall mood\",",
   "    \"lighting\": \"lighting description\",",
   "    \"colors\": [\"dominant colors as hex codes\"],",
   "    \"depth_layers\": [\"foreground\", \"mid\", \"background descriptions\"]",
   "  \x7d,",
   "  \"composition\": \x7b",
   "    \"focus\": \"main focus point\",",
   "    \"perspective\": \"camera angle\",",
   "    \"style\": \"photography style\"",
   "  \x7d,",
   "  \"visual_analysis\": \x7b",
   "    \"dominant_colors\": [\"hex codes, most dominant first\"],",
   "    \"contrast_ratio\": 0.0,",
   "    \"complexity_score\": 0.0,",
   "    \"focal_points\": " ++
     "[\x7b\"x\": 0.5, \"y\": 0.5, \"weight\": 1.0, \"label\": \"subject\"\x7d],",
   "    \"segmentation\": [\x7b\"label\": \"region name\", \"area\": 0.0\x7d]",
   "  \x7d",
   "\x7d",
   "\x7b% if hints %\x7d",
   "",
   "Consider these hints about the image: \x7b\x7b hints | join(\", \") \x7d\x7d.",
   "\x7b% endif %\x7d",
   "",
   "Use values between 0 and 1 for contrast_ratio, complexity_score and focal point coordinates.",
   "Analyze the image and return only the JSON object without any additional text or formatting."]

def analysisTemplate : String := "\n".intercalate analysisTemplateLines ++ "\n"

def analysisTemplateName : String := "analyze_image.j2"

/-! ## Finding templates -/

/-- The names on the way to a template; nothing when it would leave the directory. -/
def templatePath? (name : String) : Option (List String) :=
  let pieces := split '/' name
  if pieces.contains ".." then none
  else some (pieces.filter fun piece => piece != "" && piece != ".")

def render (find : Finder) (directory name : String) (params : Entries) : Except Fault String :=
  match find name with
  | .error fault => .error (fault.toFault name directory)
  | .ok source => match filled find name source params with
      | .ok text => .ok (trim text ++ "\n")
      | .error fault => .error (fault.toFault name directory)

variable {ε : Type}

def findIn (workspace : Workspace ε) (directory : Path) (name : String) :
    Except TemplateFault String := do
  match templatePath? name with
  | none => throw .notFound
  | some pieces =>
      let path : Path := ⟨directory.root, directory.names ++ pieces⟩
      let reading : Act ε (Option String) := do
        match ← Act.nodeAt? path with
        | some (.file _ _) => return some (← Act.readText path)
        | _ => return none
      match (reading.run workspace).1 with
      | .ok (some source) => return source
      | .ok none => throw .notFound
      | .error fault => throw (.other fault)

def renderFrom (directory : Path) (name : String) (params : Entries) : Act ε String := do
  let workspace ← Act.workspace
  Act.of (render (findIn workspace directory) directory.text name params)

def findPackaged (name : String) : Except TemplateFault String :=
  match templatePath? name with
  | some [file] => if file == analysisTemplateName then .ok analysisTemplate else .error .notFound
  | _ => .error .notFound

def renderPackaged (name : String) (params : Entries) : Except Fault String :=
  render findPackaged "templates" name params

def analysis (hints : Value) : Except Fault String :=
  renderPackaged analysisTemplateName
    [("hints", if hints.isPresent then hints else .list [])]

end StillMotion.Instruction
