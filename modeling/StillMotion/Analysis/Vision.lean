import StillMotion.Analysis.Backend
import StillMotion.Config.Basic
import StillMotion.Data.Json.Reader
import StillMotion.Digest.Base64
import StillMotion.Files.MediaType
import StillMotion.Instruction.Analysis

/-!
# The vision backend

Images are analyzed by a model behind a chat service.  An image on the network goes there by its
address, a local one inline.  The reply is expected to hold a JSON object somewhere in its text.
-/

namespace StillMotion.Vision

open StillMotion.Text

variable {ε : Type}

/-! ## Requests -/

def addressStarts : List String := ["http://", "https://", "data:"]

def isAddress (reference : String) : Bool :=
  addressStarts.any fun start => startsWith reference.toList start.toList

def inlineLimit : Nat := 8000000

def standardMediaType : String := "image/jpeg"

def inlineAddress (path : Path) (content : ByteArray) : Except Fault String :=
  if inlineLimit < content.size then
    .error (.analysis
      s!"Image {path.text} is {content.size} bytes; inline limit is {inlineLimit}")
  else
    let mediaType := (MediaType.ofName? path.name).getD standardMediaType
    .ok ("data:" ++ mediaType ++ ";base64," ++ Base64.encode content)

def addressOf (reference : String) : Act ε String :=
  if isAddress reference then pure reference
  else do
    let path := Path.ofText reference
    let content ← Act.readBytes path
    Act.of (inlineAddress path content)

structure ChatRequest where
  model : String
  instruction : String
  imageAddress : String
  maxTokens : Int
deriving DecidableEq, Repr

def ChatRequest.payload (request : ChatRequest) : Entries :=
  let instruction : Value := .mapping [("type", .str "text"), ("text", .str request.instruction)]
  let image : Value := .mapping [("type", .str "image_url"),
    ("image_url", .mapping [("url", .str request.imageAddress)])]
  [("model", .str request.model),
   ("messages", .list [.mapping [("role", .str "user"), ("content", .list [instruction, image])]]),
   ("max_tokens", .int request.maxTokens)]

/-! ## Replies -/

inductive Reply where
  | plain (v : Value)
  | list (items : List Reply)
  | mapping (entries : List (String × Reply))
  | object (attributes : List (String × Reply))
deriving Inhabited

namespace Reply

def nothing : Reply := .plain .null

def find (members : List (String × Reply)) (name : String) : Reply :=
  match members.find? fun member => member.1 == name with
  | some member => member.2
  | none => nothing

/-- An attribute; what has no attributes has nothing there. -/
def member (name : String) : Reply → Reply
  | .object attributes => find attributes name
  | _ => nothing

def isPresent : Reply → Bool
  | .plain v => v.isPresent
  | .list items => !items.isEmpty
  | .mapping entries => !entries.isEmpty
  | .object _ => true

def text? : Reply → Option String
  | .plain (.str s) => some s
  | _ => none

def kindWord : Value → String
  | .bool _ => "bool"
  | .int _ => "int"
  | .float _ => "float"
  | .stamp _ => "datetime.date"
  | _ => "NoneType"

def objectWord : String := "types.SimpleNamespace"

def notSequence (kind : String) : Fault :=
  .external "TypeError" (some s!"'{kind}' object is not subscriptable")

def first : Reply → Except Fault Reply
  | .list (item :: _) => .ok item
  | .list [] => .error .index
  | .plain (.str s) => match s.toList with
      | c :: _ => .ok (.plain (.str (String.singleton c)))
      | [] => .error .index
  | .plain (.list (item :: _)) => .ok (.plain item)
  | .plain (.list []) => .error .index
  | .plain (.mapping _) => .error (.external "KeyError" (some "0"))
  | .mapping _ => .error (.external "KeyError" (some "0"))
  | .plain v => .error (notSequence (kindWord v))
  | .object _ => .error (notSequence objectWord)

def partText? : Reply → Option String
  | .mapping entries => (find entries "text").text?
  | .plain (.mapping entries) => (Entries.get? entries "text").bind Value.str?
  | part => (part.member "text").text?

def contentText? : Reply → Option String
  | .plain (.str s) => some s
  | .list parts => some ("\n".intercalate (parts.filterMap partText?))
  | .plain (.list parts) =>
      some ("\n".intercalate (parts.filterMap fun part => partText? (.plain part)))
  | _ => none

def answerText? (reply : Reply) : Except Fault (Option String) := do
  let choices := reply.member "choices"
  if !choices.isPresent then return none
  let choice ← choices.first
  let text? := contentText? ((choice.member "message").member "content")
  return text?.filter fun text => !text.isEmpty

end Reply

/-! ## The backend -/

def answerOf (model : String) (reply : Reply) : Except Fault Value := do
  match ← reply.answerText? with
  | none => .error (.analysis s!"No response content from model {model}")
  | some text =>
      match Json.firstObject? text with
      | .ok (some members) => .ok (Json.Tree.mapping members).value
      | .ok none => .error (.analysis "No JSON object found in analysis response")
      | .error (.integerTooLong digits) => .error (.numeralTooLong digits)
      | .error _ => .error .tooDeep

def analyze (settings : VisionConfig) (client : ChatRequest → Act ε Reply) (reference : String) :
    Act ε Value := do
  let instruction ← Act.of (Instruction.analysis (.list []))
  let imageAddress ← addressOf reference
  let reply ← client
    { model := settings.model, instruction, imageAddress, maxTokens := settings.maxTokens }
  Act.of (answerOf settings.model reply)

def backend (settings : VisionConfig) (client : ChatRequest → Act ε Reply) : Backend ε :=
  ⟨visionName, some settings.model, analyze settings client⟩

end StillMotion.Vision
