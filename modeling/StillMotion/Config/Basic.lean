import StillMotion.Direction.Policy
import StillMotion.Files.Path
import StillMotion.Text.Quoted

/-!
# Configuration

The settings of a run.  Every section has standard values, and a key that no section knows is a
mistake.
-/

namespace StillMotion

open StillMotion.Text

def Path.codec : Codec Path where
  decode
    | .str s => .ok (Path.ofText s)
    | _ => .fail .pathType
  encode p := .str p.text
  shape := .text

structure VisionConfig where
  apiKeyVariable : String
  baseUrl : Option String
  model : String
  maxTokens : Int
deriving DecidableEq, Repr

structure ProvidersConfig where
  openai : Option VisionConfig
deriving DecidableEq, Repr

structure PipelineSettings where
  enableValidation : Bool
  enableFallbacks : Bool
  maxRetries : Int
  timeoutSeconds : Float
  backoffSeconds : Float

structure RenderSettings where
  codecName : String
  quality : Int
  pixelFormat : String
  concurrency : Int
  outputFormat : String
  command : List String
  entryPoint : String
  bakeFrames : Bool
deriving DecidableEq, Repr

structure PathsConfig where
  outputDirectory : Path
  temporaryDirectory : Path
deriving DecidableEq, Repr

structure Config where
  defaultProvider : String
  publicBaseUrl : String
  providers : ProvidersConfig
  pipeline : PipelineSettings
  render : RenderSettings
  director : DirectorSettings Float
  paths : PathsConfig

/-! ## Standard values -/

def VisionConfig.standard : VisionConfig := ⟨"OPENAI_API_KEY", none, "gpt-4o-mini", 1000⟩
def ProvidersConfig.standard : ProvidersConfig := ⟨none⟩
def PipelineSettings.standard : PipelineSettings := ⟨true, true, 3, 300.0, 1.0⟩

def RenderSettings.standard : RenderSettings where
  codecName := "h264"
  quality := 18
  pixelFormat := "yuv420p"
  concurrency := 4
  outputFormat := "mp4"
  command := ["npx", "remotion", "render"]
  entryPoint := "src/index.ts"
  bakeFrames := false

def PathsConfig.standard : PathsConfig := ⟨Path.ofText "output", Path.ofText "temp"⟩

def DirectorSettings.standard : DirectorSettings Float := ⟨5.0, 30.0, 0.5, 0.5, 1920, 1080, 30⟩

def fallbackName : String := "fallback"

def visionName : String := "openai"

def Config.standard : Config where
  defaultProvider := fallbackName
  publicBaseUrl := "http://localhost:3000"
  providers := .standard
  pipeline := .standard
  render := .standard
  director := .standard
  paths := .standard

/-! ## Format -/

def VisionConfig.codec : Codec VisionConfig :=
  .record "OpenAIProviderConfig" .strict <| Fields.of VisionConfig.mk
    |>.field (.optional "api_key_env" .text standard.apiKeyVariable) apiKeyVariable
    |>.field (.nullable "base_url" .text) baseUrl
    |>.field (.optional "model" .text standard.model) model
    |>.field (.optional "max_tokens" (.refine .int (atLeast 1)) standard.maxTokens) maxTokens

def ProvidersConfig.codec : Codec ProvidersConfig :=
  .record "ProvidersConfig" .strict <| Fields.of ProvidersConfig.mk
    |>.field (.nullable visionName VisionConfig.codec) openai

def PipelineSettings.codec : Codec PipelineSettings :=
  .record "PipelineSettings" .strict <| Fields.of PipelineSettings.mk
    |>.field (.optional "enable_validation" .bool standard.enableValidation) enableValidation
    |>.field (.optional "enable_fallbacks" .bool standard.enableFallbacks) enableFallbacks
    |>.field (.optional "max_retries" (.refine .int (atLeast 1)) standard.maxRetries) maxRetries
    |>.field (.optional "timeout_sec" (.refine .real positive) standard.timeoutSeconds)
        timeoutSeconds
    |>.field (.optional "backoff_sec" (.refine .real nonNegative) standard.backoffSeconds)
        backoffSeconds

def oneOf (words : List String) : Codec String := .choice words id

def qualityIssue? (n : Int) : Option IssueKind :=
  if n < 0 then some .greaterThanEqual else if 51 < n then some .lessThanEqual else none

def commandIssue? (command : List String) : Option IssueKind :=
  if command.isEmpty then some (.rejected "render.command cannot be empty") else none

def RenderSettings.codec : Codec RenderSettings :=
  .record "RenderSettings" .strict <| Fields.of RenderSettings.mk
    |>.field (.optional "codec" (oneOf ["h264", "h265", "vp9"]) standard.codecName) codecName
    |>.field (.optional "crf" (.refine .int qualityIssue?) standard.quality) quality
    |>.field (.optional "pixel_format" (oneOf ["yuv420p", "yuv444p"]) standard.pixelFormat)
        pixelFormat
    |>.field (.optional "concurrency" (.refine .int (atLeast 1)) standard.concurrency) concurrency
    |>.field (.optional "output_format" (oneOf ["mp4", "webm", "gif"]) standard.outputFormat)
        outputFormat
    |>.field (.composed "command" (.refine (.list .text) commandIssue?) standard.command) command
    |>.field (.optional "entry_point" .text standard.entryPoint) entryPoint
    |>.field (.optional "bake_frames" .bool standard.bakeFrames) bakeFrames

def PathsConfig.codec : Codec PathsConfig :=
  .record "PathsConfig" .strict <| Fields.of PathsConfig.mk
    |>.field (.optional "output_dir" Path.codec standard.outputDirectory) outputDirectory
    |>.field (.optional "temp_dir" Path.codec standard.temporaryDirectory) temporaryDirectory

namespace Config

def availableProviders (config : Config) : List String :=
  match config.providers.openai with
  | none => [fallbackName]
  | some _ => [fallbackName, visionName]

def nameIssue? (name : String) : Option IssueKind :=
  if name.isEmpty then some (.rejected "default_provider cannot be empty") else none

def providerIssue? (config : Config) : Option IssueKind :=
  if config.availableProviders.contains config.defaultProvider then none
  else some (.rejected (s!"default_provider '{config.defaultProvider}' is not configured. " ++
    s!"Available providers: {quotedList config.availableProviders}"))

def codec : Codec Config :=
  Codec.refine (.record "ReelifyConfig" .strict <| Fields.of Config.mk
    |>.field (.optional "default_provider" (.refine .text nameIssue?) fallbackName) defaultProvider
    |>.field (.optional "public_base_url" .text standard.publicBaseUrl) publicBaseUrl
    |>.field (.composed "providers" ProvidersConfig.codec .standard) providers
    |>.field (.composed "pipeline" PipelineSettings.codec .standard) pipeline
    |>.field (.composed "render" RenderSettings.codec .standard) render
    |>.field (.composed "director" DirectorSettings.codec .standard) director
    |>.field (.composed "paths" PathsConfig.codec .standard) paths) providerIssue?

def maxAttempts (config : Config) : Nat :=
  if config.pipeline.enableFallbacks then config.pipeline.maxRetries.toNat else 1

end Config

end StillMotion
