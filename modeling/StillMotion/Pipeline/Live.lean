import StillMotion.Pipeline.Service

/-!
# Pipelines whose settings change

The configuration of a pipeline can be changed setting by setting while the pipeline is at work.
A setting holds what it is given.  The policy of the director is made once and does not change,
and the renderer goes on with the section of settings that it was made with: it sees what changes
in that section, but not another value in place of it.
-/

namespace StillMotion

variable {ε : Type}

structure LivePipeline (ε : Type) where
  config : Draft
  pipeline : Pipeline ε
  /-- The renderer after its settings have changed. -/
  rendererBy : RenderCommand → Renderer ε

namespace LivePipeline

def start (services : Services ε) (config : Config) (pipeline : Pipeline ε) : LivePipeline ε where
  config := .of Config.codec config
  pipeline
  rendererBy command := .ofCommand services.launcher command config.paths.temporaryDirectory

def withRenderer (renderer : Renderer ε) (live : LivePipeline ε) : LivePipeline ε :=
  { live with pipeline := { live.pipeline with renderer }, rendererBy := fun _ => renderer }

/-- The configuration with a setting changed; those outside of all sections have the empty section
name. -/
def changed (config : Draft) (sectionName name : String) (value : Value) : Except Fault Draft :=
  let settle (_ : Shape) (v : Value) : Draft := .given v
  if sectionName.isEmpty then config.assign settle name value
  else do
    let inner ← config.field sectionName
    return config.replace sectionName (← inner.assign settle name value)

def assign (sectionName name : String) (value : Value) (live : LivePipeline ε) :
    Except Fault (LivePipeline ε) := do
  let config ← changed live.config sectionName name value
  let pipeline := { live.pipeline with settings := .ofDraft config }
  match config.field? "render" with
  | some (.record title fields) =>
      let renderer := live.rendererBy (.ofDraft (.record title fields))
      .ok { live with config, pipeline := { pipeline with renderer } }
  | _ => .ok { live with config, pipeline }

end LivePipeline

end StillMotion
