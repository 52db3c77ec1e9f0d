import StillMotion.Config.Basic
import StillMotion.Data.Json.Writer
import StillMotion.Draft
import StillMotion.Render.Renderer
import StillMotion.Render.Run
import StillMotion.Scene.Identity

/-!
# Rendering by a command

The composition is written to a file of properties, whose path the command is given.  The file
is removed when the command has ended, however it ended.
-/

namespace StillMotion

/-!
## Render commands

The command line that renders a composition.  The settings that it is made from can change while
they are in use, and then a part of the command may not be there when it is asked for.
-/

open StillMotion.Text

namespace RenderSettings

def program (settings : RenderSettings) : String := settings.command.head?.getD ""

def commandFor (settings : RenderSettings) (compositionId : String) (output properties : Path) :
    List String :=
  settings.command ++
    [settings.entryPoint, compositionId, output.text,
      s!"--codec={settings.codecName}",
      s!"--crf={settings.quality}",
      s!"--pixel-format={settings.pixelFormat}",
      s!"--concurrency={settings.concurrency}",
      s!"--props={properties.text}"]

end RenderSettings

structure RenderCommand where
  program : Except Fault String
  /-- The command for a composition by its identifier, a path for the video and a file of
  properties. -/
  line : String → Path → Path → Except Fault (List String)
  /-- Whether the properties hold every frame. -/
  bakesFrames : Bool

def RenderSettings.toCommand (settings : RenderSettings) : RenderCommand where
  program := match settings.command with
    | [] => .error .index
    | program :: _ => .ok program
  line compositionId output properties := .ok (settings.commandFor compositionId output properties)
  bakesFrames := settings.bakeFrames

namespace RenderCommand

def programOf (d : Draft) : Except Fault String := do
  let first ← (← d.field "command").item 0
  match first.operand with
  | .str program => .ok program
  | v => .error (.misfit (.kindOf "TypeError"
      s!"expected str, bytes or os.PathLike object, not {v.kindName}"))

def textsOf (parts : List Value) : Except Fault (List String) :=
  parts.zipIdx.mapM fun (part, place) =>
    match part with
    | .str s => .ok s
    | v => .error (.misfit (.kindOf "TypeError"
        s!"sequence item {place}: expected str instance, {v.kindName} found"))

def ofDraft (d : Draft) : RenderCommand where
  program := programOf d
  line compositionId output properties := do
    let start ← (← d.field "command").items
    let entryPoint ← d.field "entry_point"
    let shown (name : String) : Except Fault String := return (← d.field name).operand.shown
    let codecName ← shown "codec"
    let quality ← shown "crf"
    let pixelFormat ← shown "pixel_format"
    let concurrency ← shown "concurrency"
    textsOf (start.map Draft.operand ++ entryPoint.operand ::
      [.str compositionId, .str output.text,
        .str s!"--codec={codecName}",
        .str s!"--crf={quality}",
        .str s!"--pixel-format={pixelFormat}",
        .str s!"--concurrency={concurrency}",
        .str s!"--props={properties.text}"])
  bakesFrames := ((d.field? "bake_frames").map Draft.isPresent).getD false

end RenderCommand

/-! ## The renderer -/

open StillMotion.Number

variable {ε : Type}

namespace CommandRenderer

def isInstalled (program : String) : Act ε Bool := do
  let w ← Act.workspace
  return Scripting.isAvailable w.files w.directory w.environment program

/-- Write the properties of a composition to a fresh file. -/
def writeProperties (bakesFrames : Bool) (directory : Path) (request : RenderRequest) :
    Act ε Path := do
  Act.makeDirectories directory
  let name ← Act.newName "props" ".json"
  let path := directory.join (Path.ofText name)
  let properties ← Act.ofArithmetic
    (request.composition.renderProps request.imageSource bakesFrames)
  Act.ofArithmetic (Json.requireText (.mapping properties))
  Act.writeText path (Json.text Json.indented (.mapping properties))
  return path

/-- Render, unless the program is not installed; `directory` is for files of properties. -/
def render (launcher : Launcher ε) (command : RenderCommand) (directory : Path)
    (request : RenderRequest) : Act ε Path := do
  let program ← Act.of command.program
  if !(← isInstalled program) then throw (.launcherMissing program)
  Act.makeDirectories request.output.parent
  let properties ← writeProperties command.bakesFrames directory request
  let outcome ← Act.attempt do
    let line ← Act.of (command.line request.composition.id request.output properties)
    RenderOutcome.ofCommandGiven launcher line request.output request.deadline
  Act.removeIfThere properties
  let outcome ← Act.of outcome
  if outcome.isOk then return request.output else throw (.render outcome)

end CommandRenderer

def Renderer.ofCommand (launcher : Launcher ε) (command : RenderCommand) (directory : Path) :
    Renderer ε where
  id := pure "remotion"
  isAvailable := do CommandRenderer.isInstalled (← Act.of command.program)
  render := CommandRenderer.render launcher command directory

end StillMotion
