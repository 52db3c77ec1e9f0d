import StillMotion.Cli.Command
import StillMotion.Console.Table
import StillMotion.Console.Terminal
import StillMotion.Data.JsonSchema
import StillMotion.Document.Read
import StillMotion.Pipeline.Service

/-!
# Running commands

Every command prints what it has done.  The exit code is 2 when the command line, the
configuration or an input does not fit, and 1 when the work itself has failed.
-/

namespace StillMotion.Cli

open StillMotion.Number

variable {ε α : Type}

def misuse : Nat := 2

def failure : Nat := 1

def heading (words : String) : String := s!"[bold red]{words}[/bold red]"

/-! ## Inputs -/

def requireFile (path : Path) : Session ε Unit := do
  match ← Session.attempt (Act.nodeAt? path) with
  | .ok (some (.file _ _)) => pure ()
  | _ => Session.exit misuse

def orConfigError (act : Act ε α) : Session ε α := do
  match ← Session.attempt act with
  | .ok a => return a
  | .error (.config detail path issues) => do
      let fault : Fault := .config detail path issues
      Session.say (heading "Config error:" ++ " " ++ Markup.escape fault.message)
      Session.exit misuse
  | .error fault => throw (.fault fault)

def loadConfig (path? : Option Path) : Session ε Config :=
  orConfigError (Config.loadOrDefault path?)

def isInputFault : Fault → Bool
  | .file _ _ | .nullInPath | .encoding _ | .rootNotMapping _ | .numeralTooLong _ => true
  | .invalid _ _ => true
  | .arithmetic .nanToInteger => true
  | .external kind _ => kind == "ValueError"
  | _ => false

def sayUnreadable (path : Path) (fault : Fault) : Session ε α := do
  Session.say (heading "Cannot read" ++ s!" {path.text}: " ++ Markup.escape fault.message)
  Session.exit misuse

def sayInvalid (what : String) (fault : Fault) : Session ε α := do
  Session.say (heading s!"Invalid {what}:" ++ " " ++ Markup.escape fault.message)
  Session.exit misuse

/-- The outcome of reading a file of some kind; faults of the input are told. -/
def orInputError (path : Path) (what : String) (act : Act ε α) : Session ε α := do
  match ← Session.attempt act with
  | .ok a => return a
  | .error (.invalid title issues) => sayInvalid what (.invalid title issues)
  | .error fault =>
      if isInputFault fault then sayUnreadable path fault else throw (.fault fault)

/-! ## Outputs -/

def deliver (payload : Value) (out? : Option Path) : Session ε Unit := do
  match out? with
  | some path => do
      Session.lift (Document.write path payload)
      Session.say s!"Wrote {path.text}"
  | none => do
      Session.lift (Act.ofArithmetic (Json.requireText payload))
      Session.print payload

def seconds (x : Float) : String := String.ofList (fixedText 2 x) ++ "s"

/-! ## Commands -/

def sayStage (result : StageResult) : Session ε Unit :=
  let mark := if result.succeeded then "[green]✓[/green]" else "[red]✗[/red]"
  Session.say (s!"  {mark} {result.stage.word} ({seconds result.duration}, " ++
    s!"{result.attempts} attempt(s))")

def sayFailure (fault : Fault) : Session ε α := do
  match fault with
  | .pipeline message category requestId _ => do
      Session.say (heading "Failed" ++ s!" ({category.word}) " ++ Markup.escape message)
      Session.say s!"Request: {requestId}"
      Session.exit failure
  | fault => throw (.fault fault)

def generate (services : Services ε) (image : Path) (prompt : String)
    (config? save? : Option Path) : Session ε Unit := do
  requireFile image
  let config ← loadConfig config?
  let pipeline ← orConfigError (Pipeline.ofConfig services config)
  Session.say s!"[bold]Generating[/bold] {image.text}"
  match ← Session.attempt (pipeline.run image.text prompt none) with
  | .error fault => sayFailure fault
  | .ok result => do
      result.stages.forM sayStage
      match save? with
      | some path => do
          Session.lift (Document.write path (MotionIR.codec.encode result.motion))
          Session.say s!"Motion-IR: {path.text}"
      | none => pure ()
      Session.say s!"\n[bold green]Done[/bold green] in {seconds result.seconds}"
      Session.say s!"Output: {result.output.text}"
      Session.say s!"URL: {result.address}"

def providerName (config : Config) (provider? : Option String) : String :=
  match provider? with
  | some name => if name.isEmpty then config.defaultProvider else name
  | none => config.defaultProvider

def analyze (services : Services ε) (image : String) (config? : Option Path)
    (provider? : Option String) (out? : Option Path) : Session ε Unit := do
  let config ← loadConfig config?
  let w ← Session.lift Act.workspace
  let environment : Registry.Environment := fun name =>
    (w.environment.find? fun entry => entry.1 == name).map (·.2)
  match (Registry.ofConfig config).get environment (providerName config provider?) with
  | .error fault => do
      Session.say (heading "Provider error:" ++ " " ++ Markup.escape fault.message)
      Session.exit misuse
  | .ok (made, _) => do
      let schema ← Session.lift (VisualSchema.ofImage (some (made.backend services.client)) image)
      deliver (VisualSchema.codec.encode schema) out?

def direct (schemaFile : Path) (prompt : String) (image? : Option String)
    (config? out? : Option Path) : Session ε Unit := do
  requireFile schemaFile
  let config ← loadConfig config?
  let schema ← orInputError schemaFile "visual schema" (Document.load VisualSchema.codec schemaFile)
  let motion ← Session.lift (Act.of
    (Director.direct schema prompt image? none (.ofSettings config.director)))
  deliver (MotionIR.codec.encode motion) out?
  if !motion.validation.isValid then
    Session.say (heading "Errors")
    motion.validation.errors.forM fun error => Session.say s!"- {Markup.escape error}"
    Session.exit misuse

def compose (motionFile : Path) (bake : Bool) (out? : Option Path) : Session ε Unit := do
  requireFile motionFile
  let motion ← orInputError motionFile "Motion-IR" do
    Act.of (MotionIR.ofDocument (← Document.read motionFile))
  let composition ← Session.lift (Act.ofArithmetic motion.timeline.compose)
  let properties ← Session.lift (Act.ofArithmetic (composition.renderProps none bake))
  deliver (.mapping properties) out?

def componentRow (component : String × Bool) : List String :=
  [component.1, if component.2 then "ok" else "failed"]

def health (services : Services ε) (config? : Option Path) : Session ε Unit := do
  let config ← loadConfig config?
  let pipeline ← orConfigError (Pipeline.ofConfig services config)
  let report ← Session.lift pipeline.health
  let stats ← Session.lift pipeline.stats
  (Table.lines "Pipeline health" ["Component", "Status"]
    (report.components.map componentRow)).forM Session.say
  let availability := if stats.rendererAvailable then "available" else "not installed"
  Session.say s!"Provider: {stats.analyst}  Renderer: {stats.renderer} ({availability})"
  if !report.errors.isEmpty then
    Session.say ("\n" ++ heading "Errors:")
    report.errors.forM fun error => Session.say s!"  - {Markup.escape error}"
    Session.exit failure

def descriptions : List (String × Entries) :=
  [("timeline.schema.json", JsonSchema.describe Timeline.codec.shape),
   ("visual_schema.schema.json", JsonSchema.describe VisualSchema.codec.shape),
   ("composition.schema.json", JsonSchema.describe Composition.codec.shape)]

def exportDescriptions (directory : Path) : Session ε Unit := do
  Session.lift (Act.makeDirectories directory)
  descriptions.forM fun (name, description) => do
    let path := directory.child name
    Session.lift (Act.writeText path (Json.text Json.indented (.mapping description)))
    Session.say s!"Wrote {path.text}"

/-! ## Command lines -/

def session (services : Services ε) : CliCommand → Session ε Unit
  | .generate image prompt config save => generate services image prompt config save
  | .analyze image config provider out => analyze services image config provider out
  | .direct schema prompt image config out => direct schema prompt image config out
  | .compose motion bake out => compose motion bake out
  | .health config => health services config
  | .exportDescriptions directory => exportDescriptions directory
  | .help => pure ()

def run (services : Services ε) (args : List String) : Act ε Transcript :=
  Transcript.ofSession <|
    match CliCommand.ofArguments? args with
    | some command => session services command
    | none => Session.exit misuse

end StillMotion.Cli
