import Std.Time.DateTime.Timestamp
import StillMotion.Artifact.Naming
import StillMotion.Cli.Run

/-!
# The command line program

The files that a command line names are read into a workspace, the command runs there, and the
files that it has changed are written back.
-/

namespace StillMotion.Program

def placeOf (path : String) : Place := (Path.ofText path).names

def leading (place : Place) : List Place := (List.range (place.length + 1)).map place.take

def textOf (place : Place) : String := "/" ++ "/".intercalate place

def fileAt? (place : Place) : IO (Option ByteArray) := do
  try
    return some (← IO.FS.readBinFile (textOf place))
  catch _ => return none

def candidates (directory : Place) (args : List String) : List Place :=
  let named := args.map fun arg =>
    let text := match Text.cut? '=' arg.toList with
      | some (_, value) => String.ofList value
      | none => arg
    let path := Path.ofText text
    if path.isAbsolute then path.names else Config.follow directory path.names
  named ++ (leading directory).map fun place => place ++ [Config.fileName]

def readTree (directory : Place) (args : List String) : IO FileTree := do
  let mut tree := FileTree.empty.plant directory .directory
  for place in candidates directory args do
    match ← fileAt? place with
    | some content => tree := tree.plant place (.file content false)
    | none => pure ()
  return tree

def environmentOf (names : List String) : IO (List (String × String)) := do
  let values ← names.mapM fun name => return (name, ← IO.getEnv name)
  return values.filterMap fun (name, value) => value.map fun value => (name, value)

def withProgram (environment : List (String × String)) (directory : Place) (program : String)
    (tree : FileTree) : IO FileTree := do
  let paths := (Scripting.listedDirectories environment).map (Scripting.pathIn · program)
  let mut tree := tree
  for path in program :: paths do
    let path := Path.ofText path
    let place := if path.isAbsolute then path.names else Config.follow directory path.names
    match ← fileAt? place with
    | some content => tree := tree.plant place (.file content true)
    | none => pure ()
  return tree

def writeBack (before after : FileTree) : IO Unit := do
  for (place, node) in after.nodes do
    match node with
    | .directory => pure ()
    | .file content _ =>
        if (before.file? place).map (·.data) != some content.data then
          IO.FS.createDirAll (textOf place.dropLast)
          IO.FS.writeBinFile (textOf place) content

def keyVariable (config : Config) : String :=
  (config.providers.openai.getD .standard).apiKeyVariable

def unreachable (_ : Vision.ChatRequest) : Act Unit Vision.Reply :=
  throw (.external "APIConnectionError" (some "Connection error."))

def services : Services Unit := ⟨unreachable, Launcher.standard, .ofWorkspace⟩

def start (files : FileTree) (directory : Place) (microseconds identifiers : Nat) :
    Workspace Unit where
  files
  directory
  environment := []
  time := Number.ofInt microseconds / 1000000.0
  now := .ofMicroseconds microseconds
  identifiers
  clock := 0.0
  tick := 0.0
  sleeps := []
  log := []
  outside := ()

/-- The option that names a configuration, as far as it tells which variables are needed. -/
def configOf? (args : List String) : Option Path :=
  match args.dropWhile (· != "--config") with
  | _ :: path :: _ => some (Path.ofText path)
  | _ => none

def main (args : List String) : IO UInt32 := do
  let directory := placeOf (← IO.currentDir).toString
  let files ← readTree directory args
  let nanoseconds := (← Std.Time.Timestamp.now).toNanosecondsSinceUnixEpoch.val.toNat
  let start := start files directory (nanoseconds / 1000) (← IO.rand 0 0xFFFFFFFF)
  let (loaded, _) := ((Config.loadOrDefault (configOf? args) : Act Unit Config).run).run start
  let config := loaded.toOption.getD .standard
  let environment ← environmentOf [Scripting.searchVariable, keyVariable config]
  let files ← withProgram environment directory config.render.program files
  let (outcome, finish) := ((Cli.run services args).run).run { start with files, environment }
  for line in finish.log.reverse do
    IO.eprintln line
  writeBack files finish.files
  match outcome with
  | .error fault => do
      IO.eprintln s!"{fault.kind}: {fault.message}"
      return 1
  | .ok transcript => do
      IO.print transcript.output
      match transcript.fault with
      | some fault => IO.eprintln s!"{fault.kind}: {fault.message}"
      | none => pure ()
      return UInt32.ofNat transcript.code

end StillMotion.Program

def main (args : List String) : IO UInt32 := StillMotion.Program.main args
