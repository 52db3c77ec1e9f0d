import StillMotion.Scripting.LinePrograms

/-!
# Finding programs

A name is looked for in the directories that a variable lists; a name with a slash in it is a path.
-/

namespace StillMotion.Scripting

def programDirectories : List String := ["/bin", "/usr/bin", "/usr/local/bin"]

def searchVariable : String := "PATH"

def searchedWith (environment : List (String × String)) : List String :=
  match environment.find? fun entry => entry.1 == searchVariable with
  | some (_, list) => Text.split ':' list
  | none => programDirectories

inductive Startable where
  | program (name : String)
  /-- A file of the workspace that may be run. -/
  | script
  | missing (cause : FileCause)
deriving DecidableEq, Repr

def starterNames : List String := ["env", "timeout", "nice", "nohup", "setsid", "xargs", "which", "kill"]

def isProgramName (name : String) : Bool :=
  shellNames.contains name || programNames.contains name || lineProgramNames.contains name ||
    starterNames.contains name

def installedProgram? (command : String) : Option String :=
  let path := Path.ofText command
  if path.isAbsolute && programDirectories.contains path.parent.text && isProgramName path.name then
    some path.name
  else none

def atPath (files : FileTree) (directory : Place) (command : String) : Startable :=
  match installedProgram? command with
  | some name => .program name
  | none =>
      match files.locate directory (Path.ofText command) with
      | .error cause => .missing cause
      | .ok place =>
          match files.node? place with
          | none => .missing .notFound
          | some (.file _ true) => .script
          | some _ => .missing .permission

def directoryNames : List String := ["", ".", ".."]

/-- What a command starts; `searched` are the directories that are searched for names. -/
def startable (files : FileTree) (directory : Place) (searched : List String)
    (command : String) : Startable :=
  if command.contains '/' then atPath files directory command
  else if directoryNames.contains command then .missing .permission
  else if FileTree.nameLimit < command.utf8ByteSize then .missing .nameTooLong
  else if isProgramName command && searched.any programDirectories.contains then .program command
  else .missing .notFound

/-! ## Looking for programs -/

/-- Whether a text is the path of a file that may be run.  A last name that leads to a directory
names no file. -/
def isRunnable (files : FileTree) (directory : Place) (text : String) : Bool :=
  let path := Path.ofText text
  if FileTree.pathLimit < text.utf8ByteSize || path.holdsNull ||
      directoryNames.contains ((Text.split '/' text).getLast?.getD "") then false
  else
    match files.walk (if path.isAbsolute then [] else directory) path.names with
    | .ok place => files.isExecutable place
    | .error _ => false

/-- The path of a name in a directory; no directory stands for the current one. -/
def pathIn (dir name : String) : String :=
  if dir.isEmpty || dir.toList.getLast? == some '/' then dir ++ name else dir ++ "/" ++ name

def standardDirectories : List String := ["/bin", "/usr/bin"]

/-- The directories that are searched for programs; an empty variable lists none. -/
def listedDirectories (environment : List (String × String)) : List String :=
  match environment.find? fun entry => entry.1 == searchVariable with
  | none => standardDirectories
  | some (_, list) => if list.isEmpty then [] else Text.split ':' list

/-- Whether a command is found before it is started: at its path, if there is a slash in it, or in a
directory that is searched. -/
def isAvailable (files : FileTree) (directory : Place) (environment : List (String × String))
    (command : String) : Bool :=
  let paths := if '/' ∈ command.toList then [command]
    else (listedDirectories environment).map (pathIn · command)
  paths.any (isRunnable files directory)

end StillMotion.Scripting
