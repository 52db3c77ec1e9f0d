import StillMotion.Failure.Fault
import StillMotion.Files.Path

/-!
# File trees

A tree of directories and files, addressed by the names from the top.  Finding a path walks
through existing directories; where the last name leads need not exist.  Operations answer
with the cause when they cannot be done.
-/

namespace StillMotion

inductive Node where
  | directory
  | file (content : ByteArray) (executable : Bool)

abbrev Place := List String

structure FileTree where
  nodes : List (Place × Node)

namespace FileTree

def empty : FileTree := ⟨[]⟩

/-- What is at a place; the top is a directory. -/
def node? (tree : FileTree) (place : Place) : Option Node :=
  if place.isEmpty then some .directory
  else (tree.nodes.find? fun entry => entry.1 == place).map (·.2)

def isDirectory (tree : FileTree) (place : Place) : Bool :=
  match tree.node? place with
  | some .directory => true
  | _ => false

def file? (tree : FileTree) (place : Place) : Option ByteArray :=
  match tree.node? place with
  | some (.file content _) => some content
  | _ => none

def isExecutable (tree : FileTree) (place : Place) : Bool :=
  match tree.node? place with
  | some (.file _ executable) => executable
  | _ => false

def put (place : Place) (node : Node) (tree : FileTree) : FileTree :=
  if tree.nodes.any fun entry => entry.1 == place then
    ⟨tree.nodes.map fun entry => if entry.1 == place then (place, node) else entry⟩
  else ⟨tree.nodes ++ [(place, node)]⟩

def append (place : Place) (bytes : ByteArray) (tree : FileTree) : FileTree :=
  match tree.node? place with
  | some (.file content executable) => tree.put place (.file (content ++ bytes) executable)
  | _ => tree.put place (.file bytes false)

def remove (place : Place) (tree : FileTree) : FileTree :=
  ⟨tree.nodes.filter fun entry => entry.1 != place⟩

def children (tree : FileTree) (place : Place) : List String :=
  tree.nodes.filterMap fun entry =>
    match entry.1.getLast? with
    | some name => if entry.1.dropLast == place then some name else none
    | none => none

/-! ## Finding -/

def nameLimit : Nat := 255

def walk (tree : FileTree) (place : Place) : List String → Except FileCause Place
  | [] => .ok place
  | name :: rest =>
      match tree.node? place with
      | none => .error .notFound
      | some (.file _ _) => .error .notDirectory
      | some .directory =>
          if name == ".." then walk tree place.dropLast rest
          else if nameLimit < name.utf8ByteSize then .error .nameTooLong
          else walk tree (place ++ [name]) rest

def pathLimit : Nat := 4095

/-- Where a path leads, seen from a directory. -/
def locate (tree : FileTree) (directory : Place) (path : Path) : Except FileCause Place :=
  if pathLimit < path.text.utf8ByteSize then .error .nameTooLong
  else tree.walk (if path.isAbsolute then [] else directory) path.names

/-! ## Operations -/

def read (tree : FileTree) (directory : Place) (path : Path) : Except FileCause ByteArray := do
  let place ← tree.locate directory path
  match tree.node? place with
  | none => .error .notFound
  | some .directory => .error .isDirectory
  | some (.file content _) => .ok content

def write (directory : Place) (path : Path) (content : ByteArray) (tree : FileTree) :
    Except FileCause FileTree := do
  let place ← tree.locate directory path
  match tree.node? place with
  | some .directory => .error .isDirectory
  | some (.file _ executable) => .ok (tree.put place (.file content executable))
  | none => .ok (tree.put place (.file content false))

def makeDirectory (directory : Place) (path : Path) (tree : FileTree) :
    Except FileCause FileTree := do
  let place ← tree.locate directory path
  match tree.node? place with
  | some _ => .error .fileExists
  | none => .ok (tree.put place .directory)

def unlink (directory : Place) (path : Path) (tree : FileTree) : Except FileCause FileTree := do
  let place ← tree.locate directory path
  match tree.node? place with
  | none => .error .notFound
  | some .directory => .error .isDirectory
  | some (.file _ _) => .ok (tree.remove place)

def plant (place : Place) (node : Node) (tree : FileTree) : FileTree :=
  let leading := (List.range place.length).map fun n => place.take n
  let tree := leading.foldl (fun tree dir =>
    if (tree.node? dir).isSome then tree else tree.put dir .directory) tree
  tree.put place node

def listing (tree : FileTree) (place : Place) : List String :=
  let below := tree.nodes.filterMap fun entry =>
    match entry.2 with
    | .file _ _ =>
        if entry.1.take place.length == place && place.length < entry.1.length
        then some ("/".intercalate (entry.1.drop place.length)) else none
    | .directory => none
  below.mergeSort fun a b => !decide (b < a)

end FileTree

end StillMotion
