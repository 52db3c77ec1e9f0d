import StillMotion.Scripting.TextPrograms

/-!
# Programs for files

Programs that list, make, remove, copy and change files and directories.
-/

namespace StillMotion.Scripting

open StillMotion.Text Run

/-! ## Finding -/

def nodeAt (name : String) : Run (Except FileCause (Place × Node)) := do
  let s ← shell
  return do
    let place ← s.files.locate s.directory (Path.ofText name)
    match if name.isEmpty then none else s.files.node? place with
    | none => .error .notFound
    | some node => .ok (place, node)

def isDirectoryName (name : String) : Run Bool := do
  return (← nodeAt name).toOption.any fun entry => entry.2 matches .directory

/-- Run something for each of some names; the status is the greatest one. -/
def forNames (names : List String) (act : String → Run Nat) : Run Nat := do
  let mut status := 0
  for name in names do
    let result ← act name
    status := max status result
  return status

def each (streams : Streams) (program missing : String) (names : List String)
    (act : String → Run Nat) : Run Nat :=
  if names.isEmpty then misuse streams program s!"missing {missing}" else forNames names act

def failing (streams : Streams) (words : String) : Run Nat := do
  say streams.err (words ++ "\n")
  return 1

/-- Change the files; a failure is told. -/
def changeFiles (streams : Streams) (told : FileCause → String)
    (operation : Place → FileTree → Except FileCause FileTree) : Run Nat := do
  let s ← shell
  match operation s.directory s.files with
  | .ok files => do
      change fun s => { s with files }
      return 0
  | .error cause => failing streams (told cause)

def isWithin (outer place : Place) : Bool := place.take outer.length == outer

/-! ## Listing -/

def visibleNames (all : Bool) (names : List String) : List String :=
  ((names.filter fun n => all || !n.startsWith ".").mergeSort fun a b => !decide (b < a))

def listedNames (given : Given) (names : List String) : List String :=
  let shown := if given.has 'a' then visibleNames true ("." :: ".." :: names)
    else visibleNames (given.has 'A') names
  if given.has 'r' then shown.reverse else shown

def markOf (given : Given) (node : Option Node) : String :=
  match node with
  | some .directory => if given.has 'F' || given.has 'p' then "/" else ""
  | some (.file _ true) => if given.has 'F' then "*" else ""
  | _ => ""

/-- Write the entries of directories, and of those in them on demand; `fuel` bounds the depth. -/
def listDirectories (streams : Streams) (given : Given) (hasHeadings : Bool) :
    Nat → Bool → List (String × Place) → Run Bool
  | 0, isFirst, _ => return isFirst
  | _, isFirst, [] => return isFirst
  | fuel + 1, isFirst, (name, place) :: rest => do
      if hasHeadings then say streams.out ((if isFirst then "" else "\n") ++ name ++ ":\n")
      let files := (← shell).files
      let names := listedNames given (files.children place)
      let placeOf (child : String) : Place :=
        if child == "." then place else if child == ".." then place.dropLast else place ++ [child]
      let texts := names.map fun child => child ++ markOf given (files.node? (placeOf child))
      if given.has 'm' then
        if !texts.isEmpty then say streams.out (", ".intercalate texts ++ "\n")
      else for text in texts do say streams.out (text ++ "\n")
      let inner := if !given.has 'R' then [] else
        (names.filter fun child => child != "." && child != ".." &&
          files.isDirectory (place ++ [child])).map fun child =>
            (name ++ "/" ++ child, place ++ [child])
      listDirectories streams given hasHeadings fuel false (inner ++ rest)

def list (streams : Streams) (args : List String) : Run Nat :=
  withOptions streams "ls" { plain := "1aAdFmpqrRtSUXlhikCx" } args 2 fun given => do
    let names := if given.others.isEmpty then ["."]
      else given.others.mergeSort fun a b => !decide (b < a)
    let names := if given.has 'r' then names.reverse else names
    let mut status := 0
    let mut files : List (String × Node) := []
    let mut directories : List (String × Place) := []
    for name in names do
      match ← nodeAt name with
      | .error cause => do
          say streams.err s!"ls: cannot access '{name}': {cause.words}\n"
          status := 2
      | .ok (place, node) =>
          if (node matches .directory) && !given.has 'd' then
            directories := directories ++ [(name, place)]
          else files := files ++ [(name, node)]
    for (name, node) in files do say streams.out (name ++ markOf given (some node) ++ "\n")
    let hasHeadings := 1 < names.length || given.has 'R'
    let limit := (← shell).files.nodes.length + names.length + 2
    let _ ← listDirectories streams given hasHeadings limit files.isEmpty directories
    return status

/-! ## Making -/

def makePath (path : Path) (directory : Place) (tree : FileTree) : Except FileCause FileTree := do
  let leading := (List.range path.names.length).map fun n =>
    (⟨path.root, path.names.take (n + 1)⟩ : Path)
  leading.foldlM (fun tree path =>
    match tree.makeDirectory directory path with
    | .ok tree => .ok tree
    | .error .fileExists => do
        let place ← tree.locate directory path
        if tree.isDirectory place then .ok tree else .error .fileExists
    | .error cause => .error cause) tree

def makeDirectories (streams : Streams) (args : List String) : Run Nat :=
  let table : OptionTable :=
    { plain := "pv", valued := "m"
      names := [("parents", 'p'), ("verbose", 'v'), ("mode", 'm')] }
  withOptions streams "mkdir" table args 1 fun given =>
    each streams "mkdir" "operand" given.others fun name => do
      let status ← changeFiles streams
        (fun cause => s!"mkdir: cannot create directory ‘{name}’: {cause.words}")
        fun directory tree =>
          if given.has 'p' then makePath (Path.ofText name) directory tree
          else tree.makeDirectory directory (Path.ofText name)
      if status == 0 && given.has 'v' then
        say streams.out s!"mkdir: created directory '{name}'\n"
      return status

def touch (streams : Streams) (args : List String) : Run Nat :=
  let table : OptionTable := { plain := "acfhm", valued := "drt", names := [("no-create", 'c')] }
  withOptions streams "touch" table args 1 fun given =>
    each streams "touch" "file operand" given.others fun name => do
      if (← nodeAt name).toOption.isSome || given.has 'c' then return 0
      changeFiles streams (fun cause => s!"touch: cannot touch '{name}': {cause.words}")
        fun directory tree => tree.write directory (Path.ofText name) ByteArray.empty

/-! ## Removing -/

def removeAll (place : Place) (tree : FileTree) : FileTree :=
  ⟨tree.nodes.filter fun entry => !isWithin place entry.1⟩

def removalWords (name : String) (place : Place) (tree : FileTree) : List String :=
  let within := tree.nodes.filter fun entry => isWithin place entry.1
  let ordered := within.mergeSort fun a b =>
    isWithin b.1 a.1 || (!isWithin a.1 b.1 && !decide (b.1 < a.1))
  ordered.map fun (inner, node) =>
    let path := "/".intercalate (name :: inner.drop place.length)
    match node with
    | .directory => s!"removed directory '{path}'\n"
    | .file _ _ => s!"removed '{path}'\n"

def removeFiles (streams : Streams) (args : List String) : Run Nat :=
  let table : OptionTable :=
    { plain := "dfiIrRv"
      names := [("force", 'f'), ("recursive", 'r'), ("verbose", 'v'), ("dir", 'd')] }
  withOptions streams "rm" table args 1 fun given => do
    let told (name words : String) : String := s!"rm: cannot remove '{name}': {words}"
    let recursive := given.has 'r' || given.has 'R'
    let remove (name : String) (place : Place) : Run Nat := do
      let files := (← shell).files
      if given.has 'v' then
        for words in removalWords name place files do say streams.out words
      change fun s => { s with files := removeAll place s.files }
      return 0
    if given.has 'f' && given.others.isEmpty then return 0
    each streams "rm" "operand" given.others fun name => do
      let last := ((split '/' name).filter (!·.isEmpty)).getLast?
      match ← nodeAt name with
      | .error cause =>
          if given.has 'f' && (cause matches .notFound | .notDirectory) then return 0
          else failing streams (told name cause.words)
      | .ok (place, .file _ _) => remove name place
      | .ok (place, .directory) => do
          if recursive && (last == some "." || last == some "..") then
            failing streams
              s!"rm: refusing to remove '.' or '..' directory: skipping '{name}'"
          else if recursive then remove name place
          else if !given.has 'd' then failing streams (told name FileCause.isDirectory.words)
          else if ((← shell).files.children place).isEmpty then remove name place
          else failing streams (told name "Directory not empty")

def removeDirectories (streams : Streams) (args : List String) : Run Nat :=
  withOptions streams "rmdir" { plain := "pv" } args 1 fun given =>
    each streams "rmdir" "operand" given.others fun name => do
      let told (words : String) : Run Nat :=
        failing streams s!"rmdir: failed to remove '{name}': {words}"
      if given.has 'v' then say streams.out s!"rmdir: removing directory, '{name}'\n"
      match ← nodeAt name with
      | .error cause => told cause.words
      | .ok (_, .file _ _) => told FileCause.notDirectory.words
      | .ok (place, .directory) =>
          if ((← shell).files.children place).isEmpty then do
            change fun s => { s with files := s.files.remove place }
            return 0
          else told "Directory not empty"

/-! ## Copying -/

/-- The tree with what is at one place and below it also at another place. -/
def copiedTree (source target : Place) (tree : FileTree) : FileTree :=
  let moved := (tree.nodes.filter fun entry => isWithin source entry.1).map fun entry =>
    (target ++ entry.1.drop source.length, entry.2)
  moved.foldl (fun tree (place, node) => tree.put place node) tree

def copyOne (moves : Bool) (program : String) (streams : Streams) (given : Given)
    (source target : String) : Run Nat := do
  let fail (words : String) : Run Nat := failing streams s!"{program}: {words}"
  let isOther (cause : FileCause) : Bool := cause matches .notFound | .notDirectory
  match ← nodeAt source with
  | .error cause => fail s!"cannot stat '{source}': {cause.words}"
  | .ok (origin, node) => do
      let recursive := moves || ['r', 'R', 'a'].any given.has
      let isTree := node matches .directory
      if isTree && !recursive then
        return ← fail s!"-r not specified; omitting directory '{source}'"
      let s ← shell
      let present ← nodeAt target
      let kind := if isTree then "directory" else "regular file"
      match s.files.locate s.directory (Path.ofText target), present with
      | .error cause, _ => fail s!"cannot create {kind} '{target}': {cause.words}"
      | .ok place, present => do
          if place == origin then
            return ← fail s!"'{source}' and '{target}' are the same file"
          if isTree && isWithin origin place then
            return ← fail (if moves then
                s!"cannot move '{source}' to a subdirectory of itself, '{target}'"
              else s!"cannot copy a directory, '{source}', into itself, '{target}'")
          match present with
          | .ok (_, .file _ _) =>
              if isTree then
                return ← fail s!"cannot overwrite non-directory '{target}' with directory '{source}'"
          | .ok (_, .directory) =>
              if !isTree then
                return ← fail s!"cannot overwrite directory '{target}' with non-directory"
          | .error cause =>
              if !isOther cause || (target.endsWith "/" && !isTree) then
                return ← fail s!"cannot create {kind} '{target}': {FileCause.notDirectory.words}"
          change fun s =>
            let copied := copiedTree origin place s.files
            { s with files := if moves then removeAll origin copied else copied }
          if given.has 'v' then
            say streams.out ((if moves then "renamed " else "") ++ s!"'{source}' -> '{target}'\n")
          return 0

def copy (moves : Bool) (program : String) (streams : Streams) (args : List String) : Run Nat :=
  let table : OptionTable :=
    { plain := if moves then "bfinTuvZ" else "abdfHilLnPpRrsTuvxZ", valued := "St"
      names := [("recursive", 'r'), ("archive", 'a'), ("force", 'f'), ("verbose", 'v')] }
  withOptions streams program table args 1 fun given => do
    match given.others.reverse with
    | [] => misuse streams program "missing file operand"
    | [name] => misuse streams program s!"missing destination file operand after '{name}'"
    | target :: sources => do
        let into ← isDirectoryName target
        if 1 < sources.length && !into then
          let cause := match ← nodeAt target with
            | .error cause => cause
            | .ok _ => .notDirectory
          failing streams s!"{program}: target '{target}': {cause.words}"
        else forNames sources.reverse fun source =>
          let inner := (if target.endsWith "/" then target else target ++ "/") ++
            (Path.ofText source).name
          copyOne moves program streams given source (if into then inner else target)

/-! ## Changing -/

/-- What a mode makes of whether a file can be run; nothing when it is no mode. -/
def modeEffect? (mode : String) : Option (Bool → Bool) :=
  let cs := mode.toList
  if !cs.isEmpty && cs.all isOctal then
    if 4 < cs.length then none else some fun _ => cs.any fun c => (c.toNat - 48) % 2 == 1
  else
    let parts := split ',' mode
    let effect? (part : String) : Option (Bool → Bool) :=
      let rest := part.toList.dropWhile fun c => "ugoa".contains c
      match rest with
      | op :: letters =>
          if !letters.all fun c => "rwxXstugo".contains c then none
          else if op == '+' then some fun before => before || letters.contains 'x'
          else if op == '-' then some fun before => before && !letters.contains 'x'
          else if op == '=' then some fun _ => letters.contains 'x'
          else none
      | [] => none
    parts.foldl (fun seen part => do
      let before ← seen
      let after ← effect? part
      some fun flag => after (before flag)) (some id)

def changeMode (streams : Streams) (args : List String) : Run Nat := do
  let isOption (arg : String) : Bool := ["-R", "-v", "-c", "-f"].contains arg
  match args.filter fun arg => !isOption arg with
  | [] => misuse streams "chmod" "missing operand"
  | [mode] => misuse streams "chmod" s!"missing operand after ‘{mode}’"
  | mode :: names =>
      match modeEffect? mode with
      | none => misuse streams "chmod" s!"invalid mode: ‘{mode}’"
      | some effect => forNames names fun name => do
          match ← nodeAt name with
          | .error cause => failing streams s!"chmod: cannot access '{name}': {cause.words}"
          | .ok (_, .directory) => return 0
          | .ok (place, .file content executable) => do
              let node := Node.file content (effect executable)
              change fun s => { s with files := s.files.put place node }
              return 0

/-- A size with a unit; nothing when it is no size. -/
def size? (s : String) : Option Nat :=
  let digits := s.toList.takeWhile isAsciiDigit
  let factor? := match String.ofList (s.toList.drop digits.length) with
    | "" | "c" => some 1
    | "b" => some 512
    | "K" | "k" | "KiB" => some 1024
    | "kB" | "KB" => some 1000
    | "M" | "MiB" => some 1048576
    | "MB" => some 1000000
    | _ => none
  if digits.isEmpty then none else factor?.map (digitsValue digits * ·)

def sizeOf (s : String) : Nat := (size? s).getD 0

def copyBlocks (streams : Streams) (args : List String) : Run Nat := do
  let operand? (name : String) : Option String :=
    args.findSome? fun a => (dropLead? (name ++ "=").toList a.toList).map String.ofList
  let blockSize := ((operand? "bs").map sizeOf).getD 512
  let numbers := (["bs", "count", "skip", "seek"].filterMap operand?)
  match numbers.find? fun n => (size? n).isNone with
  | some wrong => return ← failing streams s!"dd: invalid number: ‘{wrong}’"
  | none => pure ()
  let input ← match operand? "if" with
    | some name => openInput name
    | none => pure (.ok (← shell).input)
  match input with
  | .error cause =>
      let name := (operand? "if").getD ""
      failing streams s!"dd: failed to open '{name}': {cause.words}"
  | .ok input => do
      let skipped := blockSize * ((operand? "skip").map sizeOf).getD 0
      let bytes ← match operand? "count" with
        | some n => pure (firstBytes (skipped + blockSize * sizeOf n) input)
        | none => allBytes input
      let bytes := bytes.extract skipped bytes.size
      match operand? "of" with
      | none => do
          write streams.out bytes
          return 0
      | some name =>
          match ← openFile false name with
          | .ok target => do
              write target bytes
              return 0
          | .error cause => failing streams s!"dd: failed to open '{name}': {cause.words}"

def truncate (streams : Streams) (args : List String) : Run Nat :=
  let table : OptionTable :=
    { plain := "co", valued := "sr", names := [("size", 's'), ("no-create", 'c')] }
  withOptions streams "truncate" table args 1 fun given => do
    match given.value? 's' with
    | none => misuse streams "truncate" "you must specify either ‘--size’ or ‘--reference’"
    | some text =>
        let (sign, digits) := match text.toList with
          | '+' :: rest => (some true, String.ofList rest)
          | '-' :: rest => (some false, String.ofList rest)
          | _ => (none, text)
        match size? digits with
        | none => failing streams s!"truncate: Invalid number: ‘{text}’"
        | some amount =>
            each streams "truncate" "file operand" given.others fun name => do
              let before ← match ← openInput name with
                | .ok (.bytes content) => pure content
                | _ => pure ByteArray.empty
              let size := match sign with
                | some true => before.size + amount
                | some false => before.size - amount
                | none => amount
              let content := before.extract 0 size ++ zeroBytes (size - before.size)
              changeFiles streams
                (fun cause => s!"truncate: cannot open '{name}' for writing: {cause.words}")
                fun directory tree => tree.write directory (Path.ofText name) content

end StillMotion.Scripting
