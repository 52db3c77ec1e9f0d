import StillMotion.Scripting.Pattern
import StillMotion.Scripting.Programs

/-!
# Fields

The words of a command are expanded to pieces.  Pieces are cut into fields at the separators that
expansions brought in, and fields are matched against the names of files.
-/

namespace StillMotion.Scripting

open StillMotion.Text

inductive Piece where
  | char (c : Char) (isQuoted isExpanded : Bool)
  /-- Quotes, which make a field even when nothing is between them. -/
  | quotes
  /-- The border between two arguments. -/
  | border
  /-- All of no arguments, which makes no field in spite of quotes. -/
  | noArguments

/-! ## Separators -/

def isFieldGap (c : Char) : Bool := c == ' ' || c == '\t' || c == '\n'

def separatorsName : String := "IFS"

/-- The separators of fields: blanks, unless others are set. -/
def separatorsOf (environment : List (String × String)) : List Char :=
  match environment.find? fun entry => entry.1 == separatorsName with
  | some (_, text) => text.toList
  | none => [' ', '\t', '\n']

/-- The fields of a word.  `current` is the field so far, in reverse; `isClosed` tells that a
blank has just ended a field, so that another separator after it ends no second one. -/
def fieldsFrom (separators : List Char) (isClosed : Bool) (current : Option (List Marked)) :
    List Piece → List (List Marked)
  | [] => (current.map List.reverse).toList
  | .quotes :: .noArguments :: rest => fieldsFrom separators isClosed current rest
  | .quotes :: rest => fieldsFrom separators false (some (current.getD [])) rest
  | .noArguments :: rest => fieldsFrom separators isClosed current rest
  | .border :: rest =>
      (current.map List.reverse).toList ++ fieldsFrom separators false none rest
  | .char c isQuoted isExpanded :: rest =>
      if isExpanded && !isQuoted && separators.contains c then
        match current with
        | some field => field.reverse :: fieldsFrom separators (isFieldGap c) none rest
        | none =>
            if isFieldGap c then fieldsFrom separators isClosed none rest
            else if isClosed then fieldsFrom separators false none rest
            else [] :: fieldsFrom separators false none rest
      else fieldsFrom separators false (some ((c, isQuoted) :: current.getD [])) rest

def fieldText (field : List Marked) : String := String.ofList (field.map (·.1))

/-! ## Pieces -/

def markedOf (pieces : List Piece) : List Marked :=
  pieces.filterMap fun piece =>
    match piece with
    | .char c isQuoted _ => some (c, isQuoted)
    | .border => some (' ', true)
    | _ => none

def wholeText (pieces : List Piece) : String := fieldText (markedOf pieces)

def textPieces (isQuoted isExpanded : Bool) (s : String) : List Piece :=
  s.toList.map fun c => .char c isQuoted isExpanded

/-- The pieces of a word that an expansion brings in; quotes around it quote all of it. -/
def insertedPieces (isQuoted : Bool) (pieces : List Piece) : List Piece :=
  if isQuoted then textPieces true true (wholeText pieces)
  else pieces.map fun piece =>
    match piece with
    | .char c quoted _ => .char c quoted true
    | piece => piece

def argumentPieces (isQuoted : Bool) : List String → List Piece
  | [] => []
  | [a] => .quotes :: textPieces isQuoted true a
  | a :: rest => .quotes :: textPieces isQuoted true a ++ .border :: argumentPieces isQuoted rest

def argumentFields (isQuoted : Bool) (args : List String) : List Piece :=
  if isQuoted then if args.isEmpty then [.noArguments] else argumentPieces true args
  else args.flatMap fun a => textPieces false true a ++ [.border]

/-! ## Names of files -/

def splitMarked (cs : List Marked) : List (List Marked) :=
  match cs with
  | [] => [[]]
  | (c, isQuoted) :: rest =>
      if c == '/' then [] :: splitMarked rest
      else match splitMarked rest with
        | [] => [[(c, isQuoted)]]
        | piece :: more => ((c, isQuoted) :: piece) :: more

def pathsOf (files : FileTree) (place : Place) (leading : String) :
    List (List Marked) → List String
  | [] => []
  | part :: rest =>
      let names := if hasPattern part then
          let isHidden := part.head?.any fun m => m.1 == '.'
          visibleNames isHidden ((if isHidden then [".", ".."] else []) ++ files.children place)
            |>.filter fun name => isMatch part name.toList
        else [fieldText part]
      names.flatMap fun name =>
        if rest.isEmpty then
          if (files.node? (place ++ [name])).isSome then [leading ++ name] else []
        else pathsOf files (if name.isEmpty then place else place ++ [name])
          (leading ++ name ++ "/") rest

def fileNames (s : Shell) (field : List Marked) : List String :=
  if hasPattern field then
    let absolute := field.head?.any fun m => m.1 == '/'
    let found := pathsOf s.files (if absolute then [] else s.directory) "" (splitMarked field)
    if found.isEmpty then [fieldText field] else found
  else [fieldText field]

def argumentsOf (s : Shell) (pieces : List Piece) : List String :=
  (fieldsFrom (separatorsOf s.environment) false none pieces).flatMap (fileNames s)

/-! ## Parameters -/

def joinedArguments (s : Shell) : String :=
  let separator := (separatorsOf s.environment).head?.map String.singleton
  (separator.getD "").intercalate s.arguments

def parameterValue (s : Shell) (name : String) : Option String :=
  match name with
  | "#" => some (toString s.arguments.length)
  | "?" => some (toString s.status)
  | "$" => some (toString s.process)
  | "!" => (s.jobs.map Job.number ++ s.ended.map (·.1)).max?.map toString
  | "@" | "*" => some (joinedArguments s)
  | "0" => some s.name
  | "-" => some ""
  | name =>
      if name.toList.all isAsciiDigit then s.arguments[digitsValue name.toList - 1]?
      else (s.environment.find? fun entry => entry.1 == name).map (·.2)

/-! ## Lines of input -/

def withoutBackslashes : List Char → List Char
  | '\\' :: c :: rest => c :: withoutBackslashes rest
  | c :: rest => c :: withoutBackslashes rest
  | [] => []

def lineParts (separators : List Char) : Nat → List Char → List (List Char)
  | 0, _ => []
  | 1, cs =>
      let isGap (c : Char) : Bool := isFieldGap c && separators.contains c
      [((cs.dropWhile isGap).reverse.dropWhile isGap).reverse]
  | count + 1, cs =>
      let isGap (c : Char) : Bool := isFieldGap c && separators.contains c
      let cs := cs.dropWhile isGap
      let part := cs.takeWhile fun c => !separators.contains c
      let rest := (cs.drop part.length).dropWhile isGap
      let rest := match rest with
        | c :: more => if separators.contains c then more else rest
        | [] => rest
      part :: lineParts separators count rest

def outputText (bytes : ByteArray) : String :=
  let cs := (Utf8.decodeLossy bytes).toList
  String.ofList (cs.reverse.dropWhile (· == '\n')).reverse

end StillMotion.Scripting
