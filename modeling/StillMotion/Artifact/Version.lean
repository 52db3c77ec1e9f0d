import StillMotion.Text.Blank
import StillMotion.Text.Search

/-!
# The version of the library

The version is what the history of the sources tells; without it, the first version line of the
project description; without that, it is unknown.
-/

namespace StillMotion.Artifact

open StillMotion.Text

/-- The description of the sources in their history, as far as it could be had. -/
inductive HistoryAnswer where
  | unavailable
  | answered (code : Int) (output : String)
deriving DecidableEq, Repr

def HistoryAnswer.version? : HistoryAnswer → Option String
  | .unavailable => none
  | .answered code output =>
      let text := trim output
      if code == 0 && !text.isEmpty then some text else none

/-- Whether a character ends a line; a pair of carriage return and line feed ends one line. -/
def endsLine (c : Char) : Bool :=
  let n := c.toNat
  (10 ≤ n && n ≤ 13) || (0x1C ≤ n && n ≤ 0x1E) || n == 0x85 || n == 0x2028 || n == 0x2029

/-- Cut at every line end; empty lines do not matter here. -/
def descriptionLines : List Char → List (List Char)
  | [] => [[]]
  | c :: rest =>
      if endsLine c then [] :: descriptionLines rest
      else match descriptionLines rest with
        | [] => [[c]]
        | line :: more => (c :: line) :: more

def lineKey : List Char := "version".toList

def versionOfLine? (line : List Char) : Option String :=
  if startsWith (trimChars line) lineKey then
    (cut? '=' line).map fun (_, value) =>
      String.ofList (stripChars (fun c => c.toNat == 39) (stripChars (· == '"') (trimChars value)))
  else none

def unknownVersion : String := "unknown"

def version (history : HistoryAnswer) (description : Option String) : String :=
  match history.version? with
  | some text => text
  | none =>
      match description with
      | none => unknownVersion
      | some text => ((descriptionLines text.toList).findSome? versionOfLine?).getD unknownVersion

end StillMotion.Artifact
