import StillMotion.Text.Search

/-!
# Paths

A path is a root and the names on the way.  Empty names and names of a single dot are dropped;
two dots stay, for what they mean depends on the file tree.
-/

namespace StillMotion

open StillMotion.Text

inductive PathRoot where
  | here
  | top
  /-- Exactly two slashes, which count as a root of their own. -/
  | doubleTop
deriving DecidableEq, Repr

structure Path where
  root : PathRoot
  names : List String
deriving DecidableEq, Repr

namespace Path

def rootOf (cs : List Char) : PathRoot :=
  match cs with
  | '/' :: '/' :: '/' :: _ => .top
  | '/' :: '/' :: _ => .doubleTop
  | '/' :: _ => .top
  | _ => .here

def ofText (s : String) : Path :=
  ⟨rootOf s.toList, (split '/' s).filter fun name => name != "" && name != "."⟩

def rootText : PathRoot → String
  | .here => ""
  | .top => "/"
  | .doubleTop => "//"

def text (p : Path) : String :=
  match p.root, p.names with
  | .here, [] => "."
  | root, names => rootText root ++ "/".intercalate names

def isAbsolute (p : Path) : Bool := p.root != .here

/-- The path without its last name; a path without names is its own parent. -/
def parent (p : Path) : Path := ⟨p.root, p.names.dropLast⟩

def name (p : Path) : String := p.names.getLast?.getD ""

def holdsNull (p : Path) : Bool := p.names.any fun name => name.toList.contains (Char.ofNat 0)

/-- The path `q` seen from `p`. -/
def join (p q : Path) : Path := if q.isAbsolute then q else ⟨p.root, p.names ++ q.names⟩

def child (p : Path) (name : String) : Path := p.join (ofText name)

def normalized (s : String) : String := (ofText s).text

end Path

end StillMotion
