import StillMotion.Failure.Fault

/-!
# The tokens of documents

A document is cut into scalars, properties, and marks for the starts, parts and ends of
collections.  Where the text shows a collection by indentation alone, tokens stand for its
start and end.
-/

namespace StillMotion.Document

structure WrittenTag where
  handle : Option String
  suffix : String
deriving DecidableEq, Repr

inductive Token where
  | version (major : Nat)
  | tagHandle (handle start : String)
  | otherDirective
  | documentStart
  | documentEnd
  | blockSequenceStart
  | blockMappingStart
  | blockEnd
  | flowSequenceStart
  | flowSequenceEnd
  | flowMappingStart
  | flowMappingEnd
  | blockEntry
  | flowEntry
  | key
  | value
  | alias (name : String)
  | anchor (name : String)
  | tag (written : WrittenTag)
  | scalar (text : String) (isPlain : Bool)
  | textEnd
  /-- The text cannot be cut any further. -/
  | fault (cause : Fault)
deriving Repr

end StillMotion.Document
