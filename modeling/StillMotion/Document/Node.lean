import StillMotion.Document.Token

/-!
# The tree of a document

A node is a scalar, a sequence or a mapping.  A name given to a node stands for it from there
on, inside a collection for the collection itself, and a tag that is written with a handle is
completed by what the handle stands for.
-/

namespace StillMotion.Document

/-- A node with its tag.  A scalar without a tag is judged by its text, a collection without one
by its form. -/
inductive Node where
  | scalar (tag : Option String) (text : String)
  | sequence (tag : Option String) (items : List Node)
  | mapping (tag : Option String) (pairs : List (Node × Node))
  /-- A collection that the node is a part of. -/
  | enclosing (isMapping : Bool)
deriving Inhabited, Repr

def standardTagStart : String := "tag:yaml.org,2002:"

def textTag : String := standardTagStart ++ "str"

def Node.absent : Node := .scalar none ""

structure Reading where
  tokens : List Token
  anchors : List (String × Node)
  handles : List (String × String)

abbrev NodeResult := Except Fault (Node × Reading)

namespace Reading

def standardHandles : List (String × String) := [("!", "!"), ("!!", standardTagStart)]

def refuse {α : Type} : Except Fault α := .error .document

def advance (r : Reading) : Reading := { r with tokens := r.tokens.tail }

def at? (token : Token → Bool) (r : Reading) : Bool := r.tokens.head?.any token

/-- Let a name stand for a node; no name is given twice. -/
def announce (anchor? : Option String) (node : Node) (r : Reading) : Except Fault Reading :=
  match anchor? with
  | none => .ok r
  | some name =>
      if r.anchors.any fun entry => entry.1 == name then refuse
      else .ok { r with anchors := (name, node) :: r.anchors }

def complete (anchor? : Option String) (node : Node) (r : Reading) : Node × Reading :=
  match anchor? with
  | none => (node, r)
  | some name =>
      (node, { r with anchors := (name, node) :: r.anchors.filter fun entry => entry.1 != name })

/-! ## Properties -/

def completed (r : Reading) (written : WrittenTag) : Except Fault String :=
  match written.handle with
  | none => .ok written.suffix
  | some handle =>
      match r.handles.find? fun entry => entry.1 == handle with
      | some (_, start) => .ok (start ++ written.suffix)
      | none => refuse

def properties (r : Reading) : Option String × Option WrittenTag × Reading :=
  match r.tokens with
  | .anchor name :: .tag written :: rest => (some name, some written, { r with tokens := rest })
  | .anchor name :: rest => (some name, none, { r with tokens := rest })
  | .tag written :: .anchor name :: rest => (some name, some written, { r with tokens := rest })
  | .tag written :: rest => (none, some written, { r with tokens := rest })
  | _ => (none, none, r)

def openTag : String := "!"

def collectionTag (tag? : Option String) : Option String := tag?.filter fun tag => tag != openTag

/-- The tag of a scalar: a scalar that is not plain is text, unless it has a tag. -/
def scalarTag (tag? : Option String) (isPlain : Bool) : Option String :=
  match tag? with
  | none => if isPlain then none else some textTag
  | some tag => if tag == openTag then none else some tag

end Reading

/-! ## Classes of tokens -/

def Token.endsEntry : Token → Bool
  | .blockEntry | .blockEnd => true
  | _ => false

def Token.endsCompactEntry : Token → Bool
  | .blockEntry | .key | .value | .blockEnd => true
  | _ => false

def Token.endsPairPart : Token → Bool
  | .key | .value | .blockEnd => true
  | _ => false

def Token.endsFlowItem : Token → Bool
  | .flowEntry | .flowSequenceEnd => true
  | _ => false

def Token.endsFlowKeyInSequence : Token → Bool
  | .value | .flowEntry | .flowSequenceEnd => true
  | _ => false

def Token.endsFlowKey : Token → Bool
  | .value | .flowEntry | .flowMappingEnd => true
  | _ => false

def Token.endsFlowValue : Token → Bool
  | .flowEntry | .flowMappingEnd => true
  | _ => false

/-! ## Nodes -/

/-- Where a node stands: in brackets, in a block collection, or as the part of a pair, where a
sequence need not be indented. -/
inductive Position where
  | flow
  | block
  | pairPart
deriving DecidableEq, Repr

open Reading

mutual

/-- Read a node; `depth` bounds the nesting. -/
def nodeFrom (depth : Nat) (position : Position) : Nat → Reading → NodeResult
  | 0, _ => refuse
  | fuel + 1, r =>
      match r.tokens with
      | .fault cause :: _ => .error cause
      | .alias name :: rest =>
          match r.anchors.find? fun entry => entry.1 == name with
          | some (_, node) => .ok (node, { r with tokens := rest })
          | none => refuse
      | _ => do
          let (anchor?, written?, r) := properties r
          let tag? ← match written? with
            | none => .ok none
            | some written => (r.completed written).map some
          let hasProperties := anchor?.isSome || tag?.isSome
          if depth == 0 then .error .tooDeep
          else
            let scalar (tag? : Option String) (text : String) (r : Reading) : NodeResult := do
              let node : Node := .scalar tag? text
              return (node, ← announce anchor? node r)
            let begin (isMapping : Bool) (tokens : List Token) : Except Fault Reading :=
              announce anchor? (.enclosing isMapping) { r with tokens }
            let sequence (items : List Node) (r : Reading) : Node × Reading :=
              complete anchor? (.sequence (collectionTag tag?) items) r
            let mapping (pairs : List (Node × Node)) (r : Reading) : Node × Reading :=
              complete anchor? (.mapping (collectionTag tag?) pairs) r
            match r.tokens, position with
            | .blockEntry :: _, .pairPart => do
                let (items, r) ← compactItems (depth - 1) fuel (← begin false r.tokens)
                return sequence items r
            | .scalar text isPlain :: rest, _ =>
                scalar (scalarTag tag? isPlain) text { r with tokens := rest }
            | .flowSequenceStart :: rest, _ => do
                let (items, r) ← flowItems (depth - 1) true fuel (← begin false rest)
                return sequence items r
            | .flowMappingStart :: rest, _ => do
                let (pairs, r) ← flowPairs (depth - 1) true fuel (← begin true rest)
                return mapping pairs r
            | .fault cause :: _, _ => .error cause
            | tokens, position => do
                let emptyNode : NodeResult :=
                  if hasProperties then scalar (scalarTag tag? true) "" r else refuse
                match tokens, position with
                | _, .flow => emptyNode
                | .blockSequenceStart :: rest, _ => do
                    let (items, r) ← blockItems (depth - 1) fuel (← begin false rest)
                    return sequence items r
                | .blockMappingStart :: rest, _ => do
                    let (pairs, r) ← blockPairs (depth - 1) fuel (← begin true rest)
                    return mapping pairs r
                | _, _ => emptyNode
termination_by structural fuel => fuel

def nodeUnless (depth : Nat) (position : Position) (isEnd : Token → Bool) :
    Nat → Reading → NodeResult
  | 0, _ => refuse
  | fuel + 1, r =>
      if r.at? isEnd then .ok (.absent, r) else nodeFrom depth position fuel r
termination_by structural fuel => fuel

def blockItems (depth : Nat) : Nat → Reading → Except Fault (List Node × Reading)
  | 0, _ => refuse
  | fuel + 1, r =>
      match r.tokens with
      | .blockEntry :: rest => do
          let (item, r) ← nodeUnless depth .block Token.endsEntry fuel { r with tokens := rest }
          let (items, r) ← blockItems depth fuel r
          .ok (item :: items, r)
      | .blockEnd :: rest => .ok ([], { r with tokens := rest })
      | .fault cause :: _ => .error cause
      | _ => refuse
termination_by structural fuel => fuel

def compactItems (depth : Nat) : Nat → Reading → Except Fault (List Node × Reading)
  | 0, _ => refuse
  | fuel + 1, r =>
      match r.tokens with
      | .blockEntry :: rest => do
          let (item, r) ←
            nodeUnless depth .block Token.endsCompactEntry fuel { r with tokens := rest }
          let (items, r) ← compactItems depth fuel r
          .ok (item :: items, r)
      | _ => .ok ([], r)
termination_by structural fuel => fuel

def blockValue (depth : Nat) : Nat → Reading → NodeResult
  | 0, _ => refuse
  | fuel + 1, r =>
      match r.tokens with
      | .value :: rest =>
          nodeUnless depth .pairPart Token.endsPairPart fuel { r with tokens := rest }
      | .fault cause :: _ => .error cause
      | _ => .ok (.absent, r)
termination_by structural fuel => fuel

def blockPairs (depth : Nat) : Nat → Reading → Except Fault (List (Node × Node) × Reading)
  | 0, _ => refuse
  | fuel + 1, r =>
      match r.tokens with
      | .key :: rest => do
          let after := { r with tokens := rest }
          let (key, r) ← nodeUnless depth .pairPart Token.endsPairPart fuel after
          let (value, r) ← blockValue depth fuel r
          let (pairs, r) ← blockPairs depth fuel r
          .ok ((key, value) :: pairs, r)
      | .blockEnd :: rest => .ok ([], { r with tokens := rest })
      | .fault cause :: _ => .error cause
      | _ => refuse
termination_by structural fuel => fuel

def flowValue (depth : Nat) (isEnd : Token → Bool) : Nat → Reading → NodeResult
  | 0, _ => refuse
  | fuel + 1, r =>
      match r.tokens with
      | .value :: rest => nodeUnless depth .flow isEnd fuel { r with tokens := rest }
      | .fault cause :: _ => .error cause
      | _ => .ok (.absent, r)
termination_by structural fuel => fuel

/-- The items of a sequence in brackets; `isFirst` tells that no comma is due. -/
def flowItems (depth : Nat) (isFirst : Bool) :
    Nat → Reading → Except Fault (List Node × Reading)
  | 0, _ => refuse
  | fuel + 1, r =>
      match r.tokens with
      | .flowSequenceEnd :: rest => .ok ([], { r with tokens := rest })
      | .fault cause :: _ => .error cause
      | tokens => do
          let rest ← if isFirst then .ok tokens else match tokens with
            | .flowEntry :: rest => .ok rest
            | _ => refuse
          match rest with
          | .flowSequenceEnd :: rest => .ok ([], { r with tokens := rest })
          | .key :: rest => do
              if depth == 0 then .error .tooDeep
              let inner := depth - 1
              let (key, r) ←
                nodeUnless inner .flow Token.endsFlowKeyInSequence fuel { r with tokens := rest }
              let (value, r) ← flowValue inner Token.endsFlowItem fuel r
              let (items, r) ← flowItems depth false fuel r
              .ok (.mapping none [(key, value)] :: items, r)
          | rest => do
              let (item, r) ← nodeFrom depth .flow fuel { r with tokens := rest }
              let (items, r) ← flowItems depth false fuel r
              .ok (item :: items, r)
termination_by structural fuel => fuel

def flowPairs (depth : Nat) (isFirst : Bool) :
    Nat → Reading → Except Fault (List (Node × Node) × Reading)
  | 0, _ => refuse
  | fuel + 1, r =>
      match r.tokens with
      | .flowMappingEnd :: rest => .ok ([], { r with tokens := rest })
      | .fault cause :: _ => .error cause
      | tokens => do
          let rest ← if isFirst then .ok tokens else match tokens with
            | .flowEntry :: rest => .ok rest
            | _ => refuse
          match rest with
          | .flowMappingEnd :: rest => .ok ([], { r with tokens := rest })
          | .key :: rest => do
              let (key, r) ← nodeUnless depth .flow Token.endsFlowKey fuel { r with tokens := rest }
              let (value, r) ← flowValue depth Token.endsFlowValue fuel r
              let (pairs, r) ← flowPairs depth false fuel r
              .ok ((key, value) :: pairs, r)
          | rest => do
              let (key, r) ← nodeFrom depth .flow fuel { r with tokens := rest }
              let (pairs, r) ← flowPairs depth false fuel r
              .ok ((key, .absent) :: pairs, r)
termination_by structural fuel => fuel

end

/-! ## Documents -/

structure Directives where
  hasVersion : Bool
  handles : List (String × String)

def Directives.read : Directives → List Token → Except Fault (Directives × List Token)
  | d, .version major :: rest =>
      if d.hasVersion || major != 1 then refuse else read { d with hasVersion := true } rest
  | d, .tagHandle handle start :: rest =>
      if d.handles.any fun entry => entry.1 == handle then refuse
      else read { d with handles := (handle, start) :: d.handles } rest
  | d, .otherDirective :: rest => read d rest
  | d, rest => .ok (d, rest)

def nestingLimit : Nat := 487

def Token.endsContent : Token → Bool
  | .version _ | .tagHandle _ _ | .otherDirective | .documentStart | .documentEnd | .textEnd => true
  | _ => false

def skipDocumentEnds : List Token → List Token
  | .documentEnd :: rest => skipDocumentEnds rest
  | rest => rest

def expectEnd (tokens : List Token) : Except Fault Unit :=
  match tokens with
  | .fault cause :: _ => .error cause
  | tokens =>
      match skipDocumentEnds tokens with
      | [.textEnd] => .ok ()
      | .fault cause :: _ => .error cause
      | _ => refuse

def readFuel (tokens : List Token) : Nat := 4 * tokens.length + 8

def bareDocument (tokens : List Token) : NodeResult :=
  nodeFrom nestingLimit .block (readFuel tokens) ⟨tokens, [], standardHandles⟩

def markedDocument (tokens : List Token) : NodeResult := do
  let (directives, rest) ← Directives.read ⟨false, []⟩ tokens
  match rest with
  | .documentStart :: rest =>
      let r : Reading := ⟨rest, [], directives.handles ++ standardHandles⟩
      if r.at? Token.endsContent then .ok (.absent, r)
      else nodeFrom nestingLimit .block (readFuel tokens) r
  | .fault cause :: _ => .error cause
  | _ => refuse

/-- The root of the only document of a text, when there is one. -/
def rootOf (tokens : List Token) : Except Fault (Option Node) := do
  let (node, r) ← match tokens with
    | [.textEnd] => return none
    | .version _ :: _ | .tagHandle _ _ :: _ | .otherDirective :: _ | .documentStart :: _ =>
        markedDocument tokens
    | _ => bareDocument tokens
  expectEnd r.tokens
  return some node

end StillMotion.Document
