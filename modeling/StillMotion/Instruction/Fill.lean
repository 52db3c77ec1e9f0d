import StillMotion.Instruction.Check
import StillMotion.Instruction.Reader

/-!
# Filling in a template

The parts of a template are filled in one after the other.  Names are looked up in frames, the
innermost first; a loop, a routine and a block each open a frame, so that what they set does not
outlast them.  Frames and the things that are made on the way are kept in one store, where a
routine finds the frames that it was defined in.
-/

namespace StillMotion.Instruction

open StillMotion.Text

abbrev Bindings := List (String × Datum)

namespace Bindings

def get? (bindings : Bindings) (id : String) : Option Datum :=
  (bindings.find? fun entry => entry.1 == id).map (·.2)

def put (id : String) (d : Datum) : Bindings → Bindings
  | [] => [(id, d)]
  | (other, e) :: rest => if other == id then (id, d) :: rest else (other, e) :: put id d rest

end Bindings

/-- Where parts are filled in: the template and its blocks, each with the bodies that it has
from the innermost template on, and the frames, the innermost first. -/
structure Scope where
  template : String
  blocks : List (String × List Part)
  frames : List Nat
  /-- Texts are marked, so that what is not safe is escaped. -/
  marks : Bool

structure Routine where
  name : String
  parameters : List String
  defaults : List Expression
  body : List Part
  scope : Scope

structure LoopState where
  items : Array Datum
  position : Nat
  depth : Nat
  /-- What was last asked about, to tell whether it changed. -/
  last : Option (List Datum)
  /-- How the loop is run again on other items. -/
  again : Option (Scope × Part)

inductive Entity where
  | bindings (entries : Bindings)
  | cycler (items : List Datum) (position : Nat)
  | joiner (separator : Datum) (isUsed : Bool)
  | loop (state : LoopState)
  | routine (r : Routine)

abbrev Finder := String → Except TemplateFault String

structure Surroundings where
  entities : Array Entity
  find : Finder

abbrev Fill (α : Type) := StateT Surroundings (Except TemplateFault) α

namespace Fill

variable {α : Type}

def refuse (message : String) : Fill α := throw (.refused message)

def misfit (cause : Misfit) : Fill α := throw (.misfit cause)

def typeFault (message : String) : Fill α := misfit (.kindOf "TypeError" message)

/-! ## The store -/

def make (entity : Entity) : Fill Nat := do
  let s ← get
  set { s with entities := s.entities.push entity }
  return s.entities.size

def entityAt? (place : Nat) : Fill (Option Entity) := return (← get).entities[place]?

def replace (place : Nat) (entity : Entity) : Fill Unit :=
  modify fun s => { s with entities := s.entities.setIfInBounds place entity }

def bindingsAt (place : Nat) : Fill Bindings := do
  match ← entityAt? place with
  | some (.bindings entries) => return entries
  | _ => return []

def bindAt (place : Nat) (id : String) (d : Datum) : Fill Unit := do
  replace place (.bindings (Bindings.put id d (← bindingsAt place)))

def within (scope : Scope) (entries : Bindings) : Fill Scope := do
  let place ← make (.bindings entries)
  return { scope with frames := place :: scope.frames }

/-- Give a name its datum in the innermost frame. -/
def bind (scope : Scope) (id : String) (d : Datum) : Fill Unit :=
  match scope.frames with
  | [] => pure ()
  | place :: _ => bindAt place id d

def locate? (id : String) : List Nat → Fill (Option (Nat × Datum))
  | [] => return none
  | place :: rest => do
      match (← bindingsAt place).get? id with
      | some d => return some (place, d)
      | none => locate? id rest

def functions : List String := ["range", "dict", "lipsum", "cycler", "joiner", "namespace"]

def lookUp (scope : Scope) (id : String) : Fill Datum := do
  match ← locate? id scope.frames with
  | some (_, d) => return d
  | none =>
      if functions.contains id then return .function id
      return .missing s!"{quoted id} is undefined"

def define (r : Routine) : Fill Datum := return .thing .macroOf (← make (.routine r))

/-! ## Things -/

def loopMember (state : LoopState) (place : Nat) (id : String) : Option Datum :=
  let n := state.items.size
  let i := state.position
  match id with
  | "index" => some (.int (i + 1))
  | "index0" => some (.int i)
  | "revindex" => some (.int (n - i : Nat))
  | "revindex0" => some (.int (n - i - 1 : Nat))
  | "first" => some (.bool (i == 0))
  | "last" => some (.bool (i + 1 == n))
  | "length" => some (.int n)
  | "depth" => some (.int (state.depth + 1))
  | "depth0" => some (.int state.depth)
  | "previtem" =>
      some (if i == 0 then .missing "there is no previous item"
        else state.items[i - 1]?.getD .null)
  | "nextitem" => some (state.items[i + 1]?.getD (.missing "there is no next item"))
  | "cycle" | "changed" => some (.method (.thing .loop place) id)
  | _ => none

def thingMember? (sort : ThingSort) (place : Nat) (id : String) : Fill (Option Datum) := do
  match ← entityAt? place with
  | some (.bindings entries) => return entries.get? id
  | some (.cycler items position) => match id with
      | "current" => return some (items[position]?.getD .null)
      | "next" | "reset" => return some (.method (.thing sort place) id)
      | _ => return none
  | some (.loop state) => return loopMember state place id
  | some (.routine r) => match id with
      | "name" => return some (Datum.text r.name)
      | "arguments" => return some (.tuple (r.parameters.map Datum.text))
      | _ => return none
  | _ => return none

def member (d : Datum) (id : String) : Fill Datum := do
  match d with
  | .thing sort place =>
      return (← thingMember? sort place id).getD (Datum.absence d (Datum.text id))
  | d => d.member id

def element (d key : Datum) : Fill Datum := do
  match d, key with
  | .thing _ _, .str id _ => member d id
  | d, key => d.element key

def callThing (place : Nat) (id : String) (given : Given) : Fill Datum := do
  match ← entityAt? place, id with
  | some (.cycler items position), "next" => do
      replace place (.cycler items ((position + 1) % items.length))
      return items[position]?.getD .null
  | some (.cycler items _), "reset" => do
      replace place (.cycler items 0)
      return .null
  | some (.loop state), "cycle" =>
      if given.args.isEmpty then typeFault "no items for cycling given"
      return given.args[state.position % given.args.length]?.getD .null
  | some (.loop state), "changed" => do
      let isSame ← match state.last with
        | none => pure false
        | some last => Datum.sameItems last given.args
      replace place (.loop { state with last := some given.args })
      return .bool !isSame
  | _, _ => return .null

/-! ## Functions -/

def spanOf (args : List Datum) : Filling Datum := do
  let numbers ← args.mapM Datum.integerOf
  match numbers with
  | [last] => return .span 0 last 1
  | [first, last] => return .span first last 1
  | [first, last, step] =>
      if step == 0 then
        Datum.misfit (.kindOf "ValueError" "range() arg 3 must not be zero")
      return .span first last step
  | [] => Signature.refuse "range expected at least 1 argument, got 0"
  | numbers => Signature.refuse s!"range expected at most 3 arguments, got {numbers.length}"

def entriesGiven (given : Given) : Filling (List (Datum × Datum)) := do
  let start ← match given.args with
    | [] => pure []
    | d :: _ => entriesOf d
  updated start (namedEntries given)

def callFunction (id : String) (given : Given) : Fill Datum := do
  match id with
  | "range" => spanOf given.args
  | "dict" => return .mapping (← entriesGiven given)
  | "namespace" => do
      let entries ← entriesGiven given
      let bindings := entries.filterMap fun (key, d) => match key with
        | .str id _ => some (id, d)
        | _ => none
      return .thing .space (← make (.bindings bindings))
  | "cycler" =>
      if given.args.isEmpty then
        misfit (.kindOf "RuntimeError" "at least one item has to be provided")
      return .thing .cycler (← make (.cycler given.args 0))
  | "joiner" => do
      let sep := (given.named? "sep").getD (given.args.head?.getD (Datum.text ", "))
      return .thing .joiner (← make (.joiner sep false))
  | _ => return Datum.text ""

/-! ## Assigning -/

mutual

def assign (scope : Scope) : Target → Datum → Fill Unit
  | .name id, d => bind scope id d
  | .tuple targets, d => do
      match d with
      | .missing _ | .blank _ => discard (d.present : Filling Datum)
      | _ => pure ()
      match d.items with
      | .error _ => typeFault s!"cannot unpack non-iterable {d.kindName} object"
      | .ok items =>
          if items.length < targets.length then
            misfit (.kindOf "ValueError" ("not enough values to unpack " ++
              s!"(expected {targets.length}, got {items.length})"))
          if targets.length < items.length then
            misfit (.kindOf "ValueError"
              s!"too many values to unpack (expected {targets.length})")
          assignAll scope targets items
  | .field id word, d => do
      match ← lookUp scope id with
      | .thing .space place => bindAt place word d
      | _ => refuse "cannot assign attribute on non-namespace object"

def assignAll (scope : Scope) : List Target → List Datum → Fill Unit
  | target :: targets, d :: items => do
      assign scope target d
      assignAll scope targets items
  | _, _ => pure ()

end

/-! ## Expressions and parts -/

def load (name : String) : Fill (List Part) := do
  let source ← (← get).find name
  let parts ← Part.ofSource source
  Part.check parts
  return parts

def loadAny (d : Datum) : Fill (String × List Part) := do
  match d with
  | .str name _ => return (name, ← load name)
  | d => do
      let names ← (← d.present).items
      let rec first : List Datum → Fill (String × List Part)
        | [] => throw .notFound
        | name :: rest => do
            let name ← name.shown
            match (← get).find name with
            | .error .notFound => first rest
            | _ => return (name, ← load name)
      first names

def joinBlocks (blocks : List (String × List Part)) (parts : List Part) :
    List (String × List Part) :=
  (Part.blocks parts).foldl (fun seen (name, block) =>
    if seen.any fun entry => entry.1 == name then
      seen.map fun entry => if entry.1 == name then (name, entry.2 ++ [block]) else entry
    else seen ++ [(name, [block])]) blocks

def rootFrames (scope : Scope) : List Nat := scope.frames.drop (scope.frames.length - 2)

def blockRoutine (scope : Scope) (name : String) : Fill Datum := do
  if scope.blocks.any fun entry => entry.1 == name then
    define ⟨name, [], [], [.block name false false []], scope⟩
  else return .missing s!"'self' has no attribute {quoted name}"

def filtering (scope : Scope) (s : String) (filter : Expression) : Expression :=
  let input : Expression := .literal (.str s)
  let input := if scope.marks then .filter (some input) "safe" [] [] none none else input
  Expression.withInput input Expression.depthLimit filter

def shownText (d : Datum) : Fill String := do
  match d with
  | .thing sort place => match sort, ← entityAt? place with
      | .space, some (.bindings entries) => do
          let shown ← (Datum.mapping (entries.map fun (id, d) => (Datum.text id, d))).shown
          return s!"<Namespace {shown}>"
      | _, some (.routine r) => return s!"<Macro {quoted r.name}>"
      | _, some (.loop state) =>
          return s!"<LoopContext {state.position + 1}/{state.items.size}>"
      | _, _ => d.shown
  | d => d.shown

mutual

def eval : Nat → Scope → Expression → Fill Datum
  | 0, _, _ => throw .tooDeep
  | fuel + 1, scope, e => do
      match e with
      | .literal v => return Datum.ofValue v
      | .name id => lookUp scope id
      | .tuple items => return .tuple (← items.mapM (eval fuel scope))
      | .list items => return .list (← items.mapM (eval fuel scope))
      | .mapping entries => do
          let pairs ← entries.mapM fun (key, e) => do
            return (← eval fuel scope key, ← eval fuel scope e)
          Datum.mappingOf pairs
      | .attribute (.name "self") id => do
          match ← lookUp scope "self" with
          | .missing _ => blockRoutine scope id
          | d => member d id
      | .attribute target id => do member (← eval fuel scope target) id
      | .item target (.slice first last step) => do
          let d ← eval fuel scope target
          let bound (e : Option Expression) : Fill Datum := match e with
            | some e => eval fuel scope e
            | none => pure .null
          let low ← bound first
          let high ← bound last
          let pace ← bound step
          Datum.slice d low high pace
      | .item target key => do
          let d ← eval fuel scope target
          element d (← eval fuel scope key)
      | .slice _ _ _ => return .null
      | .call target args named rest restNamed => do
          let d ← eval fuel scope target
          let given ← arguments fuel scope args named rest restNamed
          match d with
          | .method (.thing _ place) id => callThing place id given
          | .method owner id => do
              let (result, changed?) ← owner.callMethod id given
              match target, changed? with
              | .attribute home _, some changed => store fuel scope home changed
              | _, _ => pure ()
              return result
          | d => call fuel scope.marks d given
      | .filter target id args named rest restNamed => do
          let d ← match target with
            | some target => eval fuel scope target
            | none => pure (Datum.text "")
          let given ← arguments fuel scope args named rest restNamed
          let result ← Filter.use scope.marks 1000 id d given
          match target, d with
          | some home, .stream kind items =>
              store fuel scope home (.stream kind (Filter.left id items))
          | _, _ => pure ()
          return result
      | .test target id args named rest restNamed => do
          let d ← eval fuel scope target
          let given ← arguments fuel scope args named rest restNamed
          if !Test.isKnown id then throw (.unavailable "test" id)
          return .bool (← Test.ask id d given)
      | .binary symbol left right => do
          let a ← eval fuel scope left
          let b ← eval fuel scope right
          match Datum.operator? symbol with
          | some operator => Datum.combine operator a b
          | none => return .null
      | .joined items => do
          let items ← items.mapM (eval fuel scope)
          if scope.marks then Filter.joinedText (Datum.text "") items
          else return Datum.text (String.join (← items.mapM shownText))
      | .compare first others => do
          let d ← eval fuel scope first
          return .bool (← compareAll fuel scope d others)
      | .both left right => do
          let a ← eval fuel scope left
          if ← a.truth then eval fuel scope right else return a
      | .either left right => do
          let a ← eval fuel scope left
          if ← a.truth then return a else eval fuel scope right
      | .negate target => return .bool !(← (← eval fuel scope target).truth)
      | .minus target => do (← eval fuel scope target).negated
      | .plus target => do (← eval fuel scope target).affirmed
      | .choice line condition yes no => do
          if ← (← eval fuel scope condition).truth then eval fuel scope yes
          else match no with
            | some no => eval fuel scope no
            | none => return .blank (s!"the inline if-expression on line {line} in " ++
                s!"{quoted scope.template} evaluated to false and no else section was defined.")
termination_by structural fuel => fuel

def compareAll : Nat → Scope → Datum → List (String × Expression) → Fill Bool
  | 0, _, _, _ => throw .tooDeep
  | _, _, _, [] => return true
  | fuel + 1, scope, d, (symbol, e) :: rest => do
      let next ← eval fuel scope e
      if ← Datum.compared symbol d next then compareAll fuel scope next rest else return false
termination_by structural fuel => fuel

def arguments : Nat → Scope → List Expression → List (String × Expression) → Option Expression →
    Option Expression → Fill Given
  | 0, _, _, _, _, _ => throw .tooDeep
  | fuel + 1, scope, args, named, rest, restNamed => do
      let args ← args.mapM (eval fuel scope)
      let named ← named.mapM fun (id, e) => return (id, ← eval fuel scope e)
      let more ← match rest with
        | none => pure []
        | some e => do (← eval fuel scope e).items
      let moreNamed ← match restNamed with
        | none => pure []
        | some e => do
            let entries ← entriesOf (← eval fuel scope e)
            entries.mapM fun (key, d) => return (← key.shown, d)
      return ⟨args ++ more, named ++ moreNamed⟩
termination_by structural fuel => fuel

def store : Nat → Scope → Expression → Datum → Fill Unit
  | 0, _, _, _ => throw .tooDeep
  | fuel + 1, scope, home, d => do
      match home with
      | .name id => do
          match ← locate? id scope.frames with
          | some (place, _) => bindAt place id d
          | none => pure ()
      | .attribute owner id => do
          match ← eval fuel scope owner with
          | .thing .space place => bindAt place id d
          | .mapping entries => do
              store fuel scope owner (.mapping (← Datum.put (Datum.text id) d entries))
          | _ => pure ()
      | .item owner key => do
          let key ← eval fuel scope key
          match ← eval fuel scope owner, key with
          | .thing .space place, .str id _ => bindAt place id d
          | .mapping entries, key => store fuel scope owner (.mapping (← Datum.put key d entries))
          | .list items, key => match key.integer?.bind (Datum.seat? items.length) with
              | some n => store fuel scope owner (.list (items.set n d))
              | none => pure ()
          | _, _ => pure ()
      | _ => pure ()
termination_by structural fuel => fuel

def call : Nat → (marks : Bool) → Datum → Given → Fill Datum
  | 0, _, _, _ => throw .tooDeep
  | fuel + 1, marks, d, given => do
      match ← d.present with
      | .function id => callFunction id given
      | .method owner id => return (← owner.callMethod id given).1
      | .thing sort place => do
          match ← entityAt? place with
          | some (.routine r) => return .str (← callRoutine fuel r given) marks
          | some (.joiner separator isUsed) => do
              replace place (.joiner separator true)
              return if isUsed then separator else Datum.text ""
          | some (.loop state) => match state.again, given.args with
              | some (outer, part), d :: _ => do
                  return .str (← repeated fuel outer part d (state.depth + 1)) marks
              | _, _ => typeFault ("The loop must have the 'recursive' marker to be called " ++
                  "recursively.")
          | _ => typeFault s!"{quoted sort.name} object is not callable"
      | d => misfit (.notCallable d.kindName)
termination_by structural fuel => fuel

/-- Fill in the body of a routine, with what it is called with under the names of its
parameters. -/
def callRoutine : Nat → Routine → Given → Fill String
  | 0, _, _ => throw .tooDeep
  | fuel + 1, r, given => do
      let count := r.parameters.length
      let taken := r.parameters.zipIdx.map fun (id, i) =>
        (id, (given.args[i]?).orElse fun _ => given.named? id)
      let left := given.named.filter fun entry =>
        !(r.parameters.drop given.args.length).contains entry.1
      let seesCaller := Part.uses "caller" r.body
      let takesCaller := seesCaller && !r.parameters.contains "caller"
      let caller := if takesCaller then
          [("caller", ((left.find? fun entry => entry.1 == "caller").map (·.2)).getD
            (.missing "No caller defined"))]
        else []
      let left := if takesCaller then left.filter fun entry => entry.1 != "caller" else left
      let named ←
        if Part.uses "kwargs" r.body then
          pure [("kwargs", Datum.mapping (left.map fun (id, d) => (Datum.text id, d)))]
        else match left with
          | [] => pure []
          | ("caller", _) :: _ =>
              typeFault (s!"macro {quoted r.name} was invoked with two values " ++
                "for the special caller argument. This is most likely a bug.")
          | (id, _) :: _ =>
              typeFault s!"macro {quoted r.name} takes no keyword argument {quoted id}"
      let rest ←
        if Part.uses "varargs" r.body then
          pure [("varargs", Datum.tuple (given.args.drop count))]
        else if count < given.args.length then
          typeFault s!"macro {quoted r.name} takes not more than {count} argument(s)"
        else pure []
      let scope ← within r.scope (caller ++ named ++ rest)
      let firstDefault := count - r.defaults.length
      for ((id, d?), i) in taken.zipIdx do
        let d ← match d?, r.defaults[i - firstDefault]? with
          | some d, _ => pure d
          | none, some e =>
              if firstDefault ≤ i then eval fuel scope e
              else pure (.missing s!"parameter {quoted id} was not provided")
          | none, none => pure (.missing s!"parameter {quoted id} was not provided")
        bind scope id d
      fill fuel scope r.body
termination_by structural fuel => fuel

def fill : Nat → Scope → List Part → Fill String
  | 0, _, _ => throw .tooDeep
  | fuel + 1, scope, parts => return String.join (← parts.mapM (fillPart fuel scope))
termination_by structural fuel => fuel

def fillPart : Nat → Scope → Part → Fill String
  | 0, _, _ => throw .tooDeep
  | fuel + 1, scope, part => do
      match part with
      | .text s => return s
      | .output items => do
          return String.join (← items.mapM fun e => do
            let d ← eval fuel scope e
            if scope.marks then (← d.escaped).shown else shownText d)
      | .choice branches otherwise => branch fuel scope branches otherwise
      | .loop _ items _ _ _ _ => do
          let d ← eval fuel scope items
          match d with
          | .stream kind _ => store fuel scope items (.stream kind [])
          | _ => pure ()
          repeated fuel scope part d 0
      | .assign target e => do
          assign scope target (← eval fuel scope e)
          return ""
      | .capture target filter body => do
          let inner ← within scope []
          let s ← fill fuel inner body
          let d ← match filter with
            | none => pure (.str s scope.marks)
            | some e => eval fuel scope (filtering scope s e)
          let d ← if scope.marks then pure (.str (← d.shown) true) else pure d
          assign scope target d
          return ""
      | .scoped bindings body => do
          let inner ← within scope []
          for (target, e) in bindings do
            assign inner target (← eval fuel scope e)
          fill fuel inner body
      | .filtered filter body => do
          let inner ← within scope []
          let s ← fill fuel inner body
          (← eval fuel inner (filtering scope s filter)).shown
      | .marked isMarked body => do
          let marks ← (← eval fuel scope isMarked).truth
          fill fuel { (← within scope []) with marks } body
      | .define name parameters defaults body => do
          bind scope name (← define ⟨name, parameters, defaults, body, scope⟩)
          return ""
      | .callWith parameters defaults target body => do
          let caller ← define ⟨"caller", parameters, defaults, body, scope⟩
          match target with
          | .call callee args named rest restNamed => do
              let d ← eval fuel scope callee
              let given ← arguments fuel scope args named rest restNamed
              let given := { given with named := given.named ++ [("caller", caller)] }
              (← call fuel scope.marks d given).shown
          | _ => return ""
      | .block name _ _ _ => fillBlock fuel scope name
      | .extend _ => return ""
      | .include e ignoresMissing seesContext => do
          let d ← eval fuel scope e
          try
            let (name, parts) ← loadAny d
            let frames := if seesContext then scope.frames else []
            fillTemplate fuel name parts frames []
          catch
            | .notFound => if ignoresMissing then return "" else throw .notFound
            | fault => throw fault
      | .importAs e id seesContext => do
          let place ← fillModule fuel scope e seesContext
          bind scope id (.thing .module place)
          return ""
      | .importFrom e names seesContext => do
          let place ← fillModule fuel scope e seesContext
          let bindings ← bindingsAt place
          for (id, as_) in names do
            let absent := s!"the template does not export the requested name {quoted id}"
            bind scope as_ ((bindings.get? id).getD (.missing absent))
          return ""
      | .group body => fill fuel scope body
termination_by structural fuel => fuel

def branch : Nat → Scope → List (Expression × List Part) → List Part → Fill String
  | 0, _, _, _ => throw .tooDeep
  | fuel + 1, scope, branches, otherwise => do
      match branches with
      | [] => fill fuel scope otherwise
      | (test, body) :: rest =>
          if ← (← eval fuel scope test).truth then fill fuel scope body
          else branch fuel scope rest otherwise
termination_by structural fuel => fuel

def repeated : Nat → Scope → Part → Datum → Nat → Fill String
  | 0, _, _, _, _ => throw .tooDeep
  | fuel + 1, scope, part, d, depth => do
      match part with
      | .loop target _ test recursive body otherwise => do
          let items ← d.items
          let items ← match test with
            | none => pure items
            | some test => items.filterM fun item => do
                let inner ← within scope []
                assign inner target item
                (← eval fuel inner test).truth
          if items.isEmpty then
            let inner ← within scope []
            fill fuel inner otherwise
          else
            let again := if recursive then some (scope, part) else none
            let place ← make (.loop ⟨items.toArray, 0, depth, none, again⟩)
            let texts ← items.zipIdx.mapM fun (item, i) => do
              match ← entityAt? place with
              | some (.loop state) => replace place (.loop { state with position := i })
              | _ => pure ()
              let inner ← within scope [("loop", .thing .loop place)]
              assign inner target item
              fill fuel inner body
            return String.join texts
      | _ => return ""
termination_by structural fuel => fuel

def fillBlock : Nat → Scope → String → Fill String
  | 0, _, _ => throw .tooDeep
  | fuel + 1, scope, name => do
      let bodies : List Part :=
        ((scope.blocks.find? fun entry => entry.1 == name).map (·.2)).getD []
      match bodies with
      | .block _ isScoped isRequired body :: others => do
          if isRequired then refuse s!"Required block {quoted name} not found"
          let frames := if isScoped then scope.frames else rootFrames scope
          let above := { scope with frames, marks := false }
          let parent : Datum ←
            if others.isEmpty then
              pure (.missing s!"there is no parent block called {quoted name}.")
            else
              let blocks := (name, others) ::
                above.blocks.filter fun entry => entry.1 != name
              define ⟨"super", [], [], [.block name false false []], { above with blocks }⟩
          let inner ← within above [("super", parent)]
          fill fuel inner body
      | _ => return ""
termination_by structural fuel => fuel

/-- Fill in a whole template.  After the parts of a template that extends another one, that one
is filled in, with the blocks of the first before its own. -/
def fillTemplate : Nat → String → List Part → List Nat → List (String × List Part) → Fill String
  | 0, _, _, _, _ => throw .tooDeep
  | fuel + 1, name, parts, frames, blocks => do
      let blocks := joinBlocks blocks parts
      let scope ← within ⟨name, blocks, frames.take 1, false⟩ []
      let scope ← if frames.length ≤ 1 then pure scope
        else do
          let all ← frames.reverse.mapM bindingsAt
          let merged := all.foldl (fun seen entries =>
            entries.foldl (fun seen (id, d) => Bindings.put id d seen) seen) []
          let base ← make (.bindings merged)
          within ⟨name, blocks, [base], false⟩ []
      let step (state : Option Datum × String) (part : Part) : Fill (Option Datum × String) := do
        match state, part with
        | (none, seen), .extend e => return (some (← eval fuel scope e), seen)
        | (some _, _), .extend _ => refuse "extended multiple times"
        | (some _, _), .text _ => return state
        | (some _, _), .output _ => return state
        | (some _, _), .block _ _ _ _ => return state
        | (some d, seen), part => do
            let _ ← fillPart fuel scope part
            return (some d, seen)
        | (none, seen), part => return (none, seen ++ (← fillPart fuel scope part))
      let (parent?, seen) ← parts.foldlM step (none, "")
      match parent? with
      | none => return seen
      | some d => do
          let (name, parts) ← loadAny d
          return seen ++ (← fillTemplate fuel name parts scope.frames blocks)
termination_by structural fuel => fuel

def fillModule : Nat → Scope → Expression → Bool → Fill Nat
  | 0, _, _, _ => throw .tooDeep
  | fuel + 1, scope, e, seesContext => do
      let (name, parts) ← loadAny (← eval fuel scope e)
      let base ← make (.bindings [])
      let outer := if seesContext then scope.frames else [base]
      let inner ← within ⟨name, joinBlocks [] parts, outer, false⟩ []
      let _ ← fill fuel inner parts
      let bindings ← bindingsAt (inner.frames.head?.getD 0)
      make (.bindings (bindings.filter fun entry => !entry.1.startsWith "_"))
termination_by structural fuel => fuel

end

end Fill

def fillingDepth : Nat := 2500

def filled (find : Finder) (name source : String) (params : Entries) :
    Except TemplateFault String := do
  let parts ← Part.ofSource source
  Part.check parts
  let act : Fill String := do
    let base ← Fill.make (.bindings (params.map fun (id, v) => (id, Datum.ofValue v)))
    Fill.fillTemplate fillingDepth name parts [base] []
  let (text, _) ← act.run ⟨#[], find⟩
  return text

end StillMotion.Instruction
