import StillMotion.Document.ScalarText
import StillMotion.Document.Token
import StillMotion.Text.Utf8

/-!
# Cutting documents into tokens

Collections are shown by brackets or by indentation.  Whether a node is the key of a mapping is
known only when the colon after it is found; until then the place of a possible key is kept, one
for each level of brackets, and the tokens that announce the key are put in afterwards.
-/

namespace StillMotion.Document

structure PossibleKey where
  level : Nat
  /-- How many tokens stand before it. -/
  position : Nat
  /-- The colon has to follow, for nothing else can stand at this column. -/
  isRequired : Bool
  index : Nat
  line : Nat
  column : Nat
deriving DecidableEq, Repr

structure Lexer where
  cursor : Cursor
  /-- The tokens so far, the latest first. -/
  tokens : List Token
  flowLevel : Nat
  /-- The column of the current block collection, or less than zero outside of all. -/
  indent : Int
  outerIndents : List Int
  /-- Whether the key of a mapping may begin here. -/
  allowsKey : Bool
  possibleKeys : List PossibleKey

namespace Lexer

def start (cs : List Char) : Lexer := ⟨.start cs, [], 0, -1, [], true, []⟩

def emit (token : Token) (s : Lexer) : Lexer := { s with tokens := token :: s.tokens }

/-- Put a token in after the first `position` tokens. -/
def insert (position : Nat) (token : Token) (s : Lexer) : Lexer :=
  let later := s.tokens.length - position
  { s with tokens := s.tokens.take later ++ token :: s.tokens.drop later }

def moveTo (cursor : Cursor) (s : Lexer) : Lexer := { s with cursor }

def allowKey (allowsKey : Bool) (s : Lexer) : Lexer := { s with allowsKey }

def inFlow (s : Lexer) : Bool := 0 < s.flowLevel

def column (s : Lexer) : Int := s.cursor.column

/-! ## Possible keys -/

def keyLimit : Nat := 1024

def isStale (s : Lexer) (k : PossibleKey) : Bool :=
  k.line != s.cursor.line || keyLimit < s.cursor.index - k.index

def dropStaleKeys (s : Lexer) : Except Fault Lexer :=
  if s.possibleKeys.any fun k => s.isStale k && k.isRequired then malformed
  else .ok { s with possibleKeys := s.possibleKeys.filter fun k => !s.isStale k }

def currentKey? (s : Lexer) : Option PossibleKey :=
  s.possibleKeys.find? fun k => k.level == s.flowLevel

def withoutCurrentKey (s : Lexer) : Lexer :=
  { s with possibleKeys := s.possibleKeys.filter fun k => k.level != s.flowLevel }

def removeKey (s : Lexer) : Except Fault Lexer :=
  match s.currentKey? with
  | some k => if k.isRequired then malformed else .ok s.withoutCurrentKey
  | none => .ok s

def saveKey (s : Lexer) : Except Fault Lexer :=
  if s.allowsKey then do
    let key : PossibleKey :=
      { level := s.flowLevel
        position := s.tokens.length
        isRequired := !s.inFlow && s.indent == s.column
        index := s.cursor.index
        line := s.cursor.line
        column := s.cursor.column }
    let s ← s.removeKey
    .ok { s with possibleKeys := key :: s.possibleKeys }
  else .ok s

/-! ## Indentation -/

def unwindFrom (column : Int) : List Int → Lexer → Lexer
  | [], s => s
  | outer :: rest, s =>
      if column < s.indent then
        unwindFrom column rest { s.emit .blockEnd with indent := outer, outerIndents := rest }
      else s

def unwind (column : Int) (s : Lexer) : Lexer :=
  if s.inFlow then s else unwindFrom column s.outerIndents s

def addIndent (column : Int) (s : Lexer) : Bool × Lexer :=
  if s.indent < column then
    (true, { s with indent := column, outerIndents := s.indent :: s.outerIndents })
  else (false, s)

/-! ## Between tokens -/

def skipToToken : Nat → Lexer → Lexer
  | 0, s => s
  | fuel + 1, s =>
      let c := (s.cursor.skipWhile isSpace).skipComment
      match c.lineBreak? with
      | some (_, c) =>
          skipToToken fuel { s with cursor := c, allowsKey := s.allowsKey || !s.inFlow }
      | none => s.moveTo c

def skipOrderMark (s : Lexer) : Lexer :=
  if s.cursor.index == 0 && s.cursor.here == some orderMark then s.moveTo s.cursor.next else s

/-! ## Directives and properties -/

def versionNumber (c : Cursor) : Except Fault (Nat × Cursor) :=
  let (digits, c) := c.span Text.isAsciiDigit
  if digits.isEmpty then malformed else .ok (Text.digitsValue digits, c)

def tagHandle (c : Cursor) : Except Fault (String × Cursor) :=
  if c.here != some '!' then malformed
  else if c.peek 1 == some ' ' then .ok ("!", c.next)
  else
    let (name, after) := c.next.span isNameChar
    if after.here == some '!' then .ok (String.ofList ('!' :: name ++ ['!']), after.next)
    else malformed

def isAddressChar (c : Char) : Bool :=
  isNameChar c || c.toNat == 39 || ";/?:@&=+$,.!~*()[]".toList.contains c

def escapedBytes : Nat → Cursor → Except Fault (ByteArray × Cursor)
  | 0, _ => malformed
  | fuel + 1, c =>
      if c.here == some '%' then
        match codeOf? 2 c.next with
        | none => malformed
        | some byte => do
            let (bytes, after) ← escapedBytes fuel (c.skip 3)
            .ok (⟨#[UInt8.ofNat byte]⟩ ++ bytes, after)
      else .ok (ByteArray.empty, c)

def tagAddressFrom : Nat → Cursor → Except Fault (List Char × Cursor)
  | 0, _ => malformed
  | fuel + 1, c =>
      if c.here == some '%' then do
        let (bytes, after) ← escapedBytes c.rest.length.succ c
        match Utf8.decode bytes with
        | .error _ => malformed
        | .ok text => do
            let (rest, after) ← tagAddressFrom fuel after
            .ok (text.toList ++ rest, after)
      else
        let (run, after) := c.span isAddressChar
        if run.isEmpty then .ok ([], c)
        else do
          let (rest, after) ← tagAddressFrom fuel after
          .ok (run ++ rest, after)

def tagAddress (c : Cursor) : Except Fault (String × Cursor) := do
  let (text, after) ← tagAddressFrom c.rest.length.succ c
  if after.index == c.index then malformed else .ok (String.ofList text, after)

def directiveValue (name : String) (c : Cursor) : Except Fault (Token × Cursor) := do
  if name == "YAML" then
    let (major, c) ← versionNumber (c.skipWhile isSpace)
    if c.here != some '.' then malformed
    else
      let (_, c) ← versionNumber c.next
      if isSpaceBreakOrEnd c.here then .ok (.version major, c) else malformed
  else if name == "TAG" then
    let (handle, c) ← tagHandle (c.skipWhile isSpace)
    if c.here != some ' ' then malformed
    else
      let (start, c) ← tagAddress (c.skipWhile isSpace)
      if isSpaceBreakOrEnd c.here then .ok (.tagHandle handle start, c) else malformed
  else .ok (.otherDirective, c.skipWhile fun ch => !isBreak ch)

def directive (c : Cursor) : Except Fault (Token × Cursor) := do
  let (name, c) := c.next.span isNameChar
  if name.isEmpty || !isSpaceBreakOrEnd c.here then malformed
  else
    let (token, c) ← directiveValue (String.ofList name) c
    let c ← c.ignoredLine
    .ok (token, c)

def endsAnchor : Option Char → Bool :=
  endOr fun c => isSpaceOrTab c || isBreak c ||
    ['?', ':', ',', ']', '\x7d', '%', '@', Char.ofNat 96].contains c

def anchorName (c : Cursor) : Except Fault (String × Cursor) :=
  let (name, c) := c.next.span isNameChar
  if name.isEmpty || !endsAnchor c.here then malformed else .ok (String.ofList name, c)

def hasHandle (c : Cursor) : Bool :=
  (c.rest.takeWhile fun ch => ch != ' ' && !isBreak ch).contains '!'

def tagAt (c : Cursor) : Except Fault (WrittenTag × Cursor) := do
  let (tag, c) ←
    if c.peek 1 == some '<' then do
      let (suffix, c) ← tagAddress (c.skip 2)
      if c.here == some '>' then .ok (⟨none, suffix⟩, c.next) else malformed
    else if isBlankOrEnd (c.peek 1) then .ok ((⟨none, "!"⟩ : WrittenTag), c.next)
    else if hasHandle c.next then do
      let (handle, c) ← tagHandle c
      let (suffix, c) ← tagAddress c
      .ok (⟨some handle, suffix⟩, c)
    else do
      let (suffix, c) ← tagAddress c.next
      .ok (⟨some "!", suffix⟩, c)
  if isSpaceBreakOrEnd c.here then .ok (tag, c) else malformed

/-! ## Tokens -/

def mark (length : Nat) (token : Token) (s : Lexer) : Lexer :=
  (s.moveTo (s.cursor.skip length)).emit token

def endBlocks (s : Lexer) : Except Fault Lexer := do
  let s ← (s.unwind (-1)).removeKey
  .ok (s.allowKey false)

def openFlow (token : Token) (s : Lexer) : Except Fault Lexer := do
  let s ← s.saveKey
  .ok (mark 1 token { s with flowLevel := s.flowLevel + 1, allowsKey := true })

def closeFlow (token : Token) (s : Lexer) : Except Fault Lexer := do
  let s ← s.removeKey
  .ok (mark 1 token { s with flowLevel := s.flowLevel - 1, allowsKey := false })

def flowComma (s : Lexer) : Except Fault Lexer := do
  let s ← (s.allowKey true).removeKey
  .ok (mark 1 .flowEntry s)

def beginBlock (token : Token) (s : Lexer) : Except Fault Lexer :=
  if s.inFlow then .ok s
  else if !s.allowsKey then malformed
  else
    let (isNew, s) := s.addIndent s.column
    .ok (if isNew then s.emit token else s)

def blockDash (s : Lexer) : Except Fault Lexer := do
  let s ← s.beginBlock .blockSequenceStart
  let s ← (s.allowKey true).removeKey
  .ok (mark 1 .blockEntry s)

def questionMark (s : Lexer) : Except Fault Lexer := do
  let s ← s.beginBlock .blockMappingStart
  let s ← (s.allowKey !s.inFlow).removeKey
  .ok (mark 1 .key s)

def colon (s : Lexer) : Except Fault Lexer := do
  match s.currentKey? with
  | some k =>
      let s := (s.withoutCurrentKey).insert k.position .key
      let (isNew, s) := if s.inFlow then (false, s) else s.addIndent k.column
      let s := if isNew then s.insert k.position .blockMappingStart else s
      .ok (mark 1 .value (s.allowKey false))
  | none => do
      let s ← s.beginBlock .blockMappingStart
      let s ← (s.allowKey !s.inFlow).removeKey
      .ok (mark 1 .value s)

def keyed (read : Lexer → Except Fault (Token × Bool × Cursor)) (s : Lexer) :
    Except Fault Lexer := do
  let s ← s.saveKey
  let (token, allowsKey, c) ← read s
  .ok ((({ s with allowsKey }).moveTo c).emit token)

def readAnchor (token : String → Token) (s : Lexer) : Except Fault (Token × Bool × Cursor) := do
  let (name, c) ← anchorName s.cursor
  .ok (token name, false, c)

def readTag (s : Lexer) : Except Fault (Token × Bool × Cursor) := do
  let (written, c) ← tagAt s.cursor
  .ok (.tag written, false, c)

def readQuoted (s : Lexer) : Except Fault (Token × Bool × Cursor) := do
  let (text, c) ← quotedScalar s.cursor
  .ok (.scalar text false, false, c)

def readPlain (s : Lexer) : Except Fault (Token × Bool × Cursor) :=
  let (text, broken, c) := plainScalar s.inFlow s.indent s.cursor
  .ok (.scalar text true, broken, c)

def block (s : Lexer) : Except Fault Lexer := do
  let s ← (s.allowKey true).removeKey
  let (text, c) ← blockScalar s.indent s.cursor
  .ok ((s.moveTo c).emit (.scalar text false))

def indicators : List Char :=
  ['-', '?', ':', ',', '[', ']', '\x7b', '\x7d', '#', '&', '*', '!', '|', '>', Char.ofNat 39, '"',
   '%', '@', Char.ofNat 96]

def startsPlain (s : Lexer) (ch : Char) : Bool :=
  (!isSpaceOrTab ch && !isBreak ch && !indicators.contains ch) ||
    (!isBlankOrEnd (s.cursor.peek 1) &&
      (ch == '-' || (!s.inFlow && (ch == '?' || ch == ':'))))

def tokenAt (ch : Char) (s : Lexer) : Except Fault Lexer :=
  let c := s.cursor
  let separated := isBlankOrEnd (c.peek 1)
  if ch == '%' && c.column == 0 then do
    let s ← s.endBlocks
    let (token, c) ← directive s.cursor
    .ok ((s.moveTo c).emit token)
  else if c.column == 0 && c.isMarker '-' then do
    let s ← s.endBlocks
    .ok (mark 3 .documentStart s)
  else if c.column == 0 && c.isMarker '.' then do
    let s ← s.endBlocks
    .ok (mark 3 .documentEnd s)
  else if ch == '[' then s.openFlow .flowSequenceStart
  else if ch == '\x7b' then s.openFlow .flowMappingStart
  else if ch == ']' then s.closeFlow .flowSequenceEnd
  else if ch == '\x7d' then s.closeFlow .flowMappingEnd
  else if ch == ',' then s.flowComma
  else if ch == '-' && separated then s.blockDash
  else if ch == '?' && (s.inFlow || separated) then s.questionMark
  else if ch == ':' && (s.inFlow || separated) then s.colon
  else if ch == '*' then s.keyed (readAnchor .alias)
  else if ch == '&' then s.keyed (readAnchor .anchor)
  else if ch == '!' then s.keyed readTag
  else if (ch == '|' || ch == '>') && !s.inFlow then s.block
  else if ch.toNat == 39 || ch == '"' then s.keyed readQuoted
  else if s.startsPlain ch then s.keyed readPlain
  else malformed

/-- Read the next token; `none` is the end of the text. -/
def step (s : Lexer) : Except Fault (Option Lexer × Lexer) := do
  let s := skipToToken s.cursor.rest.length.succ s.skipOrderMark
  let s ← s.dropStaleKeys
  let s := s.unwind s.column
  match s.cursor.here with
  | none => do
      let s ← (s.unwind (-1)).removeKey
      .ok (none, s.emit .textEnd)
  | some ch => do
      let s ← s.tokenAt ch
      .ok (some s, s)

def run : Nat → Lexer → List Token
  | 0, s => s.tokens.reverse
  | fuel + 1, s =>
      match s.step with
      | .error cause => (Token.fault cause :: s.tokens).reverse
      | .ok (none, s) => s.tokens.reverse
      | .ok (some s, _) => run fuel s

end Lexer

def isAllowed (c : Char) : Bool :=
  let n := c.toNat
  n == 9 || n == 10 || n == 13 || (0x20 ≤ n && n ≤ 0x7E) || n == 0x85 ||
    (0xA0 ≤ n && n ≤ 0xFFFD) || 0x10000 ≤ n

def tokens (text : String) : List Token :=
  let cs := text.toList
  if cs.all isAllowed then Lexer.run (cs.length + 2) (.start cs) else [.fault .document]

end StillMotion.Document
