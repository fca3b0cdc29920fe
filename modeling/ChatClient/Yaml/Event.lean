import ChatClient.Yaml.Token

/-!
YAML tokens as events: where documents, sequences and mappings start and end, and the scalars and
aliases in them. What is left out of a collection is an empty plain scalar. The grammar is a machine
with a stack of what comes after the node that is being read.
-/
namespace ChatClient.Yaml

/-- The anchor of a node and its tag in full. -/
structure Properties where
  anchor : Option String
  tag : Option String

inductive EventKind
  | streamStart
  | streamEnd
  | documentStart
  | documentEnd
  | alias (name : String)
  | scalar (properties : Properties) (text : String) (style : Style)
  | sequenceStart (properties : Properties)
  | sequenceEnd
  | mappingStart (properties : Properties)
  | mappingEnd

/-- An event and where it begins. -/
structure Event where
  kind : EventKind
  mark : Mark

/-- What the machine expects. A flag tells whether it is at the start: of the stream, or of the
collection whose first token is still there. -/
inductive Expected
  | stream
  | document (atStart : Bool)
  | documentContent
  | documentEnd
  | blockNode
  | blockItem (atStart : Bool)
  | plainItem
  | blockKey (atStart : Bool)
  | blockValue
  | flowItem (atStart : Bool)
  | pairKey
  | pairValue
  | pairEnd
  | flowKey (atStart : Bool)
  | flowValue
  | noFlowValue
  | nothing

/-- The state of the grammar: what is expected now and after that, where the open collections began,
and the meanings of the handles in this document. -/
structure Grammar where
  lexer : Lexer
  expected : Expected
  after : List Expected
  opened : List Mark
  handles : List (String × String)

namespace Grammar

def ofString (s : String) : Grammar := ⟨.ofString s, .stream, [], [], []⟩

def peek (g : Grammar) : Except Fault (Token × Grammar) := do
  let (token, lexer) ← g.lexer.peek
  .ok (token, { g with lexer })

def next (g : Grammar) : Grammar := { g with lexer := g.lexer.next }

def expect (expected : Expected) (g : Grammar) : Grammar := { g with expected }

def push (expected : Expected) (g : Grammar) : Grammar := { g with after := expected :: g.after }

/-- Expects what comes after the node that has ended. -/
def pop (g : Grammar) : Grammar :=
  { g with expected := g.after.headD .nothing, after := g.after.tail }

/-- Notes where a collection begins, and passes its first token. -/
def enter (token : Token) (g : Grammar) : Grammar := { g.next with opened := token.start :: g.opened }

def leave (g : Grammar) : Grammar := { g with opened := g.opened.tail }

abbrev Step := Except Fault (Event × Grammar)

def emit (kind : EventKind) (mark : Mark) (g : Grammar) : Step := .ok (⟨kind, mark⟩, g)

/-- A scalar for what has been left out. -/
def emitEmpty (mark : Mark) (g : Grammar) : Step :=
  g.emit (.scalar ⟨none, none⟩ "" .plain) mark

/-- The collection that was opened last goes on in a wrong way. -/
def collectionFault (context problem : String) (token : Token) (g : Grammar) : Step :=
  .error ⟨problem, token.start, some (context, g.opened.headD token.start)⟩

/-- Reads the anchor and the tag of a node, in any order. -/
def readProperties (g : Grammar) : Except Fault (Option String × Option (TagText × Mark) × Grammar) := do
  let (first, g) ← g.peek
  match first.kind with
  | .anchor name =>
    let (second, h) ← g.next.peek
    match second.kind with
    | .tag tag => .ok (some name, some (tag, second.start), h.next)
    | _ => .ok (some name, none, h)
  | .tag tag =>
    let (second, h) ← g.next.peek
    match second.kind with
    | .anchor name => .ok (some name, some (tag, first.start), h.next)
    | _ => .ok (none, some (tag, first.start), h)
  | _ => .ok (none, none, g)

/-- The tag in full, with the meaning of its handle. -/
def fullTag (start : Mark) (g : Grammar) : Option (TagText × Mark) → Except Fault (Option String)
  | none => .ok none
  | some (tag, mark) =>
    if tag.handle = "" then .ok (some tag.suffix)
    else match g.handles.find? (·.1 = tag.handle) with
      | some (_, meaning) => .ok (some (meaning ++ tag.suffix))
      | none =>
        .error ⟨"found undefined tag handle", mark, some ("while parsing a node", start)⟩

/-- Reads a node. Where a mapping has its value, a sequence may stand without being indented. -/
def readNode (block inMapping : Bool) (g : Grammar) : Step := do
  let (first, g) ← g.peek
  match first.kind with
  | .alias name => g.next.pop.emit (.alias name) first.start
  | _ =>
    let start := first.start
    let (anchor, tagText, g) ← g.readProperties
    let (token, g) ← g.peek
    let tag ← g.fullTag start tagText
    let properties : Properties := ⟨anchor, tag⟩
    match token.kind, block, inMapping with
    | .blockEntry, _, true => (g.expect .plainItem).emit (.sequenceStart properties) start
    | .scalar text style, _, _ =>
      let tag := if tag = some "!" then none else tag
      g.next.pop.emit (.scalar ⟨anchor, tag⟩ text style) start
    | .flowSequenceStart, _, _ => (g.expect (.flowItem true)).emit (.sequenceStart properties) start
    | .flowMappingStart, _, _ => (g.expect (.flowKey true)).emit (.mappingStart properties) start
    | .blockSequenceStart, true, _ => (g.expect (.blockItem true)).emit (.sequenceStart properties) start
    | .blockMappingStart, true, _ => (g.expect (.blockKey true)).emit (.mappingStart properties) start
    | _, _, _ =>
      if anchor.isSome || tag.isSome then g.pop.emit (.scalar properties "" .plain) start
      else
        let context := if block then "while parsing a block node" else "while parsing a flow node"
        .error ⟨"did not find expected node content", token.start, some (context, start)⟩

def defaultHandles : List (String × String) := [("!", "!"), ("!!", "tag:yaml.org,2002:")]

/-- Reads the directives of a document. The fuel bounds their number. -/
def readDirectives (versioned : Bool) (handles : List (String × String)) :
    (fuel : Nat) → Grammar → Except Fault Grammar
  | 0, g => .ok g
  | fuel + 1, g => do
    let (token, g) ← g.peek
    match token.kind with
    | .directive (.version major minor) =>
      if versioned then .error ⟨"found duplicate %YAML directive", token.start, none⟩
      else if major ≠ 1 ∨ (minor ≠ 1 ∧ minor ≠ 2) then
        .error ⟨"found incompatible YAML document", token.start, none⟩
      else readDirectives true handles fuel g.next
    | .directive (.handle handle meaning) =>
      if handles.any (·.1 = handle) then .error ⟨"found duplicate %TAG directive", token.start, none⟩
      else readDirectives versioned (handles ++ [(handle, meaning)]) fuel g.next
    | _ => .ok { g with handles := handles ++ defaultHandles }

/-- Passes the marks at the ends of documents. The fuel bounds their number. -/
def skipDocumentEnds : (fuel : Nat) → Grammar → Except Fault Grammar
  | 0, g => .ok g
  | fuel + 1, g => do
    let (token, g) ← g.peek
    match token.kind with
    | .documentEnd => skipDocumentEnds fuel g.next
    | _ => .ok g

/-- Reads the start of a document. The first one need not be marked. -/
def readDocument (atStart : Bool) (g : Grammar) : Step := do
  let fuel := g.lexer.cursor.rest.length + g.lexer.queue.length + 1
  let g ← if atStart then .ok g else g.skipDocumentEnds fuel
  let (token, g) ← g.peek
  let marked := (g.push .documentEnd).expect .documentContent
  match token.kind, atStart with
  | .streamEnd, _ => (g.next.expect .nothing).emit .streamEnd token.start
  | .directive _, _ | .documentStart, _ | _, false =>
    let g ← marked.readDirectives false [] fuel
    let (second, g) ← g.peek
    match second.kind with
    | .documentStart => g.next.emit .documentStart token.start
    | _ => .error ⟨"did not find expected <document start>", second.start, none⟩
  | _, true =>
    (({ g with handles := defaultHandles }.push .documentEnd).expect .blockNode).emit .documentStart
      token.start

/-- Reads a node after a mark, unless the collection goes on without one. -/
def readNodeUnless (absent : TokenKind → Bool) (following : Expected) (block inMapping : Bool) (mark : Mark)
    (g : Grammar) : Step := do
  let (token, g) ← g.peek
  if absent token.kind then (g.expect following).emitEmpty mark
  else (g.push following).readNode block inMapping

def endsItem : TokenKind → Bool
  | .blockEntry | .blockEnd => true
  | _ => false

def endsPlainItem : TokenKind → Bool
  | .blockEntry | .key | .value | .blockEnd => true
  | _ => false

def endsBlockPart : TokenKind → Bool
  | .key | .value | .blockEnd => true
  | _ => false

def endsPairKey : TokenKind → Bool
  | .value | .flowEntry | .flowSequenceEnd => true
  | _ => false

def endsPairValue : TokenKind → Bool
  | .flowEntry | .flowSequenceEnd => true
  | _ => false

def endsFlowKey : TokenKind → Bool
  | .value | .flowEntry | .flowMappingEnd => true
  | _ => false

def endsFlowValue : TokenKind → Bool
  | .flowEntry | .flowMappingEnd => true
  | _ => false

def readBlockItem (g : Grammar) : Step := do
  let (token, g) ← g.peek
  match token.kind with
  | .blockEntry => g.next.readNodeUnless endsItem (.blockItem false) true false token.stop
  | .blockEnd => g.next.pop.leave.emit .sequenceEnd token.start
  | _ => g.collectionFault "while parsing a block collection" "did not find expected '-' indicator" token

def readPlainItem (g : Grammar) : Step := do
  let (token, g) ← g.peek
  match token.kind with
  | .blockEntry => g.next.readNodeUnless endsPlainItem .plainItem true false token.stop
  | _ => g.pop.emit .sequenceEnd token.start

def readBlockKey (g : Grammar) : Step := do
  let (token, g) ← g.peek
  match token.kind with
  | .key => g.next.readNodeUnless endsBlockPart .blockValue true true token.stop
  | .blockEnd => g.next.pop.leave.emit .mappingEnd token.start
  | _ => g.collectionFault "while parsing a block mapping" "did not find expected key" token

def readBlockValue (g : Grammar) : Step := do
  let (token, g) ← g.peek
  match token.kind with
  | .value => g.next.readNodeUnless endsBlockPart (.blockKey false) true true token.stop
  | _ => (g.expect (.blockKey false)).emitEmpty token.start

/-- Reads an item of a flow sequence, which may be a mapping with one pair. -/
def readFlowItem (token : Token) (g : Grammar) : Step :=
  match token.kind with
  | .key => (g.next.expect .pairKey).emit (.mappingStart ⟨none, none⟩) token.start
  | .flowSequenceEnd => g.next.pop.leave.emit .sequenceEnd token.start
  | _ => (g.push (.flowItem false)).readNode false false

def readNextFlowItem (atStart : Bool) (g : Grammar) : Step := do
  let (token, g) ← g.peek
  match token.kind, atStart with
  | .flowSequenceEnd, _ | _, true => g.readFlowItem token
  | .flowEntry, false =>
    let (token, g) ← g.next.peek
    g.readFlowItem token
  | _, false => g.collectionFault "while parsing a flow sequence" "did not find expected ',' or ']'" token

def readPairKey (g : Grammar) : Step := do
  let (token, g) ← g.peek
  if endsPairKey token.kind then (g.next.expect .pairValue).emitEmpty token.stop
  else (g.push .pairValue).readNode false false

def readPairValue (g : Grammar) : Step := do
  let (token, g) ← g.peek
  match token.kind with
  | .value =>
    let (token, g) ← g.next.peek
    g.readNodeUnless endsPairValue .pairEnd false false token.start
  | _ => (g.expect .pairEnd).emitEmpty token.start

/-- Reads a key of a flow mapping. A key without a sign may have no value. -/
def readFlowKey (token : Token) (g : Grammar) : Step := do
  match token.kind with
  | .key =>
    let (token, g) ← g.next.peek
    g.readNodeUnless endsFlowKey .flowValue false false token.start
  | .flowMappingEnd => g.next.pop.leave.emit .mappingEnd token.start
  | _ => (g.push .noFlowValue).readNode false false

def readNextFlowKey (atStart : Bool) (g : Grammar) : Step := do
  let (token, g) ← g.peek
  match token.kind, atStart with
  | .flowMappingEnd, _ | _, true => g.readFlowKey token
  | .flowEntry, false =>
    let (token, g) ← g.next.peek
    g.readFlowKey token
  | _, false => g.collectionFault "while parsing a flow mapping" "did not find expected ',' or '\x7d'" token

def readFlowValue (g : Grammar) : Step := do
  let (token, g) ← g.peek
  match token.kind with
  | .value =>
    let (token, g) ← g.next.peek
    g.readNodeUnless endsFlowValue (.flowKey false) false false token.start
  | _ => (g.expect (.flowKey false)).emitEmpty token.start

/-- Passes the first token of a collection that has just begun. -/
def enterIf (atStart : Bool) (g : Grammar) : Except Fault Grammar := do
  if atStart then
    let (token, g) ← g.peek
    .ok (g.enter token)
  else .ok g

/-- The next event. -/
def step (g : Grammar) : Step := do
  match g.expected with
  | .stream =>
    let (token, g) ← g.peek
    (g.next.expect (.document true)).emit .streamStart token.start
  | .document atStart => g.readDocument atStart
  | .documentContent =>
    let (token, g) ← g.peek
    match token.kind with
    | .directive _ | .documentStart | .documentEnd | .streamEnd => g.pop.emitEmpty token.start
    | _ => g.readNode true false
  | .documentEnd =>
    let (token, g) ← g.peek
    let g := (match token.kind with
      | .documentEnd => g.next
      | _ => g).expect (.document false)
    { g with handles := [] }.emit .documentEnd token.start
  | .blockNode => g.readNode true false
  | .blockItem atStart => (← g.enterIf atStart).readBlockItem
  | .plainItem => g.readPlainItem
  | .blockKey atStart => (← g.enterIf atStart).readBlockKey
  | .blockValue => g.readBlockValue
  | .flowItem atStart => (← g.enterIf atStart).readNextFlowItem atStart
  | .pairKey => g.readPairKey
  | .pairValue => g.readPairValue
  | .pairEnd =>
    let (token, g) ← g.peek
    (g.expect (.flowItem false)).emit .mappingEnd token.start
  | .flowKey atStart => (← g.enterIf atStart).readNextFlowKey atStart
  | .flowValue => g.readFlowValue
  | .noFlowValue =>
    let (token, g) ← g.peek
    (g.expect (.flowKey false)).emitEmpty token.start
  | .nothing =>
    let (token, g) ← g.peek
    g.emit .streamEnd token.start

end Grammar

end ChatClient.Yaml
