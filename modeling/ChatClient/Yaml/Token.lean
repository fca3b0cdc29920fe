import ChatClient.Yaml.Scalar
import ChatClient.Yaml.Tag

/-!
YAML text as tokens. Indentation gives tokens of its own, and a key is known as one only when the
colon after it has been seen. So tokens wait in a queue while what they belong to may still be a key;
an error in what follows comes before them.
-/
namespace ChatClient.Yaml

inductive TokenKind
  | streamStart
  | streamEnd
  | directive (directive : Directive)
  | documentStart
  | documentEnd
  | blockSequenceStart
  | blockMappingStart
  | blockEnd
  | flowSequenceStart
  | flowSequenceEnd
  | flowMappingStart
  | flowMappingEnd
  | blockEntry
  | flowEntry
  | key
  | value
  | alias (name : String)
  | anchor (name : String)
  | tag (tag : TagText)
  | scalar (text : String) (style : Style)

/-- A token with the places where it starts and stops. -/
structure Token where
  kind : TokenKind
  start : Mark
  stop : Mark

/-- What may turn out to be a key: the number of its first token, its place, and whether it has to be
a key, because it begins a line of a mapping. -/
structure PossibleKey where
  required : Bool
  number : Nat
  mark : Mark

/-- The state of reading tokens. Both stacks have the innermost collection first: the columns of block
collections, and the possible keys of flow collections, with one for the outside at the end. The
tokens that have been taken out of the queue are counted. -/
structure Lexer where
  cursor : Cursor
  started : Bool
  queue : List Token
  taken : Nat
  columns : List Nat
  keys : List (Option PossibleKey)
  keyAllowed : Bool

namespace Lexer

def ofString (s : String) : Lexer := ⟨.ofString s, false, [], 0, [], [none], true⟩

def inFlow (l : Lexer) : Bool := 1 < l.keys.length

/-- The least column of what belongs to the innermost block collection. -/
def leastColumn (l : Lexer) : Nat :=
  match l.columns with
  | column :: _ => column + 1
  | [] => 0

def push (token : Token) (l : Lexer) : Lexer := { l with queue := l.queue ++ [token] }

/-- Puts a token before the one that has a number. -/
def insertAt (number : Nat) (token : Token) (l : Lexer) : Lexer :=
  let place := number - l.taken
  { l with queue := l.queue.take place ++ token :: l.queue.drop place }

def missingColon (key : PossibleKey) (l : Lexer) : Except Fault α :=
  l.cursor.faultIn "while scanning a simple key" key.mark "could not find expected ':'"

/-- A key stands on one line, and its colon not too far away. -/
def isStale (c : Cursor) (key : PossibleKey) : Bool :=
  key.mark.line < c.mark.line || key.mark.index + 1024 < c.mark.index

/-- Gives up the possible keys that can no longer be keys. -/
def dropStaleKeys (l : Lexer) : Except Fault Lexer :=
  match l.keys.find? fun key => key.any fun k => k.required && isStale l.cursor k with
  | some (some key) => l.missingColon key
  | _ => .ok { l with keys := l.keys.map fun key => key.filter (!isStale l.cursor ·) }

/-- Gives up the innermost possible key. -/
def dropKey (l : Lexer) : Except Fault Lexer :=
  match l.keys with
  | some key :: keys => if key.required then l.missingColon key else .ok { l with keys := none :: keys }
  | _ => .ok l

/-- What stands at the cursor may be a key, if keys may stand here. -/
def saveKey (l : Lexer) : Except Fault Lexer :=
  if l.keyAllowed then do
    let required := !l.inFlow && l.columns.head? = some l.cursor.mark.column
    let key := ⟨required, l.taken + l.queue.length, l.cursor.mark⟩
    let l ← l.dropKey
    .ok { l with keys := some key :: l.keys.tail }
  else .ok l

def allowKey (allowed : Bool) (l : Lexer) : Lexer := { l with keyAllowed := allowed }

/-- Opens a block collection at a column, unless one is open there or further right. Its token comes
before the one with the number, or else last. -/
def indentTo (column : Nat) (number : Option Nat) (kind : TokenKind) (mark : Mark) (l : Lexer) : Lexer :=
  if l.inFlow || column < l.leastColumn then l
  else
    let l := { l with columns := column :: l.columns }
    let token := ⟨kind, mark, mark⟩
    match number with
    | some n => l.insertAt n token
    | none => l.push token

/-- Closes the block collections to the right of a column; without one, all of them. -/
def unindentTo (column : Option Nat) (l : Lexer) : Lexer :=
  if l.inFlow then l
  else
    let right := match column with
      | some n => l.columns.takeWhile (n < ·)
      | none => l.columns
    { l with
      columns := l.columns.drop right.length
      queue := l.queue ++ right.map fun _ => ⟨.blockEnd, l.cursor.mark, l.cursor.mark⟩ }

/-- Passes some characters, which are one token. -/
def take (length : Nat) (kind : TokenKind) (l : Lexer) : Lexer :=
  let next := l.cursor.skip length
  { l.push ⟨kind, l.cursor.mark, next.mark⟩ with cursor := next }

/-- Passes what has been read as one token. -/
def takeTo (next : Cursor) (kind : TokenKind) (l : Lexer) : Lexer :=
  { l.push ⟨kind, l.cursor.mark, next.mark⟩ with cursor := next }

/-- Passes blanks, comments and breaks up to the next token, and a byte order mark at the start of a
line. A tab counts as blank only where no key may stand. After a break a key may stand in a block. The
fuel bounds the number of lines. -/
def skipToToken : (fuel : Nat) → Lexer → Lexer
  | 0, l => l
  | fuel + 1, l =>
    let c := l.cursor
    let c := if c.mark.column = 0 && c.starts '\uFEFF' then c.skip 1 else c
    let c := (c.skipWhile fun ch => ch = ' ' || ((l.inFlow || !l.keyAllowed) && ch = '\t')).skipComment
    if c.atBreak then
      skipToToken fuel { l with cursor := c.skipBreak, keyAllowed := l.keyAllowed || !l.inFlow }
    else { l with cursor := c }

/-- The text is at its end. All that is open is closed on a line of its own. -/
def readEnd (l : Lexer) : Except Fault Lexer := do
  let m := l.cursor.mark
  let m := if m.column = 0 then m else { m with line := m.line + 1, column := 0 }
  let l := { l with cursor := ⟨[], m⟩ }
  let l ← (l.unindentTo none).dropKey
  .ok ((l.allowKey false).push ⟨.streamEnd, m, m⟩)

/-- A token at which all block collections are closed. -/
def readOutside (f : Lexer → Except Fault Lexer) (l : Lexer) : Except Fault Lexer := do
  f ((← (l.unindentTo none).dropKey).allowKey false)

def readDirectiveToken (l : Lexer) : Except Fault Lexer := do
  let (directive, next) ← readDirective l.cursor
  .ok (l.takeTo next (.directive directive))

def openFlow (kind : TokenKind) (l : Lexer) : Except Fault Lexer := do
  let l ← l.saveKey
  .ok (({ l with keys := none :: l.keys }.allowKey true).take 1 kind)

def closeFlow (kind : TokenKind) (l : Lexer) : Except Fault Lexer := do
  let l ← l.dropKey
  let keys := if l.inFlow then l.keys.tail else l.keys
  .ok (({ l with keys }.allowKey false).take 1 kind)

def readFlowEntry (l : Lexer) : Except Fault Lexer := do
  .ok (((← l.dropKey).allowKey true).take 1 .flowEntry)

def readBlockEntry (l : Lexer) : Except Fault Lexer := do
  if !l.inFlow && !l.keyAllowed then
    l.cursor.fault "block sequence entries are not allowed in this context"
  else
    let l := l.indentTo l.cursor.mark.column none .blockSequenceStart l.cursor.mark
    .ok (((← l.dropKey).allowKey true).take 1 .blockEntry)

def readKey (l : Lexer) : Except Fault Lexer := do
  if !l.inFlow && !l.keyAllowed then
    l.cursor.fault "mapping keys are not allowed in this context"
  else
    let l := l.indentTo l.cursor.mark.column none .blockMappingStart l.cursor.mark
    .ok (((← l.dropKey).allowKey (!l.inFlow)).take 1 .key)

/-- A colon makes a key of what stands before it. -/
def readValue (l : Lexer) : Except Fault Lexer :=
  match l.keys with
  | some key :: keys =>
    let l := { l with keys := none :: keys }.insertAt key.number ⟨.key, key.mark, key.mark⟩
    let l := l.indentTo key.mark.column (some key.number) .blockMappingStart key.mark
    .ok ((l.allowKey false).take 1 .value)
  | _ =>
    if !l.inFlow && !l.keyAllowed then
      l.cursor.fault "mapping values are not allowed in this context"
    else
      let l := l.indentTo l.cursor.mark.column none .blockMappingStart l.cursor.mark
      .ok ((l.allowKey (!l.inFlow)).take 1 .value)

def readAlias (l : Lexer) : Except Fault Lexer := do
  let l := (← l.saveKey).allowKey false
  let (name, next) ← readName "while scanning an alias" l.cursor
  .ok (l.takeTo next (.alias name))

def readAnchor (l : Lexer) : Except Fault Lexer := do
  let l := (← l.saveKey).allowKey false
  let (name, next) ← readName "while scanning an anchor" l.cursor
  .ok (l.takeTo next (.anchor name))

def readTagToken (l : Lexer) : Except Fault Lexer := do
  let l := (← l.saveKey).allowKey false
  let (tag, next) ← readTag l.inFlow l.cursor
  .ok (l.takeTo next (.tag tag))

/-- Passes a scalar. -/
def takeScalar (s : ReadScalar) (style : Style) (l : Lexer) : Lexer :=
  { l.push ⟨.scalar (String.ofList s.text) style, l.cursor.mark, s.stop⟩ with cursor := s.next }

def readBlockScalar (literal : Bool) (l : Lexer) : Except Fault Lexer := do
  let l := (← l.dropKey).allowKey true
  .ok (l.takeScalar (← readBlock literal l.leastColumn l.cursor) (if literal then .literal else .folded))

def readQuotedScalar (quote : Char) (style : Style) (l : Lexer) : Except Fault Lexer := do
  let l := (← l.saveKey).allowKey false
  .ok (l.takeScalar (← readQuoted quote l.cursor) style)

def readPlainScalar (l : Lexer) : Except Fault Lexer := do
  let l := (← l.saveKey).allowKey false
  let s ← readPlain l.inFlow l.leastColumn l.cursor
  .ok ((l.takeScalar s .plain).allowKey s.broken)

/-- Signs with which no plain scalar begins, or only if something follows at once. -/
def isIndicator (c : Char) : Bool :=
  ['-', '?', ':', ',', '[', ']', '\x7b', '\x7d', '#', '&', '*', '!', '|', '>', '\x27', '"', '%', '@',
    '\x60'].contains c

/-- Reads the token that begins with a character. -/
def readFrom (ch : Char) (l : Lexer) : Except Fault Lexer :=
  let c := l.cursor
  let beforeGap := isGap (c.ahead 1)
  if c.mark.column = 0 && ch = '%' then l.readOutside readDirectiveToken
  else if c.atMarker '-' then l.readOutside (.ok <| take 3 .documentStart ·)
  else if c.atMarker '.' then l.readOutside (.ok <| take 3 .documentEnd ·)
  else if ch = '[' then l.openFlow .flowSequenceStart
  else if ch = '\x7b' then l.openFlow .flowMappingStart
  else if ch = ']' then l.closeFlow .flowSequenceEnd
  else if ch = '\x7d' then l.closeFlow .flowMappingEnd
  else if ch = ',' then l.readFlowEntry
  else if ch = '-' && beforeGap then l.readBlockEntry
  else if ch = '?' && (l.inFlow || beforeGap) then l.readKey
  else if ch = ':' && (l.inFlow || beforeGap) then l.readValue
  else if ch = '*' then l.readAlias
  else if ch = '&' then l.readAnchor
  else if ch = '!' then l.readTagToken
  else if ch = '|' && !l.inFlow then l.readBlockScalar true
  else if ch = '>' && !l.inFlow then l.readBlockScalar false
  else if ch = '\x27' then l.readQuotedScalar ch .single
  else if ch = '"' then l.readQuotedScalar ch .double
  else if (!isGap (some ch) && !isIndicator ch) || (ch = '-' && !(c.ahead 1).any isBlank) ||
      (!l.inFlow && (ch = '?' || ch = ':') && !beforeGap) then l.readPlainScalar
  else c.faultIn "while scanning for the next token" c.mark "found character that cannot start any token"

/-- Reads the next token into the queue, and those that indentation gives before it. -/
def readToken (l : Lexer) : Except Fault Lexer := do
  if !l.started then .ok { l.push ⟨.streamStart, l.cursor.mark, l.cursor.mark⟩ with started := true }
  else
    let l ← (l.skipToToken (l.cursor.rest.length + 1)).dropStaleKeys
    let l := l.unindentTo (some l.cursor.mark.column)
    match l.cursor.peek with
    | none => l.readEnd
    | some ch => l.readFrom ch

/-- Reads tokens until the first one in the queue is settled. The fuel bounds their number. -/
def fillWith : (fuel : Nat) → Lexer → Except Fault Lexer
  | 0, l => .ok l
  | fuel + 1, l => do
    if l.queue.isEmpty then fillWith fuel (← l.readToken)
    else
      let l ← l.dropStaleKeys
      if l.keys.any (·.any (·.number = l.taken)) then fillWith fuel (← l.readToken) else .ok l

def fill (l : Lexer) : Except Fault Lexer := l.fillWith (l.cursor.rest.length + 3)

/-- The next token. After the end of the text it is given again and again. -/
def peek (l : Lexer) : Except Fault (Token × Lexer) := do
  let l ← l.fill
  match l.queue with
  | token :: _ => .ok (token, l)
  | [] => .ok (⟨.streamEnd, l.cursor.mark, l.cursor.mark⟩, l)

/-- Takes the first token out of the queue. -/
def next (l : Lexer) : Lexer := { l with queue := l.queue.tail, taken := l.taken + 1 }

end Lexer

end ChatClient.Yaml
