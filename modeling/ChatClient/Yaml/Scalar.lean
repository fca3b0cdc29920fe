import ChatClient.Yaml.Cursor
import ChatClient.Text.Number

/-!
Scalars in YAML text: plain, quoted once or twice, and blocks. Where a plain or quoted scalar goes over
several lines, one break becomes a space and further breaks stay.
-/
namespace ChatClient.Yaml

inductive Style
  | plain
  | single
  | double
  | literal
  | folded
deriving DecidableEq

/-- What stands between two words of a scalar: blanks, or a first break and more of them. -/
structure Gap where
  blanks : List Char
  broken : Bool
  first : List Char
  more : List Char

def Gap.none : Gap := ⟨[], false, [], []⟩

/-- What becomes of a first break and more of them. -/
def foldBreaks (first more : List Char) : List Char :=
  if first = ['\n'] then if more.isEmpty then [' '] else more else first ++ more

/-- What the gap leaves in the scalar. -/
def Gap.text (g : Gap) : List Char :=
  if g.broken then foldBreaks g.first g.more else g.blanks

/-- Reads a gap. After a break no tab may stand before the column `least`; its place is the error. The
fuel bounds the number of characters. -/
def readGap (least : Nat) : (fuel : Nat) → Gap → Cursor → Except Cursor (Gap × Cursor)
  | 0, g, c => .ok (g, c)
  | fuel + 1, g, c =>
    if c.atBlank then
      if g.broken then
        if c.mark.column < least && c.starts '\t' then .error c else readGap least fuel g (c.skip 1)
      else readGap least fuel { g with blanks := g.blanks ++ c.rest.take 1 } (c.skip 1)
    else if c.atBreak then
      let (br, c) := c.readBreak
      if g.broken then readGap least fuel { g with more := g.more ++ br } c
      else readGap least fuel ⟨[], true, br, []⟩ c
    else .ok (g, c)

/-- The signs that structure a flow collection. -/
def isFlowSign (c : Char) : Bool := [',', '[', ']', '\x7b', '\x7d'].contains c

/-- How many characters a word of a plain scalar has. In a flow collection a colon right before one of
its signs is an error, after as many characters as the error says. -/
def plainLength (inFlow : Bool) : List Char → Except Nat Nat
  | [] => .ok 0
  | c :: rest =>
    if isGap (some c) then .ok 0
    else if inFlow && c = ':' && rest.head?.any (fun d => isFlowSign d || d = '?') then .error 0
    else if (c = ':' && isGap rest.head?) || (inFlow && isFlowSign c) then .ok 0
    else match plainLength inFlow rest with
      | .ok n => .ok (n + 1)
      | .error n => .error (n + 1)

/-- A scalar that has been read: its text, where it ends, where reading goes on, and whether that is
on another line. -/
structure ReadScalar where
  text : List Char
  stop : Mark
  next : Cursor
  broken : Bool

/-- Reads the words of a plain scalar. It ends at a comment, at a document marker, or where the text
is indented less than `least`. -/
def readPlainWith (inFlow : Bool) (least : Nat) (start : Mark) :
    (fuel : Nat) → List Char → Gap → Mark → Cursor → Except Fault ReadScalar
  | 0, text, gap, stop, c => .ok ⟨text, stop, c, gap.broken⟩
  | fuel + 1, text, gap, stop, c =>
    if c.atDocumentMarker || c.starts '#' then .ok ⟨text, stop, c, gap.broken⟩
    else match plainLength inFlow c.rest with
      | .error n => (c.skip n).faultIn "while scanning a plain scalar" start "found unexpected ':'"
      | .ok 0 => .ok ⟨text, stop, c, gap.broken⟩
      | .ok n =>
        let text := text ++ gap.text ++ c.rest.take n
        let c := c.skip n
        let stop := c.mark
        if c.atBlank || c.atBreak then
          match readGap least c.rest.length .none c with
          | .error c =>
            c.faultIn "while scanning a plain scalar" start
              "found a tab character that violates indentation"
          | .ok (gap, c) =>
            if !inFlow && c.mark.column < least then .ok ⟨text, stop, c, gap.broken⟩
            else readPlainWith inFlow least start fuel text gap stop c
        else .ok ⟨text, stop, c, false⟩

def readPlain (inFlow : Bool) (least : Nat) (c : Cursor) : Except Fault ReadScalar :=
  readPlainWith inFlow least c.mark (c.rest.length + 1) [] .none c.mark c

/-- The character that an escape of one letter stands for. -/
def unescape? : Char → Option Char
  | '0' => some '\x00'
  | 'a' => some '\x07'
  | 'b' => some '\x08'
  | 't' | '\t' => some '\t'
  | 'n' => some '\n'
  | 'v' => some '\x0B'
  | 'f' => some '\x0C'
  | 'r' => some '\r'
  | 'e' => some '\x1B'
  | ' ' => some ' '
  | '"' => some '"'
  | '/' => some '/'
  | '\\' => some '\\'
  | 'N' => some '\u0085'
  | '_' => some '\u00A0'
  | 'L' => some '\u2028'
  | 'P' => some '\u2029'
  | _ => none

/-- How many hexadecimal digits follow the letter of an escape. -/
def escapeWidth? : Char → Option Nat
  | 'x' => some 2
  | 'u' => some 4
  | 'U' => some 8
  | _ => none

/-- Reads an escape after its backslash. -/
def readEscape (start : Mark) (c : Cursor) : Except Fault (Char × Cursor) :=
  let context := "while parsing a quoted scalar"
  match c.ahead 1 with
  | none => c.faultIn context start "found unknown escape character"
  | some letter =>
    match unescape? letter, escapeWidth? letter with
    | some ch, _ => .ok (ch, c.skip 2)
    | none, some width =>
      let c := c.skip 2
      let digits := c.rest.take width
      match Text.digits? 16 digits with
      | some n =>
        if digits.length < width then
          c.faultIn context start "did not find expected hexdecimal number"
        else if n.isValidChar then .ok (Char.ofNat n, c.skip width)
        else c.faultIn context start "found invalid Unicode character escape code"
      | none => c.faultIn context start "did not find expected hexdecimal number"
    | none, none => c.faultIn context start "found unknown escape character"

/-- Reads the characters of a quoted scalar up to a gap or the quote, and tells whether an escaped
break ended them. The fuel bounds the number of characters. -/
def readQuotedWord (quote : Char) (start : Mark) :
    (fuel : Nat) → List Char → Cursor → Except Fault (List Char × Bool × Cursor)
  | 0, text, c => .ok (text, false, c)
  | fuel + 1, text, c =>
    match c.peek with
    | none => .ok (text, false, c)
    | some ch =>
      if isGap (some ch) then .ok (text, false, c)
      else if ch = quote then
        if quote = '\x27' && c.ahead 1 = some quote then
          readQuotedWord quote start fuel (text ++ [quote]) (c.skip 2)
        else .ok (text, false, c)
      else if quote = '"' && ch = '\\' then
        if (c.ahead 1).any isBreak then .ok (text, true, (c.skip 1).skipBreak)
        else do
          let (ch, c) ← readEscape start c
          readQuotedWord quote start fuel (text ++ [ch]) c
      else readQuotedWord quote start fuel (text ++ [ch]) (c.skip 1)

/-- Reads the words of a quoted scalar up to its closing quote. -/
def readQuotedWith (quote : Char) (start : Mark) :
    (fuel : Nat) → List Char → Cursor → Except Fault ReadScalar
  | 0, _, c => c.faultIn "while scanning a quoted scalar" start "found unexpected end of stream"
  | fuel + 1, text, c =>
    if c.atDocumentMarker then
      c.faultIn "while scanning a quoted scalar" start "found unexpected document indicator"
    else if c.atEnd then
      c.faultIn "while scanning a quoted scalar" start "found unexpected end of stream"
    else do
      let (word, joined, c) ← readQuotedWord quote start (c.rest.length + 1) [] c
      if c.starts quote then .ok ⟨text ++ word, (c.skip 1).mark, c.skip 1, false⟩
      else match readGap 0 c.rest.length { Gap.none with broken := joined } c with
        | .ok (gap, c) => readQuotedWith quote start fuel (text ++ word ++ gap.text) c
        | .error c => c.faultIn "while scanning a quoted scalar" start "found unexpected end of stream"

def readQuoted (quote : Char) (c : Cursor) : Except Fault ReadScalar :=
  readQuotedWith quote c.mark (c.rest.length + 1) [] (c.skip 1)

/-- What happens to the breaks at the end of a block: all but one are dropped, all are, or none. -/
inductive Chomping
  | clip
  | strip
  | keep
deriving DecidableEq

def chomping? : Option Char → Option Chomping
  | some '-' => some .strip
  | some '+' => some .keep
  | _ => none

/-- Reads the digit that gives the indentation of a block, if there is one. -/
def readIndent (start : Mark) (c : Cursor) : Except Fault (Option Nat × Cursor) :=
  match c.peek.bind Text.digit? with
  | none => .ok (none, c)
  | some 0 =>
    c.faultIn "while scanning a block scalar" start "found an indentation indicator equal to 0"
  | some n => .ok (some n, c.skip 1)

/-- Reads the two indicators of a block, in any order. -/
def readBlockHeader (start : Mark) (c : Cursor) : Except Fault (Chomping × Option Nat × Cursor) := do
  match chomping? c.peek with
  | some chomping =>
    let (indent, c) ← readIndent start (c.skip 1)
    .ok (chomping, indent, c)
  | none =>
    let (indent, c) ← readIndent start c
    match indent, chomping? c.peek with
    | some _, some chomping => .ok (chomping, indent, c.skip 1)
    | _, _ => .ok (.clip, indent, c)

/-- Reads the empty lines of a block and the indentation after them, as far as the column `indent` if
that is known. Also gives the widest indentation and the place after the last break. -/
def readEmptyLines (start : Mark) (indent : Option Nat) :
    (fuel : Nat) → (breaks : List Char) → (widest : Nat) → (stop : Mark) → Cursor →
      Except Fault (List Char × Nat × Mark × Cursor)
  | 0, breaks, widest, stop, c => .ok (breaks, widest, stop, c)
  | fuel + 1, breaks, widest, stop, c =>
    let spaces := c.rest.takeWhile (· = ' ')
    let c := c.skip (match indent with
      | some n => min spaces.length (n - c.mark.column)
      | none => spaces.length)
    let widest := max widest c.mark.column
    let inIndent := match indent with
      | some n => c.mark.column < n
      | none => true
    if inIndent && c.starts '\t' then
      c.faultIn "while scanning a block scalar" start
        "found a tab character where an indentation space is expected"
    else if c.atBreak then
      let (br, c) := c.readBreak
      readEmptyLines start indent fuel (breaks ++ br) widest c.mark c
    else .ok (breaks, widest, stop, c)

/-- What a block holds so far: its text, the break after the last line and the empty lines after that,
and whether the last line began with a blank. -/
structure BlockText where
  text : List Char
  lastBreak : List Char
  empty : List Char
  blankLine : Bool

/-- Adds a line. In a folded block the break before it becomes a space, unless one of the two lines
begins with a blank. -/
def BlockText.addLine (literal : Bool) (line : List Char) (b : BlockText) : BlockText :=
  let blank := line.head?.any isBlank
  let before :=
    if !literal && b.lastBreak = ['\n'] && !b.blankLine && !blank then
      if b.empty.isEmpty then [' '] else []
    else b.lastBreak
  ⟨b.text ++ before ++ b.empty ++ line, [], [], blank⟩

/-- Reads the lines of a block that are indented by `indent`. -/
def readLines (literal : Bool) (start : Mark) (indent : Nat) :
    (fuel : Nat) → BlockText → (stop : Mark) → Cursor → Except Fault (BlockText × Mark × Cursor)
  | 0, b, stop, c => .ok (b, stop, c)
  | fuel + 1, b, stop, c =>
    if c.mark.column = indent && !c.atEnd then do
      let (line, c) := c.span (!isBreak ·)
      let b := b.addLine literal line
      let (lastBreak, c) := c.readBreak
      let (empty, _, stop, c) ← readEmptyLines start (some indent) (c.rest.length + 1) [] 0 c.mark c
      readLines literal start indent fuel { b with lastBreak, empty } stop c
    else .ok (b, stop, c)

/-- The text of a block with the breaks at its end that it keeps. -/
def BlockText.chomp (chomping : Chomping) (b : BlockText) : List Char :=
  match chomping with
  | .strip => b.text
  | .clip => b.text ++ b.lastBreak
  | .keep => b.text ++ b.lastBreak ++ b.empty

/-- Reads a block inside a collection whose items stand at the column before `least`. -/
def readBlock (literal : Bool) (least : Nat) (c : Cursor) : Except Fault ReadScalar := do
  let start := c.mark
  let (chomping, increment, c) ← readBlockHeader start (c.skip 1)
  let c := (c.skipWhile isBlank).skipComment
  if !isLineEnd c.peek then
    c.faultIn "while scanning a block scalar" start "did not find expected comment or line break"
  else
    let c := c.skipBreak
    let indent := increment.map (least - 1 + ·)
    let (empty, widest, stop, c) ← readEmptyLines start indent (c.rest.length + 1) [] 0 c.mark c
    let indent := indent.getD (max 1 (max widest least))
    let (b, stop, c) ← readLines literal start indent (c.rest.length + 1) ⟨[], [], empty, false⟩ stop c
    .ok ⟨b.chomp chomping, stop, c, false⟩

end ChatClient.Yaml
