import ChatClient.Yaml.Cursor
import ChatClient.Text.Number
import ChatClient.Text.Utf8

/-!
Names in YAML text: anchors and aliases, tags with their handles, and the directives about them. The
characters of a tag may be written as bytes with percent signs.
-/
namespace ChatClient.Yaml

open Text (hexDigit?)

/-- A tag as written: a handle, which may be empty, and what follows it. -/
structure TagText where
  handle : String
  suffix : String

/-- A directive at the start of a document. -/
inductive Directive
  | version (major minor : Nat)
  | handle (handle : String) (meaning : String)

/-- Reads the name of an anchor or alias after its sign. -/
def readName (context : String) (c : Cursor) : Except Fault (String × Cursor) :=
  let (name, next) := (c.skip 1).span isWordChar
  let ends := isGap next.peek || next.peek.any ['?', ':', ',', ']', '\x7d', '%', '@', '\x60'].contains
  if name.isEmpty || !ends then
    next.faultIn context c.mark "did not find expected alphabetic or numeric character"
  else .ok (String.ofList name, next)

/-- Reads one byte written with a percent sign. -/
def readByte (context : String) (start : Mark) (c : Cursor) : Except Fault (UInt8 × Cursor) :=
  let digits := if c.starts '%' then ((c.ahead 1).bind hexDigit?, (c.ahead 2).bind hexDigit?) else (none, none)
  match digits with
  | (some high, some low) => .ok (UInt8.ofNat (high * 16 + low), c.skip 3)
  | _ => c.faultIn context start "did not find URI escaped octet"

/-- How many bytes the character has that begins with a byte. -/
def byteCount? (b : UInt8) : Option Nat :=
  if b < 0x80 then some 1
  else if 0xC0 ≤ b ∧ b < 0xE0 then some 2
  else if 0xE0 ≤ b ∧ b < 0xF0 then some 3
  else if 0xF0 ≤ b ∧ b < 0xF8 then some 4
  else none

/-- Reads the bytes after the first one of a character. -/
def readTrail (context : String) (start : Mark) : (count : Nat) → Cursor → Except Fault (List UInt8 × Cursor)
  | 0, c => .ok ([], c)
  | count + 1, c => do
    let (b, next) ← readByte context start c
    if 0x80 ≤ b ∧ b < 0xC0 then
      let (bs, next) ← readTrail context start count next
      .ok (b :: bs, next)
    else c.faultIn context start "found an incorrect trailing UTF-8 octet"

/-- Reads a character written as bytes. -/
def readEscaped (context : String) (start : Mark) (c : Cursor) : Except Fault (List Char × Cursor) := do
  let (b, next) ← readByte context start c
  match byteCount? b with
  | none => c.faultIn context start "found an incorrect leading UTF-8 octet"
  | some count =>
    let (bs, next) ← readTrail context start (count - 1) next
    .ok ((Text.decodeUtf8Lossy (b :: bs)).toList, next)

/-- The characters of a tag besides letters and digits; in brackets also those of flow collections. -/
def isTagSign (bracketed : Bool) (c : Char) : Bool :=
  [';', '/', '?', ':', '@', '&', '=', '+', '$', '.', '%', '!', '~', '*', '\x27', '(', ')'].contains c ||
    (bracketed && [',', '[', ']'].contains c)

/-- Reads the characters of a tag. The fuel bounds their number. -/
def readTagChars (context : String) (bracketed : Bool) (start : Mark) :
    (fuel : Nat) → List Char → Cursor → Except Fault (List Char × Cursor)
  | 0, text, c => .ok (text, c)
  | fuel + 1, text, c =>
    match c.peek with
    | some ch =>
      if ch = '%' then do
        let (cs, c) ← readEscaped context start c
        readTagChars context bracketed start fuel (text ++ cs) c
      else if isWordChar ch || isTagSign bracketed ch then
        readTagChars context bracketed start fuel (text ++ [ch]) (c.skip 1)
      else .ok (text, c)
    | none => .ok (text, c)

/-- Reads the rest of a tag of which `head` has been read. Not all of it may be empty. What follows a null
character does not count. -/
def readTagRest (context : String) (bracketed : Bool) (head : List Char) (start : Mark) (c : Cursor) :
    Except Fault (String × Cursor) := do
  let (text, c) ← readTagChars context bracketed start (c.rest.length + 1) [] c
  if head.isEmpty && text.isEmpty then c.faultIn context start "did not find expected tag URI"
  else .ok (String.ofList ((head.drop 1 ++ text).takeWhile (· ≠ '\x00')), c)

/-- Reads a handle: an exclamation mark, or a word between two of them. A word without the second one
is the beginning of a tag. -/
def readHandle (isDirective : Bool) (start : Mark) (c : Cursor) : Except Fault (List Char × Cursor) :=
  let context := if isDirective then "while scanning a tag directive" else "while scanning a tag"
  if !c.starts '!' then c.faultIn context start "did not find expected '!'"
  else
    let (word, next) := (c.skip 1).span isWordChar
    if next.starts '!' then .ok ('!' :: word ++ ['!'], next.skip 1)
    else if isDirective && !word.isEmpty then
      next.faultIn "while parsing a tag directive" start "did not find expected '!'"
    else .ok ('!' :: word, next)

/-- Reads a tag. -/
def readTag (inFlow : Bool) (c : Cursor) : Except Fault (TagText × Cursor) := do
  let start := c.mark
  let context := "while parsing a tag"
  let (tag, next) : TagText × Cursor ←
    if c.ahead 1 = some '<' then do
      let (suffix, next) ← readTagRest context true [] start (c.skip 2)
      if next.starts '>' then .ok (⟨"", suffix⟩, next.skip 1)
      else next.faultIn "while scanning a tag" start "did not find the expected '>'"
    else do
      let (handle, next) ← readHandle false start c
      if 2 ≤ handle.length && handle.getLast? = some '!' then
        let (suffix, next) ← readTagRest context false [] start next
        .ok (⟨String.ofList handle, suffix⟩, next)
      else
        let (suffix, next) ← readTagRest context false handle start next
        .ok (if suffix = "" then ⟨"", "!"⟩ else ⟨"!", suffix⟩, next)
  if isGap next.peek || (inFlow && next.starts ',') then .ok (tag, next)
  else next.faultIn "while scanning a tag" start "did not find expected whitespace or line break"

/-- Reads one number of a version. -/
def readVersionNumber (start : Mark) (c : Cursor) : Except Fault (Nat × Cursor) :=
  let context := "while scanning a %YAML directive"
  let (digits, next) := c.span (Text.digit? · |>.isSome)
  if 9 < digits.length then (c.skip 9).faultIn context start "found extremely long version number"
  else match Text.digits? 10 digits with
    | some n => .ok (n, next)
    | none => next.faultIn context start "did not find expected version number"

def readVersion (start : Mark) (c : Cursor) : Except Fault (Directive × Cursor) := do
  let (major, c) ← readVersionNumber start (c.skipWhile isBlank)
  if c.starts '.' then
    let (minor, c) ← readVersionNumber start (c.skip 1)
    .ok (.version major minor, c)
  else
    c.faultIn "while scanning a %YAML directive" start "did not find expected digit or '.' character"

def readHandleMeaning (start : Mark) (c : Cursor) : Except Fault (Directive × Cursor) := do
  let context := "while scanning a %TAG directive"
  let (handle, c) ← readHandle true start (c.skipWhile isBlank)
  if !c.atBlank then c.faultIn context start "did not find expected whitespace"
  else
    let (meaning, c) ← readTagRest "while parsing a %TAG directive" true [] start (c.skipWhile isBlank)
    if isGap c.peek then .ok (.handle (String.ofList handle) meaning, c)
    else c.faultIn context start "did not find expected whitespace or line break"

/-- Reads a directive and the rest of its line. -/
def readDirective (c : Cursor) : Except Fault (Directive × Cursor) := do
  let start := c.mark
  let context := "while scanning a directive"
  let (name, next) := (c.skip 1).span isWordChar
  if name.isEmpty then next.faultIn context start "could not find expected directive name"
  else if !isGap next.peek then
    next.faultIn context start "found unexpected non-alphabetical character"
  else
    let (directive, next) ←
      match String.ofList name with
      | "YAML" => readVersion start next
      | "TAG" => readHandleMeaning start next
      | _ => next.faultIn context start "found unknown directive name"
    let next := (next.skipWhile isBlank).skipComment
    if isLineEnd next.peek then .ok (directive, next.skipBreak)
    else next.faultIn context start "did not find expected comment or line break"

end ChatClient.Yaml
