/-!
A place in YAML text, and what is wrong with a text at a place. Line breaks are the five of YAML 1.1;
a carriage return with a line feed is one. Blanks are the space and the tab.
-/
namespace ChatClient.Yaml

/-- How many characters come before a place, and its line and column, all counted from zero. -/
structure Mark where
  index : Nat
  line : Nat
  column : Nat
deriving DecidableEq

def Mark.start : Mark := ⟨0, 0, 0⟩

/-- The very first place of a text is not worth telling. -/
def Mark.isTold (m : Mark) : Bool := m.line ≠ 0 || m.column ≠ 0

def Mark.text (m : Mark) : String :=
  "line " ++ toString (m.line + 1) ++ " column " ++ toString (m.column + 1)

/-- A phrase with the place it speaks of. -/
def Mark.after (phrase : String) (m : Mark) : String :=
  if m.isTold then phrase ++ " at " ++ m.text else phrase

/-- What is wrong, and what was being read at the time. -/
structure Fault where
  problem : String
  mark : Mark
  context : Option (String × Mark)

def Fault.message (f : Fault) : String :=
  let context := match f.context with
    | none => ""
    | some (phrase, m) =>
      let elsewhere := m.line ≠ f.mark.line || m.column ≠ f.mark.column
      ", " ++ if elsewhere then m.after phrase else phrase
  f.mark.after f.problem ++ context

/-- The text from a place on. -/
structure Cursor where
  rest : List Char
  mark : Mark

def isBlank (c : Char) : Bool := c = ' ' || c = '\t'

def isBreak (c : Char) : Bool :=
  c = '\r' || c = '\n' || c = '\u0085' || c = '\u2028' || c = '\u2029'

/-- The letters of anchors and handles. -/
def isWordChar (c : Char) : Bool := c.isAlphanum || c = '-' || c = '_'

/-- What may stand in an indicator's way: nothing, a blank or a break. -/
def isGap : Option Char → Bool
  | some c => isBlank c || isBreak c
  | none => true

/-- The end of the line, or of the text. -/
def isLineEnd : Option Char → Bool
  | some c => isBreak c
  | none => true

namespace Cursor

def ofString (s : String) : Cursor := ⟨s.toList, .start⟩

def peek (c : Cursor) : Option Char := c.rest.head?

/-- The character some places further. -/
def ahead (n : Nat) (c : Cursor) : Option Char := c.rest[n]?

def atEnd (c : Cursor) : Bool := c.rest.isEmpty

def starts (ch : Char) (c : Cursor) : Bool := c.peek = some ch

def atBlank (c : Cursor) : Bool := c.peek.any isBlank

def atBreak (c : Cursor) : Bool := c.peek.any isBreak

/-- Passes characters of one line. -/
def skip (n : Nat) (c : Cursor) : Cursor :=
  ⟨c.rest.drop n, { c.mark with index := c.mark.index + n, column := c.mark.column + n }⟩

/-- The characters at the front on which `p` holds, none of them a break, and the place after them. -/
def span (p : Char → Bool) (c : Cursor) : List Char × Cursor :=
  let front := c.rest.takeWhile p
  (front, c.skip front.length)

def skipWhile (p : Char → Bool) (c : Cursor) : Cursor := (c.span p).2

/-- The break at the front, and the place after it. Those of ASCII and NEL count as a line feed. -/
def readBreak (c : Cursor) : List Char × Cursor :=
  let next (n : Nat) : Mark := ⟨c.mark.index + n, c.mark.line + 1, 0⟩
  match c.rest with
  | '\r' :: '\n' :: rest => (['\n'], ⟨rest, next 2⟩)
  | ch :: rest =>
    if ch = '\u2028' ∨ ch = '\u2029' then ([ch], ⟨rest, next 1⟩)
    else if isBreak ch then (['\n'], ⟨rest, next 1⟩)
    else ([], c)
  | [] => ([], c)

def skipBreak (c : Cursor) : Cursor := c.readBreak.2

/-- Three equal signs at the start of a line, with a gap after them. -/
def atMarker (sign : Char) (c : Cursor) : Bool :=
  c.mark.column = 0 && c.rest.take 3 == [sign, sign, sign] && isGap (c.ahead 3)

def atDocumentMarker (c : Cursor) : Bool := c.atMarker '-' || c.atMarker '.'

/-- A fault at this place. -/
def fault (problem : String) (c : Cursor) : Except Fault α := .error ⟨problem, c.mark, none⟩

/-- A fault at this place while something was being read that began at another. -/
def faultIn (context : String) (start : Mark) (problem : String) (c : Cursor) : Except Fault α :=
  .error ⟨problem, c.mark, some (context, start)⟩

/-- Passes the blanks and the comment at the end of a line. -/
def skipComment (c : Cursor) : Cursor :=
  if c.starts '#' then c.skipWhile (!isBreak ·) else c

end Cursor

end ChatClient.Yaml
