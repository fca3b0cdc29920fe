import ChatClient.Environment.Basic
import ChatClient.Files.Tree
import ChatClient.Text.Blank
import ChatClient.Text.Letter

/-!
The file `.env` with variables for the environment, one assignment after the other. A value may stand
in quotes, and then go over several lines; a dollar sign stands for the value of the variable whose
name follows. Variables that the environment has already keep their values. The first assignment that
is not well formed ends the file; those before it count. One that cannot be made ends the program.
-/
namespace ChatClient.Environment

/-! ### Lines -/

/-- Where a character of a line stands, as far as the end of the assignment is concerned. -/
inductive Spot
  | plain
  | escaped
  /-- Behind a blank, where a comment may start. -/
  | spaced
  | quoted (quote : Char)
  | quotedEscaped (quote : Char)
deriving DecidableEq

/-- The spot behind a character that may open something. -/
def Spot.behind (c : Char) : Spot :=
  if c = '\\' then .escaped
  else if c = '"' ∨ c = '\x27' then .quoted c
  else .plain

/-- The spot behind a character. A second blank hides the first one from a comment. -/
def Spot.next : Spot → Char → Spot
  | .plain, c => if Text.isBlankChar c ∧ c ≠ '\n' ∧ c ≠ '\r' then .spaced else .behind c
  | .spaced, c => .behind c
  | .escaped, _ => .plain
  | .quoted quote, c =>
    if c = '\\' then .quotedEscaped quote else if c = quote then .plain else .quoted quote
  | .quotedEscaped quote, _ => .quoted quote

/-- The line up to a comment, and the spot at its end; none where a comment ends it. -/
def cutComment : Spot → List Char → List Char × Option Spot
  | spot, [] => ([], some spot)
  | spot, c :: cs =>
    if spot = .spaced ∧ c = '#' then ([], none)
    else
      let (kept, last) := cutComment (spot.next c) cs
      (c :: kept, last)

def isComment (cs : List Char) : Bool :=
  (cs.dropWhile Text.isBlankChar).head? = some '#'

/-- Puts together the lines of each assignment, where `held` are those of one that goes on. Among the
lines none is one that is no text; in the result it stands for an end within an assignment, too. -/
def gather (held : List Char) (spot : Spot) : List (Option (List Char)) → List (Option (List Char))
  | [] => if spot = .plain then [] else [none]
  | none :: _ => [none]
  | some line :: lines =>
    if isComment (held ++ line) then gather [] .plain lines
    else match cutComment spot line with
      | (kept, none) => some (held ++ kept) :: gather [] .plain lines
      | (_, some .plain) => some (held ++ line) :: gather [] .plain lines
      | (_, some spot) => gather (held ++ line) spot lines

/-- The lines of a file, each with the line feed at its end. -/
def fileLines : List (List UInt8) → List (List UInt8)
  | [] => []
  | [last] => if last.isEmpty then [] else [last]
  | part :: parts => (part ++ [10]) :: fileLines parts

/-- The bytes without the mark that may stand in front of a text. -/
def dropMark (bytes : List UInt8) : List UInt8 :=
  match bytes with
  | 0xEF :: 0xBB :: 0xBF :: rest => rest
  | bytes => bytes

/-- The texts of the assignments in a file. -/
def assignments (bytes : List UInt8) : List (Option (List Char)) :=
  gather [] .plain
    ((fileLines (Text.cutAll 10 (dropMark bytes))).map fun line =>
      (Text.decodeUtf8? line).map String.toList)

/-! ### Values -/

/-- What the next character of a value belongs to. Double quotes may be open around it. -/
inductive Within
  | text (inQuotes : Bool)
  | singleQuotes
  | escape (inQuotes : Bool)
  | name (inQuotes : Bool) (soFar : List Char)
  | braces (inQuotes : Bool) (soFar : List Char)
  /-- Behind a blank, where only a comment may follow. -/
  | gap

/-- The value of a variable, which is empty if there is none. -/
def valueOf (env : Environment) (name : List Char) : List Char :=
  ((env (String.ofList name)).getD "").toList

/-- What a value ends with; none where it must not end. -/
def Within.atEnd? (env : Environment) : Within → Option (List Char)
  | .text inQuotes | .escape inQuotes => if inQuotes then none else some []
  | .name inQuotes key => if inQuotes then none else some (valueOf env key)
  | .singleQuotes | .braces .. => none
  | .gap => some []

/-- The characters that a backslash may stand before to mean themselves. -/
def escapable : List Char := ['\\', '\x27', '"', '$', ' ']

/-- Reads a value. What stands directly behind the name of a variable is taken as it is. -/
def readValue? (env : Environment) : Within → List Char → Option (List Char)
  | within, [] => within.atEnd? env
  | .gap, c :: cs =>
    if c = ' ' ∨ c = '\t' then readValue? env .gap cs
    else if c = '#' then some []
    else none
  | .escape inQuotes, c :: cs =>
    if escapable.contains c then (readValue? env (.text inQuotes) cs).map (c :: ·)
    else if c = 'n' then (readValue? env (.text inQuotes) cs).map ('\n' :: ·)
    else none
  | .singleQuotes, c :: cs =>
    if c = '\x27' then readValue? env (.text false) cs
    else (readValue? env .singleQuotes cs).map (c :: ·)
  | .name inQuotes name, c :: cs =>
    if Text.isLetterOrNumber c then readValue? env (.name inQuotes (name ++ [c])) cs
    else if c = '\x7b' ∧ name = [] then readValue? env (.braces inQuotes []) cs
    else if c = '$' then (readValue? env (.name inQuotes []) cs).map (valueOf env name ++ ·)
    else (readValue? env (.text inQuotes) cs).map (valueOf env name ++ c :: ·)
  | .braces inQuotes name, c :: cs =>
    if c = '\x7d' then (readValue? env (.text inQuotes) cs).map (valueOf env name ++ ·)
    else readValue? env (.braces inQuotes (name ++ [c])) cs
  | .text inQuotes, c :: cs =>
    if c = '$' then readValue? env (.name inQuotes []) cs
    else if c = '\\' then readValue? env (.escape inQuotes) cs
    else if c = '"' then readValue? env (.text (!inQuotes)) cs
    else if inQuotes then (readValue? env (.text true) cs).map (c :: ·)
    else if c = '\x27' then readValue? env .singleQuotes cs
    else if c = ' ' ∨ c = '\t' then readValue? env .gap cs
    else (readValue? env (.text false) cs).map (c :: ·)

/-! ### Assignments -/

def startsName (c : Char) : Bool := c.isAlpha || c = '_'

def continuesName (c : Char) : Bool := c.isAlphanum || c = '_' || c = '.'

/-- A name, and what follows it behind blanks. -/
def cutName? (cs : List Char) : Option (List Char × List Char) :=
  if (cs.head?.map startsName).getD false then
    let (name, rest) := cs.span continuesName
    some (name, rest.dropWhile Text.isBlankChar)
  else none

/-- A name and what follows the equals sign. The word `export` may stand before the name. -/
def cutHeading? (cs : List Char) : Option (List Char × List Char) := do
  match ← cutName? cs with
  | (name, '=' :: rest) => some (name, rest)
  | (['e', 'x', 'p', 'o', 'r', 't'], rest) =>
    match ← cutName? rest with
    | (name, '=' :: rest) => some (name, rest)
    | _ => none
  | _ => none

/-- What a line says. -/
inductive Statement
  | nothing
  | assignment (name value : String)
  | malformed

/-- Blank text and comments say nothing. -/
def saysNothing (cs : List Char) : Bool := cs.isEmpty || cs.head? = some '#'

def readStatement (env : Environment) (line : List Char) : Statement :=
  let line := Text.trimChars line
  if saysNothing line then .nothing
  else match cutHeading? line with
    | none => .malformed
    | some (name, rest) =>
      let rest := rest.dropWhile Text.isBlankChar
      match if saysNothing rest then some [] else readValue? env (.text false) rest with
      | some value => .assignment (String.ofList name) (String.ofList value)
      | none => .malformed

/-- The environment after the assignments up to the first one that is not well formed, if each of them
can be made. -/
def assignAll? (env : Environment) : List (Option (List Char)) → Option Environment
  | some line :: lines =>
    match readStatement env line with
    | .nothing => assignAll? env lines
    | .assignment name value => (env.provide? name value).bind fun env => assignAll? env lines
    | .malformed => some env
  | _ => some env

/-! ### The file -/

def fileName : String := ".env"

/-- The content of the file in the nearest directory that has one, from a place upwards. The place is
given by its names, the last one first. -/
def nearestFile? (tree : Files.Tree) : List String → Option (List UInt8)
  | [] => contentAt []
  | name :: above => contentAt (name :: above) <|> nearestFile? tree above
where
  contentAt (place : List String) : Option (List UInt8) :=
    match tree.node? (place.reverse ++ [fileName]) with
    | some (.file data _) => some data
    | _ => none

/-- The environment with the variables of the file that is nearest to the working directory. -/
def withFile? (tree : Files.Tree) (env : Environment) : Option Environment :=
  match nearestFile? tree tree.workPlace.reverse with
  | some data => assignAll? env (assignments data)
  | none => some env

end ChatClient.Environment
