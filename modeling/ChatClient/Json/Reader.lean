import ChatClient.Json.Number

/-!
Reading JSON from pieces of text. Three readers share the grammar: `readValue` builds a value and
limits how deep containers nest, `skipValue` passes over a value of any depth and does not look into
its strings beyond their escapes, and `readRecord` reads an object with known members, or an array of
their values in order. A reader returns what it read and the rest of the input.
-/
namespace ChatClient.Json

open Text (Piece hexDigit?)

/-- The four characters between tokens. -/
def isSpace : Piece → Bool
  | .char c => c = ' ' || c = '\n' || c = '\t' || c = '\r'
  | .stray _ => false

def skipSpace (input : List Piece) : List Piece :=
  input.dropWhile isSpace

/-- An element of a string: a character, the unit of a `\u` escape, or bytes that are no text. -/
inductive Element
  | plain (c : Char)
  | unit (code : Nat)
  | stray

/-- The character that a one-letter escape stands for. -/
def unescape? : Char → Option Char
  | '"' => some '"'
  | '\\' => some '\\'
  | '/' => some '/'
  | 'b' => some '\x08'
  | 'f' => some '\x0C'
  | 'n' => some '\n'
  | 'r' => some '\r'
  | 't' => some '\t'
  | _ => none

/-- The number of four hexadecimal digits. -/
def unitOf? (a b c d : Char) : Option Nat := do
  some ((((← hexDigit? a) * 16 + (← hexDigit? b)) * 16 + (← hexDigit? c)) * 16 + (← hexDigit? d))

/-- The elements up to the closing quote. Control characters have to be escaped. -/
def scanString : List Piece → Option (List Element × List Piece)
  | [] => none
  | .stray _ :: rest => (scanString rest).map fun (es, rest) => (.stray :: es, rest)
  | .char '"' :: rest => some ([], rest)
  | .char '\\' :: .char 'u' :: .char a :: .char b :: .char c :: .char d :: rest =>
    match unitOf? a b c d with
    | some code => (scanString rest).map fun (es, rest) => (.unit code :: es, rest)
    | none => none
  | .char '\\' :: .char e :: rest =>
    match unescape? e with
    | some c => (scanString rest).map fun (es, rest) => (.plain c :: es, rest)
    | none => none
  | .char c :: rest =>
    if c.toNat < 0x20 ∨ c = '\\' then none
    else (scanString rest).map fun (es, rest) => (.plain c :: es, rest)

def isHighUnit (n : Nat) : Bool := 0xD800 ≤ n && n < 0xDC00

def isLowUnit (n : Nat) : Bool := 0xDC00 ≤ n && n < 0xE000

/-- The text of the elements. A high unit and the low unit right after it are one character; alone
they are none. -/
def textOf? : List Element → Option (List Char)
  | [] => some []
  | .stray :: _ => none
  | .plain c :: es => (textOf? es).map (c :: ·)
  | .unit high :: .unit low :: es =>
    if isHighUnit high then
      if isLowUnit low then
        (textOf? es).map (Char.ofNat (0x10000 + (high - 0xD800) * 0x400 + (low - 0xDC00)) :: ·)
      else none
    else if isLowUnit high then none
    else (textOf? (.unit low :: es)).map (Char.ofNat high :: ·)
  | .unit code :: es =>
    if isHighUnit code || isLowUnit code then none else (textOf? es).map (Char.ofNat code :: ·)

/-- A string after its opening quote. -/
def readText (input : List Piece) : Option (String × List Piece) := do
  let (elements, rest) ← scanString input
  some (String.ofList (← textOf? elements), rest)

/-- A string, with space before it. -/
def readString (input : List Piece) : Option (String × List Piece) :=
  match skipSpace input with
  | .char '"' :: rest => readText rest
  | _ => none

/-- The rest after a word that has to come next. -/
def expect (word : List Char) (input : List Piece) : Option (List Piece) :=
  if (word.map Piece.char).isPrefixOf input then some (input.drop word.length) else none

/-- What stands between two items of a container: a comma, or the bracket that closes it. -/
def readSeparator (close : Char) (input : List Piece) : Option (Bool × List Piece) :=
  match skipSpace input with
  | .char c :: rest =>
    if c = ',' then some (true, rest) else if c = close then some (false, rest) else none
  | _ => none

/-- The colon after a key. -/
def readColon (input : List Piece) : Option (List Piece) :=
  match skipSpace input with
  | .char ':' :: rest => some rest
  | _ => none

/-- The rest after an opening bracket, if the container is empty. -/
def closesAtOnce (close : Char) (input : List Piece) : Option (List Piece) :=
  match skipSpace input with
  | .char c :: rest => if c = close then some rest else none
  | _ => none

mutual

/-- A value in which containers nest less than `depth` deep. The fuel bounds the number of items; the
length of the input is always enough. -/
def readValueWith : (fuel depth : Nat) → List Piece → Option (Value × List Piece)
  | 0, _, _ => none
  | fuel + 1, depth, input =>
    match skipSpace input with
    | .char '"' :: rest => (readText rest).map fun (s, rest) => (.string s, rest)
    | .char '[' :: rest =>
      if depth ≤ 1 then none
      else match closesAtOnce ']' rest with
        | some rest => some (.array [], rest)
        | none => (readItems fuel (depth - 1) rest).map fun (items, rest) => (.array items, rest)
    | .char '{' :: rest =>
      if depth ≤ 1 then none
      else match closesAtOnce '}' rest with
        | some rest => some (.object [], rest)
        | none => (readMembers fuel (depth - 1) rest).map fun (ms, rest) => (.ofMembers ms, rest)
    | .char 'n' :: rest => (expect ['u', 'l', 'l'] rest).map fun rest => (.null, rest)
    | .char 't' :: rest => (expect ['r', 'u', 'e'] rest).map fun rest => (.bool true, rest)
    | .char 'f' :: rest => (expect ['a', 'l', 's', 'e'] rest).map fun rest => (.bool false, rest)
    | input => do
      let (text, rest) ← scanNumber input
      some (.number (← text.value?), rest)

/-- The items of an array up to its bracket. -/
def readItems : (fuel depth : Nat) → List Piece → Option (List Value × List Piece)
  | 0, _, _ => none
  | fuel + 1, depth, input => do
    let (value, rest) ← readValueWith fuel depth input
    let (more, rest) ← readSeparator ']' rest
    if more then
      let (values, rest) ← readItems fuel depth rest
      some (value :: values, rest)
    else some ([value], rest)

/-- The members of an object up to its bracket. -/
def readMembers : (fuel depth : Nat) → List Piece → Option (List (String × Value) × List Piece)
  | 0, _, _ => none
  | fuel + 1, depth, input => do
    let (key, rest) ← readString input
    let (value, rest) ← readValueWith fuel depth (← readColon rest)
    let (more, rest) ← readSeparator '}' rest
    if more then
      let (members, rest) ← readMembers fuel depth rest
      some ((key, value) :: members, rest)
    else some ([(key, value)], rest)

end

mutual

/-- Passes over a value. -/
def skipValueWith : (fuel : Nat) → List Piece → Option (List Piece)
  | 0, _ => none
  | fuel + 1, input =>
    match skipSpace input with
    | .char '"' :: rest => (scanString rest).map (·.2)
    | .char '[' :: rest =>
      match closesAtOnce ']' rest with
      | some rest => some rest
      | none => skipItems fuel rest
    | .char '{' :: rest =>
      match closesAtOnce '}' rest with
      | some rest => some rest
      | none => skipMembers fuel rest
    | .char 'n' :: rest => expect ['u', 'l', 'l'] rest
    | .char 't' :: rest => expect ['r', 'u', 'e'] rest
    | .char 'f' :: rest => expect ['a', 'l', 's', 'e'] rest
    | input => (scanNumber input).map (·.2)

/-- Passes over the items of an array and its bracket. -/
def skipItems : (fuel : Nat) → List Piece → Option (List Piece)
  | 0, _ => none
  | fuel + 1, input => do
    let (more, rest) ← readSeparator ']' (← skipValueWith fuel input)
    if more then skipItems fuel rest else some rest

/-- Passes over the members of an object and its bracket. -/
def skipMembers : (fuel : Nat) → List Piece → Option (List Piece)
  | 0, _ => none
  | fuel + 1, input => do
    let rest ← match skipSpace input with
      | .char '"' :: rest => (scanString rest).map (·.2)
      | _ => none
    let (more, rest) ← readSeparator '}' (← skipValueWith fuel (← readColon rest))
    if more then skipMembers fuel rest else some rest

end

def readValue (depth : Nat) (input : List Piece) : Option (Value × List Piece) :=
  readValueWith (input.length + 1) depth input

def skipValue (input : List Piece) : Option (List Piece) :=
  skipValueWith (input.length + 1) input

/-- How deep a whole document may nest, counting the value at its top. -/
def depthLimit : Nat := 128

/-- Reads the value that is the whole of the input, space around it left out. -/
def document? (read : List Piece → Option (α × List Piece)) (input : List Piece) : Option α := do
  let (a, rest) ← read input
  if (skipSpace rest).isEmpty then some a else none

/-- What is said of a text that is no JSON, or not of the expected form. -/
def mismatchText : String := "not the expected JSON"

/-- The value of a whole text. -/
def parse? (s : String) : Option Value :=
  document? (readValue depthLimit) (Text.piecesOfText s)

/-- A reader for a record that is being filled: how a member with a given key goes into it, and how
the value at a given position does. -/
structure RecordReader (σ : Type) where
  empty : σ
  member : σ → String → List Piece → Option (σ × List Piece)
  positions : List (σ → List Piece → Option (σ × List Piece))

/-- The members of an object, each put into the record. -/
def RecordReader.members (r : RecordReader σ) : (fuel : Nat) → σ → List Piece → Option (σ × List Piece)
  | 0, _, _ => none
  | fuel + 1, s, input => do
    let (key, rest) ← readString input
    let (s, rest) ← r.member s key (← readColon rest)
    let (more, rest) ← readSeparator '}' rest
    if more then r.members fuel s rest else some (s, rest)

/-- The values of an array, one for each position. -/
def readPositions : List (σ → List Piece → Option (σ × List Piece)) → σ → List Piece →
    Option (σ × List Piece)
  | [], _, _ => none
  | [read], s, input => do
    let (s, rest) ← read s input
    let (more, rest) ← readSeparator ']' rest
    if more then none else some (s, rest)
  | read :: reads, s, input => do
    let (s, rest) ← read s input
    let (more, rest) ← readSeparator ']' rest
    if more then readPositions reads s rest else none

/-- The record at the front of the input, as an object or as an array. -/
def RecordReader.read (r : RecordReader σ) (input : List Piece) : Option (σ × List Piece) :=
  match skipSpace input with
  | .char '{' :: rest =>
    match closesAtOnce '}' rest with
    | some rest => some (r.empty, rest)
    | none => r.members rest.length r.empty rest
  | .char '[' :: rest => readPositions r.positions r.empty rest
  | _ => none

/-- Reads an array of which each item is read by `read`. -/
def readListWith (read : List Piece → Option (α × List Piece)) :
    (fuel : Nat) → List Piece → Option (List α × List Piece)
  | 0, _ => none
  | fuel + 1, input => do
    let (item, rest) ← read input
    let (more, rest) ← readSeparator ']' rest
    if more then
      let (items, rest) ← readListWith read fuel rest
      some (item :: items, rest)
    else some ([item], rest)

/-- Reads an array of items. -/
def readList (read : List Piece → Option (α × List Piece)) (input : List Piece) :
    Option (List α × List Piece) :=
  match skipSpace input with
  | .char '[' :: rest =>
    match closesAtOnce ']' rest with
    | some rest => some ([], rest)
    | none => readListWith read rest.length rest
  | _ => none

end ChatClient.Json
