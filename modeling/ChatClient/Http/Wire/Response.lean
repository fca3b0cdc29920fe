import ChatClient.Http.Wire.Header
import ChatClient.Text.Utf8

/-!
Responses as they come over the wire: a line with the status, headers, an empty line, and the body, as
long as the headers say or until the connection ends. A body may come in chunks, each after its size. What
is no response at all and what breaks off in its body are told apart.
-/
namespace ChatClient.Http

/-- The status and the headers of a response, the names in small letters. -/
structure Head where
  status : Nat
  headers : List (String × List UInt8)

/-- Each byte as a character of its own. -/
def byteChars (bytes : List UInt8) : List Char := bytes.map fun b => Char.ofNat b.toNat

/-- The first line without its end, and what follows it. -/
def cutLine? (bytes : List UInt8) : Option (List UInt8 × List UInt8) :=
  match bytes.span (· ≠ 10) with
  | (line, _ :: rest) => some (if line.getLast? = some 13 then line.dropLast else line, rest)
  | (_, []) => none

/-! ### Heads -/

/-- The status of a first line. The words behind it do not matter. -/
def readStatus? (line : List UInt8) : Option Nat :=
  match byteChars line with
  | 'H' :: 'T' :: 'T' :: 'P' :: '/' :: '1' :: '.' :: version :: ' ' :: a :: b :: c :: words =>
    let words? := words.isEmpty || (words.head? = some ' ' && words.all isValueChar)
    if (version = '0' || version = '1') && words? then
      (Text.digits? 10 [a, b, c]).filter (100 ≤ ·)
    else none
  | _ => none

/-- A header: a name, a colon, and a value with blanks around it. -/
def readHeader? (line : List UInt8) : Option (String × List UInt8) :=
  let isGap (b : UInt8) : Bool := b = 32 || b = 9
  match line.span (· ≠ 58) with
  | (name, _ :: value) =>
    let name := byteChars name
    if name.isEmpty || !name.all isNameChar || !(byteChars value).all isValueChar then none
    else
      let value := ((value.dropWhile isGap).reverse.dropWhile isGap).reverse
      some (String.ofList (name.map Char.toLower), value)
  | (_, []) => none

/-- The headers up to an empty line, and what follows it. There is only so much room. -/
def readHeaders? (room : Nat) (bytes : List UInt8) :
    Option (List (String × List UInt8) × List UInt8) := do
  let (line, rest) ← cutLine? bytes
  if line.isEmpty then some ([], rest)
  else match room with
    | 0 => none
    | room + 1 =>
      let header ← readHeader? line
      let (headers, rest) ← readHeaders? room rest
      some (header :: headers, rest)

/-- The most headers that a response may have. -/
def headerRoom : Nat := 100

/-- What follows the empty lines at the front. -/
def skipEmptyLines : List UInt8 → List UInt8
  | 13 :: 10 :: rest => skipEmptyLines rest
  | 10 :: rest => skipEmptyLines rest
  | bytes => bytes

def readHead? (bytes : List UInt8) : Option (Head × List UInt8) := do
  let (line, rest) ← cutLine? (skipEmptyLines bytes)
  let status ← readStatus? line
  let (headers, rest) ← readHeaders? headerRoom rest
  some (⟨status, headers⟩, rest)

/-- Statuses below 200 only announce the response, but for the one that ends the talk. -/
def Head.isFinal (h : Head) : Bool := h.status = 101 || 200 ≤ h.status

/-- The head of the response itself. The fuel bounds the number of announcements. -/
def readFinalHead? : (fuel : Nat) → List UInt8 → Option (Head × List UInt8)
  | 0, _ => none
  | fuel + 1, bytes => do
    let (head, rest) ← readHead? bytes
    if head.isFinal then some (head, rest) else readFinalHead? fuel rest

/-! ### Bodies -/

/-- The size in front of a chunk: hexadecimal digits, blanks, and perhaps more behind a semicolon. -/
def chunkSize? (line : List Char) : Option Nat :=
  let (digits, rest) := line.span fun c => (Text.hexDigit? c).isSome
  let rest := rest.dropWhile fun c => c = ' ' || c = '\t'
  if rest.isEmpty || rest.head? = some ';' then
    (Text.digits? 16 digits).filter (· < Text.limit64)
  else none

/-- The first line of chunks, which ends with both characters of a line end. -/
def cutChunkLine? (bytes : List UInt8) : Option (List UInt8 × List UInt8) :=
  match bytes.span (· ≠ 13) with
  | (line, 13 :: 10 :: rest) => if line.contains 10 then none else some (line, rest)
  | _ => none

/-- Whether the headers after the last chunk are well formed and come to an end. There is only so much
room. -/
def endsWell (room : Nat) (bytes : List UInt8) : Bool :=
  match cutChunkLine? bytes, room with
  | some ([], _), _ => true
  | some (line, rest), room + 1 => (readHeader? line).isSome && endsWell room rest
  | _, _ => false

/-- The chunks put together, up to one of size zero and the headers after it. The fuel bounds the number of
chunks. -/
def readChunks? : (fuel : Nat) → List UInt8 → Option (List UInt8)
  | 0, _ => none
  | fuel + 1, bytes => do
    let (line, rest) ← cutChunkLine? bytes
    let size ← chunkSize? (byteChars line)
    if size = 0 then if endsWell headerRoom rest then some [] else none
    else match rest.drop size with
      | 13 :: 10 :: more => (readChunks? fuel more).map (rest.take size ++ ·)
      | _ => none

/-- Statuses that say that there is no body, whatever follows. -/
def Head.isBodiless (h : Head) : Bool := h.status = 101 || h.status = 204 || h.status = 304

/-- The least length that no body can have. The two largest numbers of 64 bits stand for other things. -/
def lengthLimit : Nat := Text.limit64 - 2

/-- What came of a body. -/
inductive Content
  | whole (bytes : List UInt8)
  | broken

/-- The body among the bytes that follow a head, if the head makes sense about it. -/
def Head.content? (h : Head) (bytes : List UInt8) : Option Content :=
  let text := (valuesOf · h.headers |>.map byteChars)
  if h.isBodiless then some (.whole [])
  else match (text encodingName).getLast? with
    | some form =>
      if endsChunked form then
        match readChunks? bytes.length bytes with
        | some body => some (.whole body)
        | none => some .broken
      else some (.whole bytes)
    | none =>
      if (text lengthName).isEmpty then some (.whole bytes)
      else ((bodyLength? (text lengthName)).filter (· < lengthLimit)).map fun n =>
        if n ≤ bytes.length then .whole (bytes.take n) else .broken

/-- The response that some bytes are, if they are one. -/
def readResponse? (bytes : List UInt8) : Option (Head × Content) := do
  let (head, rest) ← readFinalHead? (bytes.length + 1) bytes
  some (head, ← head.content? rest)

end ChatClient.Http
