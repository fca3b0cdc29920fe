/-!
Text as bytes. Bytes that are UTF-8 as a whole read as their text. Other bytes split into pieces:
characters, and runs of stray bytes that belong to no character. A run is as long as it can be the
beginning of one, so that a cut character is one run and not two.
-/
namespace ChatClient.Text

/-- The bytes of a text. -/
def encodeUtf8 (s : String) : List UInt8 :=
  s.toUTF8.data.toList

/-- The text whose bytes these are. -/
def decodeUtf8? (bytes : List UInt8) : Option String :=
  String.fromUTF8? ⟨bytes.toArray⟩

/-- A character, or bytes that belong to none. -/
inductive Piece
  | char (c : Char)
  | stray (bytes : List UInt8)
deriving DecidableEq

/-- A character of which some bytes have been read: `seen`, last first, with the bits they give, how
many are still due, and the range of the next one. -/
structure Partial where
  seen : List UInt8
  bits : Nat
  due : Nat
  low : UInt8
  high : UInt8

/-- What a byte between two characters begins. -/
def beginPiece (b : UInt8) : Piece ⊕ Partial :=
  let lead (mask due : Nat) (low high : UInt8) : Piece ⊕ Partial :=
    .inr ⟨[b], b.toNat % mask, due, low, high⟩
  if b < 0x80 then .inl (.char (Char.ofNat b.toNat))
  else if b < 0xC2 then .inl (.stray [b])
  else if b < 0xE0 then lead 0x20 1 0x80 0xBF
  else if b = 0xE0 then lead 0x10 2 0xA0 0xBF
  else if b = 0xED then lead 0x10 2 0x80 0x9F
  else if b < 0xF0 then lead 0x10 2 0x80 0xBF
  else if b = 0xF0 then lead 0x08 3 0x90 0xBF
  else if b < 0xF4 then lead 0x08 3 0x80 0xBF
  else if b = 0xF4 then lead 0x08 3 0x80 0x8F
  else .inl (.stray [b])

/-- The pieces of the bytes that follow a partly read character, if there is one. -/
def piecesFrom : Option Partial → List UInt8 → List Piece
  | none, [] => []
  | some p, [] => [.stray p.seen.reverse]
  | none, b :: bs =>
    match beginPiece b with
    | .inl piece => piece :: piecesFrom none bs
    | .inr p => piecesFrom (some p) bs
  | some p, b :: bs =>
    if p.low ≤ b ∧ b ≤ p.high then
      let bits := p.bits * 64 + b.toNat % 64
      if p.due ≤ 1 then .char (Char.ofNat bits) :: piecesFrom none bs
      else piecesFrom (some ⟨b :: p.seen, bits, p.due - 1, 0x80, 0xBF⟩) bs
    else .stray p.seen.reverse ::
      match beginPiece b with
      | .inl piece => piece :: piecesFrom none bs
      | .inr p => piecesFrom (some p) bs

/-- A text in pieces has no stray bytes. -/
def piecesOfText (s : String) : List Piece :=
  s.toList.map .char

/-- The pieces of any bytes. -/
def pieces (bytes : List UInt8) : List Piece :=
  match decodeUtf8? bytes with
  | some s => piecesOfText s
  | none => piecesFrom none bytes

/-- A piece as a character; stray bytes are shown as one replacement character. -/
def Piece.shown : Piece → Char
  | .char c => c
  | .stray _ => '\uFFFD'

/-- The text of any bytes, with replacement characters for what is not UTF-8. -/
def decodeUtf8Lossy (bytes : List UInt8) : String :=
  String.ofList ((pieces bytes).map Piece.shown)

end ChatClient.Text
