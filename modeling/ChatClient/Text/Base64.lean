/-!
Base 64 in the alphabet for URLs and in the one for header fields. Reading is strict: no padding, no
foreign character, and the bits left over in a last short group are zero. So each text that reads is
the written form of what it reads as.
-/
namespace ChatClient.Text.Base64

/-- The character of a six-bit number in the URL alphabet. -/
def urlDigit (n : Nat) : Char :=
  if n < 26 then Char.ofNat (n + 65)
  else if n < 52 then Char.ofNat (n - 26 + 97)
  else if n < 62 then Char.ofNat (n - 52 + 48)
  else if n = 62 then '-' else '_'

/-- The alphabet of header fields differs in its last two characters. -/
def fieldDigit (n : Nat) : Char :=
  if n < 62 then urlDigit n else if n = 62 then '+' else '/'

/-- The six-bit number of a character of the URL alphabet. -/
def urlValue? (c : Char) : Option Nat :=
  if 'A' ≤ c ∧ c ≤ 'Z' then some (c.toNat - 65)
  else if 'a' ≤ c ∧ c ≤ 'z' then some (c.toNat - 97 + 26)
  else if '0' ≤ c ∧ c ≤ '9' then some (c.toNat - 48 + 52)
  else if c = '-' then some 62
  else if c = '_' then some 63
  else none

/-- The characters of the bytes, four for three bytes; the last group may be short. -/
def encodeWith (digit : Nat → Char) : List UInt8 → List Char
  | [] => []
  | [a] => [digit (a.toNat / 4), digit (a.toNat % 4 * 16)]
  | [a, b] =>
    [digit (a.toNat / 4), digit (a.toNat % 4 * 16 + b.toNat / 16), digit (b.toNat % 16 * 4)]
  | a :: b :: c :: rest =>
    digit (a.toNat / 4) :: digit (a.toNat % 4 * 16 + b.toNat / 16) ::
      digit (b.toNat % 16 * 4 + c.toNat / 64) :: digit (c.toNat % 64) :: encodeWith digit rest

/-- The written form in the URL alphabet. -/
def encodeUrl (bytes : List UInt8) : String :=
  String.ofList (encodeWith urlDigit bytes)

/-- The written form for a header field, filled up with `=` to groups of four. -/
def encodeField (bytes : List UInt8) : String :=
  let digits := encodeWith fieldDigit bytes
  String.ofList (digits ++ List.replicate ((4 - digits.length % 4) % 4) '=')

/-- The bytes written by characters of the URL alphabet. -/
def decodeUrlChars? : List Char → Option (List UInt8)
  | [] => some []
  | [_] => none
  | [p, q] => do
    let x ← urlValue? p
    let y ← urlValue? q
    if y % 16 = 0 then some [UInt8.ofNat (x * 4 + y / 16)] else none
  | [p, q, r] => do
    let x ← urlValue? p
    let y ← urlValue? q
    let z ← urlValue? r
    if z % 4 = 0 then some [UInt8.ofNat (x * 4 + y / 16), UInt8.ofNat (y % 16 * 16 + z / 4)]
    else none
  | p :: q :: r :: s :: rest => do
    let x ← urlValue? p
    let y ← urlValue? q
    let z ← urlValue? r
    let w ← urlValue? s
    let more ← decodeUrlChars? rest
    some (UInt8.ofNat (x * 4 + y / 16) :: UInt8.ofNat (y % 16 * 16 + z / 4) ::
      UInt8.ofNat (z % 4 * 64 + w) :: more)

end ChatClient.Text.Base64
