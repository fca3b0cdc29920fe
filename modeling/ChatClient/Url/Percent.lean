import ChatClient.Text.Utf8
import ChatClient.Text.Number

/-!
Percent encoding in addresses. Each part of an address has its own set of characters that are
written as percent signs with two digits; bytes outside ASCII always are.
-/
namespace ChatClient.Url

open Text (hexDigit?)

/-- A set of ASCII characters. -/
abbrev CharSet := Char → Bool

def controlSet : CharSet := fun c => c.toNat < 0x20 || c.toNat = 0x7F

def fragmentSet : CharSet := fun c => controlSet c || [' ', '"', '<', '>', '\x60'].contains c

def querySet : CharSet := fun c => controlSet c || [' ', '"', '#', '<', '>'].contains c

/-- The query of an address whose scheme is known also has the apostrophe encoded. -/
def knownQuerySet : CharSet := fun c => querySet c || c = '\x27'

def pathSet : CharSet := fun c => fragmentSet c || ['#', '?', '\x7b', '\x7d'].contains c

def userSet : CharSet :=
  fun c => pathSet c || ['/', ':', ';', '=', '@', '[', '\\', ']', '^', '|'].contains c

def capitalDigit (n : Nat) : Char := (Text.digitChar n).toUpper

/-- A byte as a percent sign and two digits. -/
def escapeByte (b : UInt8) : List Char :=
  ['%', capitalDigit (b.toNat / 16), capitalDigit (b.toNat % 16)]

def escapeChar (set : CharSet) (c : Char) : List Char :=
  if c.toNat < 0x80 && !set c then [c]
  else (Text.encodeUtf8 (String.ofList [c])).flatMap escapeByte

/-- The text with the characters of a set, and all that are not ASCII, encoded. -/
def escape (set : CharSet) (cs : List Char) : String :=
  String.ofList (cs.flatMap (escapeChar set))

/-- The bytes of a text in which percent signs with two digits stand for bytes. -/
def unescapeBytes : List UInt8 → List UInt8
  | a :: b :: c :: rest =>
    if a = 0x25 then
      match hexDigit? (Char.ofNat b.toNat), hexDigit? (Char.ofNat c.toNat) with
      | some high, some low => UInt8.ofNat (high * 16 + low) :: unescapeBytes rest
      | _, _ => a :: unescapeBytes (b :: c :: rest)
    else a :: unescapeBytes (b :: c :: rest)
  | bytes => bytes

end ChatClient.Url
