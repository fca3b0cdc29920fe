import ChatClient.Json.Reader
import ChatClient.Text.Base64
import ChatClient.Text.Blank

/-!
The claims of a session token. They are the middle of its three segments, a JSON object in base 64.
Only the expiry and the subject are read; the expiry may be missing here, or of any kind.
-/
namespace ChatClient.Token

open Text (Piece)
open Json (RecordReader)

/-- Why a text is no session token. -/
inductive Malformed
  | empty
  | shape
  | encoding
  | claims (detail : String)
  | missingExpiry
deriving DecidableEq

def Malformed.message : Malformed → String
  | .empty => "token is empty"
  | .shape => "token does not have three dot-separated segments"
  | .encoding => "token payload is not valid base64url"
  | .claims detail => "token payload is not a JSON claims object: " ++ detail
  | .missingExpiry => "token carries no usable \x60exp\x60 claim"

structure Claims where
  expiry : Option Json.Value
  subject : Option String

/-- The two claims while they are being read; none where a claim has not come yet. -/
structure ClaimsDraft where
  expiry : Option (Option Json.Value)
  subject : Option (Option String)

/-- A value, or nothing for null. -/
def readOptional (read : List Piece → Option (α × List Piece)) (input : List Piece) :
    Option (Option α × List Piece) :=
  match Json.skipSpace input with
  | .char 'n' :: rest => (Json.expect ['u', 'l', 'l'] rest).map fun rest => (none, rest)
  | input => (read input).map fun (a, rest) => (some a, rest)

/-- The expiry, which stands inside the object of the claims. -/
def ClaimsDraft.readExpiry (d : ClaimsDraft) (input : List Piece) :
    Option (ClaimsDraft × List Piece) := do
  let (value, rest) ← readOptional (Json.readValue (Json.depthLimit - 1)) input
  some ({ d with expiry := some value }, rest)

def ClaimsDraft.readSubject (d : ClaimsDraft) (input : List Piece) :
    Option (ClaimsDraft × List Piece) := do
  let (subject, rest) ← readOptional Json.readString input
  some ({ d with subject := some subject }, rest)

/-- Each claim may come once. Other members are passed over. -/
def ClaimsDraft.readMember (d : ClaimsDraft) (key : String) (input : List Piece) :
    Option (ClaimsDraft × List Piece) :=
  if key = "exp" then if d.expiry.isSome then none else d.readExpiry input
  else if key = "sub" then if d.subject.isSome then none else d.readSubject input
  else (Json.skipValue input).map fun rest => (d, rest)

def claimsReader : RecordReader ClaimsDraft where
  empty := ⟨none, none⟩
  member := ClaimsDraft.readMember
  positions := [ClaimsDraft.readExpiry, ClaimsDraft.readSubject]

/-- The claims in the JSON text that bytes hold. -/
def Claims.ofBytes? (bytes : List UInt8) : Option Claims := do
  let draft ← Json.document? claimsReader.read (Text.pieces bytes)
  some ⟨draft.expiry.join, draft.subject.join⟩

/-- The claims of a segment. Padding at its end is left out. -/
def Claims.ofSegment (segment : List Char) : Except Malformed Claims :=
  match Text.Base64.decodeUrlChars? (Text.dropEnd (· = '=') segment) with
  | none => .error .encoding
  | some bytes =>
    match Claims.ofBytes? bytes with
    | some claims => .ok claims
    | none => .error (.claims Json.mismatchText)

end ChatClient.Token
