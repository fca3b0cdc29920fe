import ChatClient.Text.Number
import ChatClient.Token.Claims
import ChatClient.Time.Instant

/-!
A credential is a session token whose expiry has been read. Its signature is not checked: the backend
decides about it, and the expiry is all that is needed to know whether asking is worthwhile.
-/
namespace ChatClient.Token

/-- A token without white space around it, and the second after 1970 at which it expires. -/
structure Credential where
  raw : String
  expiresAt : Int
deriving DecidableEq

/-- Brings a number of seconds into sixty-four bits. -/
def clampSeconds (n : Int) : Int :=
  max (-(Text.limit 63 : Int)) (min n ((Text.limit 63 : Int) - 1))

/-- The second that an expiry claim names. A float counts up to its point; a number that is too large
becomes the last second there is. -/
def expirySeconds? : Json.Value → Option Int
  | .number (.integer n) => some (clampSeconds n)
  | .number (.float f) => some f.toInt64.toInt
  | _ => none

/-- The three segments of a token. -/
def segments? (token : List Char) : Option (List Char × List Char × List Char) :=
  match Text.cutAll '.' token with
  | [header, payload, signature] => some (header, payload, signature)
  | _ => none

namespace Credential

/-- Reads a token, with or without white space around it. -/
def decode (token : String) : Except Malformed Credential :=
  let raw := Text.trimChars token.toList
  if raw.isEmpty then .error .empty
  else match segments? raw with
    | none => .error .shape
    | some (_, payload, _) => do
      let claims ← Claims.ofSegment payload
      match claims.expiry.bind expirySeconds? with
      | some seconds => .ok ⟨String.ofList raw, seconds⟩
      | none => .error .missingExpiry

/-- A credential is valid before the second at which it expires. -/
def validAt (c : Credential) (now : Time.Instant) : Bool :=
  now.seconds < c.expiresAt

/-- The instant at which a credential expires, if its year can be written. -/
def expiry? (c : Credential) : Option Time.Instant :=
  Time.Instant.ofSeconds? c.expiresAt

/-- Whom the token was issued to, if it says so. -/
def subject? (c : Credential) : Option String :=
  match segments? c.raw.toList with
  | some (_, payload, _) =>
    match Claims.ofSegment payload with
    | .ok claims => claims.subject
    | .error _ => none
  | none => none

end Credential

/-- The token in the body of a reply: white space around it is left out, and then one pair of quotes. -/
def unframe (body : String) : String :=
  let trimmed := Text.trimChars body.toList
  match trimmed with
  | '"' :: rest =>
    match rest.reverse with
    | '"' :: inner => String.ofList inner.reverse
    | _ => String.ofList trimmed
  | _ => String.ofList trimmed

end ChatClient.Token
