import ChatClient.Token.Credential
import ChatClient.Json.Writer
import ChatClient.Text.Utf8

/-!
Writing session tokens as the backend issues them. The signature is a fixed text, so a minted token is
of use only where nobody checks it.
-/
namespace ChatClient.Token

/-- The claims of a token: to whom and when it was issued, and when it expires. -/
def mintedClaims (subject : String) (issued expires : Time.Instant) : Json.Value :=
  .ofMembers [("sub", .string subject), ("iat", .ofInt issued.seconds), ("exp", .ofInt expires.seconds)]

def mintedHeader : Json.Value :=
  .ofMembers [("alg", .string "HS256"), ("typ", .string "JWT")]

/-- A text as a segment of a token. -/
def segment (s : String) : String :=
  Text.Base64.encodeUrl (Text.encodeUtf8 s)

def mint (subject : String) (issued expires : Time.Instant) : String :=
  segment mintedHeader.text ++ "." ++ segment (mintedClaims subject issued expires).text ++ "." ++
    segment "mock-signature"

end ChatClient.Token
