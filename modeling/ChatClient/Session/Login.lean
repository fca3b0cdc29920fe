import ChatClient.Session.Basic
import ChatClient.Http.Message

/-!
Logging in and registering. Whatever goes wrong before the token arrives is answered in one way, so
that nobody learns which of email and password was wrong.
-/
namespace ChatClient

inductive AuthError
  | invalidCredentials
  | tokenMalformed (cause : Token.Malformed)
  | storage (cause : Token.StoreError)
deriving DecidableEq

def AuthError.message : AuthError → String
  | .invalidCredentials => "invalid email or password"
  | .tokenMalformed cause => "session token is malformed: " ++ cause.message
  | .storage cause => "failed to persist session token: " ++ cause.message

/-- A new account. -/
structure Registration where
  fullname : String
  email : String
  password : String
  age : Option Nat

def Registration.toJson (r : Registration) : Json.Value :=
  .ofMembers ([("fullname", .string r.fullname), ("email", .string r.email),
    ("password", .string r.password)] ++ (r.age.map fun n => ("age", Json.Value.ofInt n)).toList)

namespace Session

/-- A request with the stored token. -/
def authorize (s : Session) (r : Http.Request) : Http.Request :=
  r.withToken s.tokens.get?

def loginRequest (s : Session) (email password : String) : Http.Request :=
  s.authorize (.postJson "/auth/login"
    (.ofMembers [("email", .string email), ("password", .string password)]))

def registerRequest (s : Session) (r : Registration) : Http.Request :=
  s.authorize (.postJson "/auth/register" r.toJson)

/-- The credential that the backend sent. -/
def issued (reply : Http.Reply) : Except AuthError Token.Credential :=
  match reply with
  | .ok response =>
    if response.isSuccess then
      (Token.Credential.decode (Token.unframe response.body)).mapError .tokenMalformed
    else .error .invalidCredentials
  | .error _ => .error .invalidCredentials

/-- Ends a login with the reply of the backend. The session begins when the token has been stored. -/
def finishLogin (reply : Http.Reply) (s : Session) : Except AuthError Unit × Session :=
  match issued reply with
  | .error e => (.error e, s)
  | .ok credential =>
    match s.tokens.set credential.raw with
    | (.ok (), tokens) => (.ok (), { s with tokens }.transition .authenticated)
    | (.error e, tokens) => (.error (.storage e), { s with tokens })

/-- What a registration comes to. It does not log in. -/
def registered (reply : Http.Reply) : Except AuthError Unit :=
  match reply with
  | .ok response => if response.isSuccess then .ok () else .error .invalidCredentials
  | .error _ => .error .invalidCredentials

end Session

end ChatClient
