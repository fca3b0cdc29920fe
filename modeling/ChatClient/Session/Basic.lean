import ChatClient.Token.Credential
import ChatClient.Token.Store

/-!
The session: whether the user is logged in, over the store that holds the token. Each change of the
session raises its generation, so that what was begun in an earlier one can be told from what was
begun in this one. Who watches the status is told only when it differs.
-/
namespace ChatClient

inductive Status
  | anonymous
  | authenticated
deriving DecidableEq

def Status.text : Status → String
  | .anonymous => "anonymous"
  | .authenticated => "authenticated"

/-- The changes count how often the status has become another. The generation stands for a counter of 64 bits,
which wraps: it is that counter in a run with fewer than 2 ^ 64 transitions. -/
structure Session where
  tokens : Token.Store
  status : Status
  generation : Nat
  changes : Nat

namespace Session

/-- The stored token as a credential, if there is one. -/
def credential? (s : Session) : Except Token.Malformed (Option Token.Credential) :=
  match s.tokens.get? with
  | none => .ok none
  | some raw => (Token.Credential.decode raw).map some

/-- Whether the stored token is a credential that is still valid. -/
def isLive (s : Session) (now : Time.Instant) : Bool :=
  match s.credential? with
  | .ok (some credential) => credential.validAt now
  | _ => false

/-- The first session over a store: logged in if the token there is still valid. -/
def restore (tokens : Token.Store) (now : Time.Instant) : Session :=
  let s : Session := ⟨tokens, .anonymous, 0, 0⟩
  if s.isLive now then { s with status := .authenticated } else s

def isLoggedIn (s : Session) : Bool := s.status = .authenticated

/-- A new generation with a status, the same or another. -/
def transition (next : Status) (s : Session) : Session :=
  { s with
    status := next
    generation := s.generation + 1
    changes := if s.status = next then s.changes else s.changes + 1 }

/-- Takes the token out of its store. If it cannot be taken out it stays. -/
def forgetToken (s : Session) : Session :=
  { s with tokens := s.tokens.clear.2 }

/-- Ends the session, because the user or the backend wants it so. -/
def logout (s : Session) : Session :=
  s.forgetToken.transition .anonymous

/-- Whether the session may be used. A session whose token has expired, or is gone, ends here. -/
def ensureValid (now : Time.Instant) (s : Session) : Bool × Session :=
  if !s.isLoggedIn then (false, s)
  else if s.isLive now then (true, s)
  else (false, s.logout)

end Session

end ChatClient
