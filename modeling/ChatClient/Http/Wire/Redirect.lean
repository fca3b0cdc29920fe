import ChatClient.Http.Wire.Request
import ChatClient.Http.Wire.Response

/-!
Redirections: a response may name another address to ask. What was asked with a body is asked again
without one, unless the status says that nothing changes. Where the answer leads to another server, what
proves who is asking stays behind.
-/
namespace ChatClient.Http

/-! ### Addresses that can be named -/

/-- What has been seen of the part of an address that names a server: the colons of a port, brackets, and
whether there was a percent sign. User and password do not count. -/
structure Authority where
  colons : Nat
  opened : Bool
  closed : Bool
  percent : Bool
  endsUser : Bool

def Authority.start : Authority := ⟨0, false, false, false, false⟩

/-- Signs, besides letters and digits, that may stand in the name of a server or in front of it. -/
def authoritySigns : List Char :=
  ['!', '$', '&', '\x27', '(', ')', '*', '+', ',', '-', '.', ';', '=', '_', '~']

def Authority.next? (a : Authority) (c : Char) : Option Authority :=
  let a := { a with endsUser := false }
  if c = ':' then if a.colons < 8 then some { a with colons := a.colons + 1 } else none
  else if c = '[' then if a.percent || a.opened then none else some { a with opened := true }
  else if c = ']' then
    if !a.opened || a.closed then none
    else some { a with closed := true, colons := 0, percent := false }
  else if c = '@' then some { a with colons := 0, percent := false, endsUser := true }
  else if c = '%' then some { a with percent := true }
  else if c.isAlphanum || authoritySigns.contains c then some a
  else none

/-- Whether a text can name a server. -/
def isAuthority (cs : List Char) : Bool :=
  match cs.foldlM Authority.next? .start with
  | some a => a.opened = a.closed && a.colons ≤ 1 && !a.endsUser && !a.percent
  | none => false

/-- The address as a request can name it, if it can: with a host, a path and no fragment. An address without
a host can be taken for the name of a server. -/
def nameable? (u : Url) : Option Url :=
  match u.host, u.path with
  | some host, path =>
    let path := if path = .segments [] then .segments [""] else path
    if isSendableHost host then some { u with path, fragment := none } else none
  | none, .whole _ => if isAuthority u.text.toList then some u else none
  | none, .segments _ => none

/-! ### Where a response leads -/

/-- The statuses that lead elsewhere. -/
def isRedirection (status : Nat) : Bool := [301, 302, 303, 307, 308].contains status

/-- The address that a response names, from the one that was asked. -/
def Head.location? (h : Head) (asked : Url) : Option Url := do
  let value ← (valuesOf "location" h.headers).head?
  nameable? (← (asked.join (← Text.decodeUtf8? value)).toOption)

/-- The request that is made after a status: some take the body away. -/
def WireRequest.after (r : WireRequest) (status : Nat) : WireRequest :=
  if status = 303 || (r.method = .post && (status = 301 || status = 302)) then
    { r with
      method := .get
      headers := withoutNames [contentTypeName, lengthName, "content-encoding", encodingName] r.headers
      body := [] }
  else r

/-- Whether two addresses are those of different servers. -/
def areApart (a b : Url) : Bool :=
  a.host.map Url.Host.text ≠ b.host.map Url.Host.text || a.effectivePort? ≠ b.effectivePort?

/-- Headers that are for one server only. -/
def personalNames : List String :=
  [Request.authorizationName, "cookie", "cookie2", "proxy-authorization", "www-authenticate"]

/-- Says which address led to the one that is asked. -/
def refererName : String := "referer"

/-- The request at another address, to which the first one led. From an encrypted connection nothing is
told to one that is not. -/
def WireRequest.movedTo (r : WireRequest) (next previous : Url) : WireRequest :=
  let headers := if areApart next previous then withoutNames personalNames r.headers else r.headers
  let told := !(next.scheme = "http" && previous.scheme = "https")
  { r with
    url := next
    headers :=
      if told then withHeader refererName { previous.withoutUser with fragment := none }.text headers
      else headers }

/-- How many redirections are followed. -/
def redirectionLimit : Nat := 10

end ChatClient.Http
