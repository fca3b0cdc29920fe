import ChatClient.Http.Message
import ChatClient.Http.Wire.Header
import ChatClient.Json.Writer
import ChatClient.Text.Base64
import ChatClient.Url.Reader

/-!
Requests as they go over the wire. The path of a request is resolved below the base address, the
headers are checked and completed, and the body becomes bytes. A request whose headers cannot be sent
fails before one whose address cannot be reached.
-/
namespace ChatClient.Http

/-- The address of a path below a base. Slashes in front of the path do not lead to the root. -/
def resolve (base : Url) (path : String) : Except TransportError Url :=
  (base.join (String.ofList (path.toList.dropWhile (· = '/')))).mapError fun fault =>
    .url (path ++ ": " ++ fault.message)

/-- A request as the server sees it. Header names are in small letters. -/
structure WireRequest where
  method : Method
  url : Url
  headers : List (String × String)
  body : List UInt8

def isSendable (header : String × String) : Bool :=
  header.1 ≠ "" && header.1.toList.all isNameChar && header.2.toList.all isValueChar

/-- The text that percent signs in a user or a password stand for. -/
def unescapeText? (s : String) : Option String :=
  Text.decodeUtf8? (Url.unescapeBytes (Text.encodeUtf8 s))

/-- Takes user and password out of an address and makes a header of them, if there are any. -/
def takeUser (u : Url) : Url × List (String × String) :=
  match unescapeText? u.user with
  | none => (u, [])
  | some user =>
    let password := u.password.bind unescapeText?
    if user = "" ∧ password.isNone then (u, [])
    else
      let pair := Text.Base64.encodeField (Text.encodeUtf8 (user ++ ":" ++ password.getD ""))
      (u.withoutUser, [(Request.authorizationName, "Basic " ++ pair)])

/-- The headers that say what the body is. One about JSON gives way to what the request says. -/
def bodyHeaders (headers : List (String × String)) : Body → List (String × String)
  | .empty => []
  | .json _ =>
    if headers.any fun h => Text.sameName h.1 contentTypeName then []
    else [(contentTypeName, "application/json")]
  | .text _ => [(contentTypeName, "text/plain; charset=utf-8")]

def Body.bytes : Body → List UInt8
  | .empty => []
  | .json value => Text.encodeUtf8 value.text
  | .text s => Text.encodeUtf8 s

/-- Characters that a host can have in an address but not in a request. -/
def isSendableHost : Url.Host → Bool
  | .name s => s ≠ "" && !s.toList.any ['"', '%', '\x60', '\x7b', '\x7d'].contains
  | _ => true

/-- The schemes of web servers. -/
def isWebScheme (scheme : String) : Bool := scheme = "http" || scheme = "https"

/-- Only addresses of web servers can be asked, and only if their host can stand in a request. -/
def isAskable (u : Url) : Bool := isWebScheme u.scheme && u.host.any isSendableHost

/-- What is wrong with an address that cannot be asked. -/
def unaskable (u : Url) : TransportError := .request ("builder error for url (" ++ u.text ++ ")")

/-- The request to be sent, before its length is known. -/
def prepare (base : Url) (r : Request) : Except TransportError WireRequest := do
  let (url, user) := takeUser (← resolve base r.path)
  if !r.headers.all isSendable then .error (.request "builder error")
  else if !isAskable url then .error (unaskable url)
  else
    let headers := (user ++ r.headers ++ bodyHeaders r.headers r.body).map
      fun (name, value) => (Text.lowerAscii name, Text.trim value)
    .ok ⟨r.method, url, headers, r.body.bytes⟩

/-- The last one of some headers that say how the body is sent, with chunks as its last form. -/
def withChunks (headers : List (String × String)) : List (String × String) :=
  match (valuesOf encodingName headers).reverse with
  | last :: others =>
    let last := if endsChunked last.toList then last else last ++ ", " ++ chunkedForm
    withoutNames [encodingName] headers ++ (others.reverse ++ [last]).map fun value => (encodingName, value)
  | [] => headers

/-- The request with the length of its body stated. What the request says itself of the length holds if it
makes sense: bytes beyond it are left out, and fewer bytes than it says cannot be sent. Without a body
nothing is stated. -/
def WireRequest.framed? (r : WireRequest) : Option WireRequest :=
  let stated := bodyLength? ((valuesOf lengthName r.headers).map String.toList)
  if r.body.isEmpty then some { r with headers := withoutNames [encodingName] r.headers }
  else if !(valuesOf encodingName r.headers).isEmpty then
    let headers := withChunks r.headers
    some { r with headers := if stated.isSome then withoutNames [lengthName] headers else headers }
  else match stated with
    | some n => if n ≤ r.body.length then some { r with body := r.body.take n } else none
    | none => some { r with headers := withHeader lengthName (toString r.body.length) r.headers }

end ChatClient.Http
