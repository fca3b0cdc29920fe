import ChatClient.Json.Value
import ChatClient.Text.Blank

/-!
Requests to the backend and its replies. A request names a path below the backend's address. Header
names do not tell capitals from small letters.
-/
namespace ChatClient.Http

inductive Method
  | get
  | post
deriving DecidableEq

def Method.text : Method → String
  | .get => "GET"
  | .post => "POST"

inductive Body
  | empty
  | json (value : Json.Value)
  | text (s : String)

structure Request where
  method : Method
  path : String
  headers : List (String × String)
  body : Body

namespace Request

def get (path : String) : Request := ⟨.get, path, [], .empty⟩

def postJson (path : String) (value : Json.Value) : Request := ⟨.post, path, [], .json value⟩

def postText (path : String) (s : String) : Request := ⟨.post, path, [], .text s⟩

/-- Puts a header last, in place of all that have its name. -/
def setHeader (name value : String) (r : Request) : Request :=
  { r with headers := r.headers.filter (!Text.sameName ·.1 name) ++ [(name, value)] }

/-- The value of the first header with a name. -/
def header? (name : String) (r : Request) : Option String :=
  (r.headers.find? (Text.sameName ·.1 name)).map (·.2)

def authorizationName : String := "authorization"

/-- The token that a request carries. -/
def bearer? (r : Request) : Option String :=
  (r.header? authorizationName).bind (Text.afterLead? "Bearer ")

/-- The request with a token, or as it is if there is none. -/
def withToken (token : Option String) (r : Request) : Request :=
  match token with
  | some t => r.setHeader authorizationName ("Bearer " ++ t)
  | none => r

/-- The path up to the first question mark. -/
def route (r : Request) : String := (Text.cutAt '?' r.path).1

end Request

structure Response where
  status : Nat
  body : String
deriving DecidableEq

/-- The statuses from 200 to 299. -/
def Response.isSuccess (r : Response) : Bool := 200 ≤ r.status && r.status < 300

/-- Both 401 and 403 mean that the token was refused. -/
def Response.isUnauthorized (r : Response) : Bool := r.status = 401 || r.status = 403

/-- What is said of a status that is neither. -/
def Response.statusMessage (r : Response) : String :=
  "backend responded with status " ++ toString r.status

/-- Why no response came. -/
inductive TransportError
  | url (detail : String)
  | request (detail : String)
deriving DecidableEq

def TransportError.message : TransportError → String
  | .url detail => "invalid request url: " ++ detail
  | .request detail => "request failed: " ++ detail

abbrev Reply := Except TransportError Response

end ChatClient.Http
