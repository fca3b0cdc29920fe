import ChatClient.Url.Reader

/-!
The backend's address as configured: protocol, host name and port.
-/
namespace ChatClient.Config

/-- What is wrong with a configuration. -/
inductive Fault
  | protocol (protocol : String)
  | noHostname
  | port (name value : String)
  | origin (address : String) (fault : Url.Fault)
  | unreadable (path cause : String)
  | document (detail : String)
deriving DecidableEq

def Fault.detail : Fault → String
  | .protocol p => "unsupported API protocol \x60" ++ p ++ "\x60"
  | .noHostname => "missing API hostname"
  | .port name value => name ++ " is not a port: " ++ value
  | .origin address fault => "bad API origin " ++ address ++ ": " ++ fault.message
  | .unreadable path cause => "failed to read " ++ path ++ ": " ++ cause
  | .document detail => "invalid gait.yaml: " ++ detail

def Fault.message (f : Fault) : String := "configuration invalid: " ++ f.detail

/-- What the user is told. -/
def Fault.userMessage (f : Fault) : String :=
  "Client not configured: " ++ f.detail ++ ". Update gait.yaml."

structure Origin where
  protocol : String
  hostname : String
  port : Nat
deriving DecidableEq

namespace Origin

/-- The origin of a configuration that says nothing. -/
def default : Origin := ⟨"http", "127.0.0.1", 8080⟩

def address (o : Origin) : String :=
  o.protocol ++ "://" ++ o.hostname ++ ":" ++ toString o.port ++ "/"

def baseUrl (o : Origin) : Except Fault Url :=
  (Url.parse o.address).mapError (.origin o.address)

end Origin

end ChatClient.Config
