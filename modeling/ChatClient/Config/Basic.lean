import ChatClient.Config.Document
import ChatClient.Config.Origin
import ChatClient.Environment.Basic
import ChatClient.Token.Store

/-!
The configuration of the client: what the file says, with the variables of the environment in place of
it where they are set. A blank variable counts as unset.
-/
namespace ChatClient

structure Config where
  api : Config.Origin
  /-- Where the token is kept, unless it is the usual place. -/
  tokenFile : Option String
deriving DecidableEq

end ChatClient

namespace ChatClient.Config

def protocolVariable : String := "GAIT_API_PROTOCOL"

def hostnameVariable : String := "GAIT_API_HOSTNAME"

def portVariable : String := "GAIT_API_PORT"

def tokenFileVariable : String := "GAIT_TOKEN_FILE"

/-- The value of a variable without white space around it, unless nothing is left. -/
def setting? (env : Environment) (name : String) : Option String := do
  let value := Text.trim (← env name)
  if value = "" then none else some value

/-- The protocol in small letters, which has to be one of the web. -/
def resolveProtocol (raw : Section) (env : Environment) : Except Fault String :=
  let protocol := Text.lowerAscii
    ((setting? env protocolVariable <|> raw.protocol).getD Origin.default.protocol)
  if protocol = "http" ∨ protocol = "https" then .ok protocol else .error (.protocol protocol)

def resolveHostname (raw : Section) (env : Environment) : Except Fault String :=
  let hostname := Text.trim
    ((setting? env hostnameVariable <|> raw.hostname).getD Origin.default.hostname)
  if hostname = "" then .error .noHostname else .ok hostname

def resolvePort (raw : Section) (env : Environment) : Except Fault Nat :=
  match setting? env portVariable with
  | none => .ok (raw.port.getD Origin.default.port)
  | some value =>
    match Text.number? Text.limit16 value with
    | some port => .ok port
    | none => .error (.port portVariable value)

/-- The configuration, if its parts are right and together make an address. -/
def resolve (raw : Raw) (env : Environment) : Except Fault Config := do
  let api := raw.api.getD .empty
  let protocol ← resolveProtocol api env
  let hostname ← resolveHostname api env
  let port ← resolvePort api env
  let origin : Origin := ⟨protocol, hostname, port⟩
  let _ ← origin.baseUrl
  .ok ⟨origin, setting? env tokenFileVariable <|> raw.tokenFile⟩

/-- The user's home directory. -/
def home (env : Environment) : String := (env "HOME").getD ""

/-- The directory of configuration files. Only an absolute path may say that it is another one. -/
def configDirectory (env : Environment) : String :=
  match env "XDG_CONFIG_HOME" with
  | some path => if Files.isAbsolute path then path else Files.below (home env) ".config"
  | none => Files.below (home env) ".config"

def ownDirectory (env : Environment) : String := Files.below (configDirectory env) "gait"

/-- Where the token is kept if nothing else is said. -/
def defaultTokenFile (env : Environment) : String :=
  Files.below (ownDirectory env) "session.token"

/-- Where the configuration file may be, the first place first. -/
def candidates (env : Environment) : List String :=
  [ownDirectory env, Files.below (home env) ".gait"].flatMap fun directory =>
    ["gait.yaml", "gait.yml"].map (Files.below directory)

/-- Reads the first file that is there. -/
def readRaw (tree : Files.Tree) (env : Environment) : Except Fault Raw :=
  match (candidates env).find? tree.holds with
  | none => .ok .empty
  | some path =>
    match tree.read path with
    | .error e => .error (.unreadable path e.message)
    | .ok bytes =>
      match Text.decodeUtf8? bytes with
      | none => .error (.unreadable path "stream did not contain valid UTF-8")
      | some text => (Raw.parse text).mapError fun fault => .document fault.message

def load (tree : Files.Tree) (env : Environment) : Except Fault Config := do
  resolve (← readRaw tree env) env

/-- The store of the token of a configuration. -/
def tokenStore (c : Config) (env : Environment) (tree : Files.Tree) : Token.Store :=
  .file (c.tokenFile.getD (defaultTokenFile env)) tree

end ChatClient.Config
