import ChatClient.Url.Error
import ChatClient.Url.Ipv4
import ChatClient.Url.Ipv6
import ChatClient.Url.Percent

/-!
Addresses in parts, and their text. The parts are kept as they are written: encoded where they have
to be, the default port of a scheme left out, the path without dots.
-/
namespace ChatClient.Url

inductive Host
  /-- A name, which is empty where an address has no host between its slashes. -/
  | name (s : String)
  | ipv4 (address : Nat)
  | ipv6 (groups : List Nat)
deriving DecidableEq

def Host.text : Host → String
  | .name s => s
  | .ipv4 address => Ipv4.text address
  | .ipv6 groups => "[" ++ Ipv6.text groups ++ "]"

inductive Path
  /-- What follows the scheme of an address that is no place in a tree, such as a mail address. -/
  | whole (s : String)
  /-- The segments, each with a slash before it. -/
  | segments (parts : List String)
deriving DecidableEq

def Path.text : Path → String
  | .whole s => s
  | .segments parts => String.join (parts.map ("/" ++ ·))

end ChatClient.Url

namespace ChatClient

/-- An address. -/
structure Url where
  scheme : String
  user : String
  password : Option String
  host : Option Url.Host
  port : Option Nat
  path : Url.Path
  query : Option String
  fragment : Option String
deriving DecidableEq

end ChatClient

namespace ChatClient.Url

/-- The port that a known scheme stands for. -/
def defaultPort? : String → Option Nat
  | "http" | "ws" => some 80
  | "https" | "wss" => some 443
  | "ftp" => some 21
  | _ => none

/-- A known scheme always has a host, or a tree of files. Backslashes are slashes in it. -/
def isKnownScheme (scheme : String) : Bool :=
  (defaultPort? scheme).isSome || scheme = "file"

/-- The port that is written, or else the one the scheme stands for. -/
def effectivePort? (u : Url) : Option Nat :=
  u.port <|> defaultPort? u.scheme

/-- The segments of the path, none where it is no place in a tree. -/
def segments (u : Url) : List String :=
  match u.path with
  | .whole _ => []
  | .segments parts => parts

def userText (u : Url) : String :=
  let password := match u.password with
    | some p => ":" ++ p
    | none => ""
  if u.user = "" ∧ u.password.isNone then "" else u.user ++ password ++ "@"

def portText (u : Url) : String :=
  match u.port with
  | some n => ":" ++ toString n
  | none => ""

/-- The host with what stands around it. Without one, a path that starts with two slashes has a dot
put before it, since it would read as a host. -/
def authorityText (u : Url) : String :=
  match u.host, u.path with
  | some host, _ => "//" ++ u.userText ++ host.text ++ u.portText
  | none, .segments ("" :: _ :: _) => "/."
  | none, _ => ""

/-- An optional last part, after its mark. -/
def markedText (mark : String) : Option String → String
  | some s => mark ++ s
  | none => ""

/-- The address without its fragment. -/
def textToQuery (u : Url) : String :=
  u.scheme ++ ":" ++ u.authorityText ++ u.path.text ++ markedText "?" u.query

def text (u : Url) : String :=
  u.textToQuery ++ markedText "#" u.fragment

/-- What a request asks of the host: the path and the query. -/
def target (u : Url) : String :=
  u.path.text ++ markedText "?" u.query

/-- The address without user and password. -/
def withoutUser (u : Url) : Url := { u with user := "", password := none }

/-- A letter with a colon, or with a bar for the colon, is a drive. -/
def isDrive (part : String) : Bool :=
  match part.toList with
  | [letter, sign] => letter.isAlpha && (sign = ':' || sign = '|')
  | _ => false

/-- A drive with a colon. -/
def isPlainDrive (part : String) : Bool := isDrive part && part.endsWith ":"

/-- A drive is written with a colon. -/
def withColon (part : String) : String :=
  if isDrive part then String.ofList (part.toList.take 1 ++ [':']) else part

/-- The first of some segments with a colon, if it is a drive. -/
def drivePath : List String → List String
  | first :: rest => withColon first :: rest
  | [] => []

/-- The address as a directory, so that a relative one is resolved below it. -/
def asDirectory (u : Url) : Url :=
  match u.path with
  | .whole s =>
    if s = "" then { u with path := .whole "%2F" }
    else if s.endsWith "/" then u else { u with path := .whole (s ++ "/") }
  | .segments parts =>
    if parts.getLast? = some "" then u
    else { u with path := .segments ((if u.scheme = "file" then drivePath parts else parts) ++ [""]) }

end ChatClient.Url
