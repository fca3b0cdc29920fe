import ChatClient.Session.Login
import ChatClient.Text.Number

/-!
What can be said on the command line: one command with its options, or a question about the program.
-/
namespace ChatClient.CommandLine

inductive Verb
  | login
  | register
  | logout
  | status
  | ask
  | history
  | chat
deriving DecidableEq

def Verb.all : List Verb := [.login, .register, .logout, .status, .ask, .history, .chat]

def Verb.name : Verb → String
  | .login => "login"
  | .register => "register"
  | .logout => "logout"
  | .status => "status"
  | .ask => "ask"
  | .history => "history"
  | .chat => "chat"

def Verb.named? (name : String) : Option Verb :=
  Verb.all.find? (·.name = name)

/-- A command with all it needs. -/
inductive Command
  | login (email password : String)
  | register (registration : Registration)
  | logout
  | status
  | ask (prompt : String)
  | history
  | chat

/-- What a command line asks for. -/
inductive Wish
  | run (command : Command)
  | version
  /-- Help about one command, or about the program. -/
  | help (topic : Option Verb)
  /-- The command line makes no sense. -/
  | misuse

/-- The age in an option. Zero may have a minus sign. -/
def age? (s : String) : Option Nat :=
  match s.toList with
  | '-' :: digits => do
    let n ← Text.digits? 10 digits
    if n = 0 then some 0 else none
  | _ => Text.number? Text.limit32 s

/-- The options of a command, each with the values it takes, and whether words may follow. -/
structure Form where
  options : List (String × (String → Bool))
  takesWords : Bool

/-- An option that takes any value. -/
def anyText (name : String) : String × (String → Bool) := (name, fun _ => true)

def Verb.form : Verb → Form
  | .login => ⟨[anyText "email", anyText "password"], false⟩
  | .register =>
    ⟨[anyText "fullname", anyText "email", anyText "password", ("age", fun s => (age? s).isSome)], false⟩
  | .ask => ⟨[], true⟩
  | .logout | .status | .history | .chat => ⟨[], false⟩

end ChatClient.CommandLine
