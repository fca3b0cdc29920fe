import ChatClient.Chat.Input
import ChatClient.CommandLine.Help
import ChatClient.CommandLine.Reader
import ChatClient.Config.Basic
import ChatClient.Environment.File
import ChatClient.Http.Wire

/-!
A whole run of the program: from the command line, the environment, the files and the standard input to
an exit code and what is printed. Arguments are looked at before the configuration.
-/
namespace ChatClient

/-- What a run ends with. -/
structure Report where
  code : Nat
  out : String
  /-- What is printed as an error. -/
  complaint : Option String

namespace Report

def succeededCode : Nat := 0

def failedCode : Nat := 1

/-- The code for wrong arguments and a wrong configuration. -/
def misusedCode : Nat := 2

/-- The code of a run that could not even start. -/
def brokenCode : Nat := 101

def ofResult (ok : Bool) (out : String) : Report :=
  ⟨if ok then succeededCode else failedCode, out, none⟩

def ofError (out message : String) : Report := ⟨failedCode, out, some ("Error: " ++ message)⟩

def ofChat (result : Except String Unit) (out : String) : Report :=
  match result with
  | .ok () => ofResult true out
  | .error message => ofError out message

end Report

namespace Program

/-- A client over the configured backend and token file, and the network it talks to. -/
def connect (server : Http.Server σ) (now : Time.Instant) (env : Environment) (tree : Files.Tree)
    (config : Config) : Except Config.Fault (Network σ × Client) := do
  let base ← config.api.baseUrl
  .ok (Http.exchange server base.asDirectory, .start (config.tokenStore env tree) now)

/-- Runs a command. A chat is always a success, unless its input is no text. -/
def perform (answer : Network σ) (clock : Time.Clock) (input : List UInt8) (chat : Chat σ) :
    CommandLine.Command → Report × Chat σ
  | .login email password =>
    let (ok, out, chat) := chat.login answer email password
    (.ofResult ok out, chat)
  | .register registration =>
    let (ok, out, chat) := chat.register answer registration
    (.ofResult ok out, chat)
  | .logout =>
    let (out, chat) := chat.logout
    (.ofResult true out, chat)
  | .status =>
    let (out, chat) := chat.status (clock 0)
    (.ofResult true out, chat)
  | .ask prompt =>
    let (ok, out, chat) := chat.ask answer (clock 0) prompt
    (.ofResult ok out, chat)
  | .history =>
    let (ok, out, chat) := chat.history answer (clock 0)
    (.ofResult ok out, chat)
  | .chat =>
    let (result, out, chat) := chat.run answer clock input
    (.ofChat result out, chat)

/-- What the run leaves of the files. -/
def filesAfter (tree : Files.Tree) (c : Client) : Files.Tree :=
  match c.session.tokens with
  | .file _ tree => tree
  | .memory .. => tree

/-- What a run has to perform, and with what; or the report, if there is nothing to perform. -/
def prepare (server : Http.Server σ) (now : Time.Instant) (env : Environment) (args : List String)
    (tree : Files.Tree) : Except Report (CommandLine.Command × Network σ × Client) :=
  match env.withFile? tree with
  | none => .error ⟨Report.brokenCode, "", some "a variable cannot hold a null character"⟩
  | some env =>
    match CommandLine.read env args with
    | .misuse => .error ⟨Report.misusedCode, "", some CommandLine.misuseText⟩
    | .version => .error (.ofResult true (line CommandLine.versionText))
    | .help topic => .error (.ofResult true (line (CommandLine.helpText topic)))
    | .run command =>
      match Config.load tree env with
      | .error fault => .error ⟨Report.misusedCode, "", some fault.userMessage⟩
      | .ok config =>
        match connect server now env tree config with
        | .error fault => .error (.ofError "" fault.message)
        | .ok (answer, client) => .ok (command, answer, client)

/-- Runs the program. -/
def run (server : Http.Server σ) (clock : Time.Clock) (env : Environment) (args : List String)
    (input : List UInt8) (tree : Files.Tree) (network : σ) : Report × Files.Tree × σ :=
  match prepare server (clock 0) env args tree with
  | .error report => (report, tree, network)
  | .ok (command, answer, client) =>
    let (report, chat) := perform answer clock.later input ⟨client, network⟩ command
    (report, filesAfter tree chat.client, chat.network)

end Program

end ChatClient
