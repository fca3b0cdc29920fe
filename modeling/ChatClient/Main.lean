import ChatClient.Program
import Std.Time.DateTime.Timestamp

/-!
The program with the files, the clock and the environment of the system. It has no connection to a
network: each request is answered as if nobody were there. The files that a run may look at are copied
into a tree; of what the run does to them only the token file is carried over.
-/
namespace ChatClient.Main

/-- The variables of the system. -/
def systemEnvironment : IO Environment := do
  let lines := Text.cutAll 0 (← IO.FS.readBinFile "/proc/self/environ").toList
  let named := lines.filterMap fun line => do
    let (name, value) := Text.cutAt '=' (← Text.decodeUtf8? line)
    some (name, ← value)
  pure fun name => (named.find? (·.1 = name)).map (·.2)

/-- The tree with a file of the system, if it is there. What cannot be read counts as a directory. -/
def copyFile (tree : Files.Tree) (path : String) : IO Files.Tree := do
  let above := (Files.parent? path).getD "/"
  try
    let data ← IO.FS.readBinFile path
    let (_, tree) := tree.makeDirectories above
    pure ((tree.write path data.toList Token.Store.privateMode).toOption.getD tree)
  catch
    | .noFileOrDirectory .. => pure tree
    | _ => pure (tree.makeDirectories path).2

/-- Where the file with variables may be: in a directory or one above it. -/
def environmentFiles (place : Files.Place) : List String :=
  (List.range (place.length + 1)).map fun depth =>
    "/" ++ String.intercalate "/" (place.take depth ++ [Environment.fileName])

/-- Where the token is kept, as far as it can be told. -/
def tokenPath (tree : Files.Tree) (env : Environment) : String :=
  let env := (env.withFile? tree).getD env
  match Config.load tree env with
  | .ok config => config.tokenFile.getD (Config.defaultTokenFile env)
  | .error _ => Config.defaultTokenFile env

/-- The files that a run may look at. -/
def systemTree (env : Environment) : IO Files.Tree := do
  let work := (← IO.currentDir).toString
  let place := Files.names work
  let tree : Files.Tree := { (Files.Tree.empty.makeDirectories work).2 with workPlace := place }
  let tree ← (environmentFiles place).foldlM copyFile tree
  let tree ← (Config.candidates ((env.withFile? tree).getD env)).foldlM copyFile tree
  copyFile tree (tokenPath tree env)

/-- Carries over what a run has done to the token file. -/
def keepToken (path : String) (before after : Files.Tree) : IO Unit := do
  match before.read path, after.read path with
  | .ok _, .error _ => IO.FS.removeFile path
  | old, .ok data =>
    if old.toOption ≠ some data then
      IO.FS.createDirAll ((Files.parent? path).getD "/")
      IO.FS.writeBinFile path ⟨data.toArray⟩
  | .error _, .error _ => pure ()

def clock : IO Time.Instant := do
  let nanos := (← Std.Time.Timestamp.now).toNanosecondsSinceUnixEpoch.val
  pure ⟨nanos / Time.billion, (nanos % Time.billion).toNat⟩

def finish (report : Report) : IO UInt32 := do
  IO.print report.out
  report.complaint.forM fun text => IO.eprintln text
  pure report.code.toUInt32

/-- The bytes of the next line, as far as the input goes. -/
partial def nextLine (input : IO.FS.Stream) (soFar : ByteArray) : IO ByteArray := do
  let next ← input.read 1
  let line := soFar ++ next
  if next.isEmpty || next.toList = [10] then pure line else nextLine input line

def printNow (out : String) : IO Unit := do
  IO.print out
  (← IO.getStdout).flush

/-- Handles lines as they come in. -/
partial def converse (answer : Network σ) (input : IO.FS.Stream) (chat : Chat σ) :
    IO (Report × Chat σ) := do
  match Chat.inputLines (← nextLine input .empty).toList with
  | next :: _ =>
    let (result, out, chat) := chat.takeLine answer (← clock) next
    printNow out
    match result with
    | .ok .continue => converse answer input chat
    | result => pure (.ofChat (result.map fun _ => ()) "", chat)
  | [] => pure (.ofChat (.ok ()) "", chat)

/-- A chat with somebody who waits for each answer. -/
def chatAlong (answer : Network σ) (client : Client) (network : σ) : IO (Report × Chat σ) := do
  let now ← clock
  let (flow, out, chat) := Chat.enter answer (fun _ => now) ⟨client, network⟩
  printNow out
  if flow = .continue then converse answer (← IO.getStdin) chat else pure (.ofChat (.ok ()) "", chat)

end ChatClient.Main

open ChatClient in
def main (args : List String) : IO UInt32 := do
  let env ← Main.systemEnvironment
  let tree ← Main.systemTree env
  match Program.prepare Http.nobody (← Main.clock) env args tree with
  | .error report => Main.finish report
  | .ok (command, answer, client) =>
    let (report, chat) ← match command with
      | .chat => Main.chatAlong answer client ()
      | command => do
        let now ← Main.clock
        pure (Program.perform answer (fun _ => now) [] ⟨client, ()⟩ command)
    Main.keepToken (Main.tokenPath tree env) tree (Program.filesAfter tree chat.client)
    Main.finish report
