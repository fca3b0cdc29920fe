import ChatClient.Chat.Screen
import ChatClient.Client.Basic
import ChatClient.Text.Number

/-!
The front end: commands of the user, each of which waits for the backend before the next one is read.
A command gives a text to be printed. The backend may be anything that answers requests one by one.
-/
namespace ChatClient

/-- Something that answers requests and changes by it. -/
abbrev Network (σ : Type) := σ → Http.Request → Http.Reply × σ

/-- A client together with the network it talks to. -/
structure Chat (σ : Type) where
  client : Client
  network : σ

/-- Whether more lines are to be read. -/
inductive Flow
  | continue
  | quit
deriving DecidableEq

/-- A printed line. -/
def line (s : String) : String := s ++ "\n"

namespace Chat

def helpText : String :=
  "Type a question and press Enter.
  :history      list past questions
  :reload       fetch history from the server again
  :select N     show history entry N
  :delete N     remove history entry N (local only)
  :redo         ask the selected history entry again
  :retry        resend a failed question
  :new          clear the current question
  :logout       log out and leave
  :quit         leave"

/-- Waits for the reply of a call that has begun, and ends the call. -/
def await (answer : Network σ) (finish : τ → Http.Reply → Client → α × Client) (network : σ) :
    Begun τ α × Client → α × Chat σ
  | (.done result, client) => (result, ⟨client, network⟩)
  | (.waiting request ticket, client) =>
    let (reply, network) := answer network request
    let (result, client) := finish ticket reply client
    (result, ⟨client, network⟩)

def login (answer : Network σ) (email password : String) (chat : Chat σ) : Bool × String × Chat σ :=
  let request := chat.client.session.loginRequest email password
  let (reply, network) := answer chat.network request
  let (result, client) := chat.client.finishLogin reply
  match result with
  | .ok () => (true, line ("Logged in as " ++ email ++ "."), ⟨client, network⟩)
  | .error _ => (false, line "Login failed. Check your email and password.", ⟨client, network⟩)

def register (answer : Network σ) (registration : Registration) (chat : Chat σ) :
    Bool × String × Chat σ :=
  let (reply, network) := answer chat.network (chat.client.session.registerRequest registration)
  match Session.registered reply with
  | .ok () =>
    (true, line ("Account created for " ++ registration.email ++ ". Run \x60gait login\x60 to start."),
      { chat with network })
  | .error _ => (false, line "Could not create the account.", { chat with network })

def logout (chat : Chat σ) : String × Chat σ :=
  (line "Logged out.", { chat with client := chat.client.logout.clear })

/-- The credential of the session, or none if it cannot be read. -/
def credential? (c : Client) : Option Token.Credential :=
  match c.session.credential? with
  | .ok credential => credential
  | .error _ => none

def status (now : Time.Instant) (chat : Chat σ) : String × Chat σ :=
  let (_, client) := chat.client.ensureValid now
  (line (Screen.status client.session.status (credential? client)), { chat with client })

/-- What is printed of a prompt that has been sent. Nothing is said of an empty one. -/
def reportSend : Except SendError Entry → Bool × String
  | .ok entry => (true, line entry.answer)
  | .error .emptyPrompt => (false, "")
  | .error e => (false, line (Screen.sendError e))

def reportHistory : Except FetchError (List Entry) → Bool × String
  | .ok entries => (true, line (Screen.history entries))
  | .error .notAuthenticated | .error .unauthorized => (false, line (Screen.status .anonymous none))
  | .error _ => (false, line "History is unavailable right now.")

/-- Ends a call that sends a prompt, and prints what it came to. -/
def completeSend (answer : Network σ) (network : σ)
    (begun : Begun PromptTicket (Except SendError Entry) × Client) : Bool × String × Chat σ :=
  let (result, chat) := await answer Client.finishSend network begun
  let (ok, out) := reportSend result
  (ok, out, chat)

/-- Ends a call that loads the history, and prints it. -/
def completeLoad (answer : Network σ) (network : σ)
    (begun : Begun HistoryTicket (Except FetchError (List Entry)) × Client) : Bool × String × Chat σ :=
  let (result, chat) := await answer Client.finishLoad network begun
  let (ok, out) := reportHistory result
  (ok, out, chat)

def ask (answer : Network σ) (now : Time.Instant) (prompt : String) (chat : Chat σ) :
    Bool × String × Chat σ :=
  completeSend answer chat.network (chat.client.beginSend now prompt)

def history (answer : Network σ) (now : Time.Instant) (chat : Chat σ) : Bool × String × Chat σ :=
  completeLoad answer chat.network (chat.client.beginEnsure now)

/-- The number of a listed entry, counted from one. -/
def position? (s : String) : Option Nat :=
  match Text.number? Text.limit64 s with
  | some (n + 1) => some n
  | _ => none

/-- The entry that a number in the list stands for. Looking it up brings the conversation up to the
session. -/
def listed? (number : String) (chat : Chat σ) : Option Entry × Chat σ :=
  match position? number with
  | some i => (chat.client.history[i]?, { chat with client := chat.client.sync })
  | none => (none, chat)

def noEntry (number : String) : String := line ("No history entry " ++ number ++ ".")

def select (number : String) (chat : Chat σ) : String × Chat σ :=
  match listed? number chat with
  | (some entry, chat) =>
    match chat.client.select entry with
    | (true, client) => (line (Screen.slot client.current), { chat with client := client.sync })
    | (false, client) => (noEntry number, { chat with client })
  | (none, chat) => (noEntry number, chat)

def delete (number : String) (chat : Chat σ) : String × Chat σ :=
  match listed? number chat with
  | (some entry, chat) =>
    match chat.client.delete entry with
    | (true, client) =>
      (line ("Removed \"" ++ Screen.snippet entry.prompt ++ "\"."), { chat with client })
    | (false, client) => (noEntry number, { chat with client })
  | (none, chat) => (noEntry number, chat)

/-- The chat goes on as long as the session does. -/
def sessionFlow (chat : Chat σ) : Flow :=
  if chat.client.isLoggedIn then .continue else .quit

/-- The words of a command: its name, which may be empty, and its first argument. -/
def commandWords (command : String) : String × Option String :=
  match Text.words command with
  | [] => ("", none)
  | [name] => (name, none)
  | name :: argument :: _ => (name, some argument)

/-- Runs a command. The whole line is shown again if there is no such command. -/
def command (answer : Network σ) (now : Time.Instant) (text : String) (words : String × Option String)
    (chat : Chat σ) : Flow × String × Chat σ :=
  let unknown := line ("Unknown command \x60" ++ text ++ "\x60. \x60:help\x60 lists commands.")
  match words with
  | ("help", _) => (.continue, line helpText, chat)
  | ("history", _) => (.continue, (chat.history answer now).2)
  | ("reload", _) => (.continue, (completeLoad answer chat.network (chat.client.beginLoad now)).2)
  | ("select", some number) => (.continue, select number chat)
  | ("delete", some number) => (.continue, delete number chat)
  | ("redo", _) =>
    let (_, out, chat) := completeSend answer chat.network (chat.client.beginRedo now)
    (chat.sessionFlow, out, chat)
  | ("retry", _) =>
    let (_, out, chat) := completeSend answer chat.network (chat.client.beginRetry now)
    (chat.sessionFlow, out, chat)
  | ("new", _) =>
    (.continue, line (Screen.slot .empty), { chat with client := chat.client.newQuestion })
  | ("logout", _) => (.quit, chat.logout)
  | ("quit", _) | ("q", _) => (.quit, "", chat)
  | _ => (.continue, unknown, chat)

/-- Handles a line: a command after a colon, or a prompt. -/
def handleLine (answer : Network σ) (now : Time.Instant) (text : String) (chat : Chat σ) :
    Flow × String × Chat σ :=
  let text := Text.trim text
  if text = "" then (.continue, "", chat)
  else match Text.afterLead? ":" text with
    | some rest => command answer now text (commandWords rest) chat
    | none =>
      let (_, out, chat) := chat.ask answer now text
      (chat.sessionFlow, out, chat)

/-- Begins a chat: the history is listed first. There is no chat without a session. The clock is read for
the session, and again for the history. -/
def enter (answer : Network σ) (clock : Time.Clock) (chat : Chat σ) : Flow × String × Chat σ :=
  let (valid, client) := chat.client.ensureValid (clock 0)
  let chat := { chat with client }
  if valid then
    let (_, out, chat) := chat.history answer (clock 1)
    (.continue, line "Connected. \x60:help\x60 lists commands." ++ out, chat)
  else (.quit, line (Screen.status client.session.status none), chat)

end Chat

end ChatClient
