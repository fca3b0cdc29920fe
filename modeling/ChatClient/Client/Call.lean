import ChatClient.Client.Basic

/-!
Every call of a client under one type, with its ticket and its outcome. Calls in flight can so be kept
side by side, whatever they are.
-/
namespace ChatClient

inductive Call
  | login (email password : String)
  | register (registration : Registration)
  | send (text : String)
  | redo
  | retry
  | load
  | ensure

/-- What a call holds while it waits for its reply. -/
inductive Ticket
  | login
  | register
  | prompt (ticket : PromptTicket)
  | history (ticket : HistoryTicket)

inductive Outcome
  | auth (result : Except AuthError Unit)
  | entry (result : Except SendError Entry)
  | entries (result : Except FetchError (List Entry))

def Begun.map (f : τ → σ) (g : α → β) : Begun τ α → Begun σ β
  | .done result => .done (g result)
  | .waiting request ticket => .waiting request (f ticket)

namespace Client

/-- Runs a call up to its request. -/
def begin (now : Time.Instant) (call : Call) (c : Client) : Begun Ticket Outcome × Client :=
  let prompt : Begun PromptTicket (Except SendError Entry) × Client → Begun Ticket Outcome × Client :=
    Prod.map (Begun.map .prompt .entry) id
  let history : Begun HistoryTicket (Except FetchError (List Entry)) × Client →
      Begun Ticket Outcome × Client := Prod.map (Begun.map .history .entries) id
  match call with
  | .login email password => (.waiting (c.session.loginRequest email password) .login, c)
  | .register registration => (.waiting (c.session.registerRequest registration) .register, c)
  | .send text => prompt (c.beginSend now text)
  | .redo => prompt (c.beginRedo now)
  | .retry => prompt (c.beginRetry now)
  | .load => history (c.beginLoad now)
  | .ensure => history (c.beginEnsure now)

/-- Runs a call to its end, once its reply is there. -/
def finish (ticket : Ticket) (reply : Http.Reply) (c : Client) : Outcome × Client :=
  match ticket with
  | .login => Prod.map .auth id (c.finishLogin reply)
  | .register => (.auth (Session.registered reply), c)
  | .prompt ticket => Prod.map .entry id (c.finishSend ticket reply)
  | .history ticket => Prod.map .entries id (c.finishLoad ticket reply)

end Client

end ChatClient
