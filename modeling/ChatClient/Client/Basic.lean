import ChatClient.Conversation.Basic
import ChatClient.Session.Login

/-!
The client: a session and its conversation. A call that needs the backend has two halves. The first
runs up to the request and leaves a ticket, the second runs when the reply is there; between them
anything may happen to the client, other calls included. A call that was begun in an earlier session
is cancelled, whatever its reply, and changes nothing but its own slot.
-/
namespace ChatClient

/-- The first half of a call: it is done already, or it waits for the reply to a request. -/
inductive Begun (τ α : Type)
  | done (result : α)
  | waiting (request : Http.Request) (ticket : τ)

/-- What a waiting prompt holds: the generation it was sent in, its slot and its entry. -/
structure PromptTicket where
  generation : Nat
  request : RequestId
  asked : Entry

/-- What a waiting load of the history holds: the generation it was begun in, and the number from which
answers have come since. -/
structure HistoryTicket where
  generation : Nat
  mark : Nat

structure Client where
  session : Session
  conversation : Conversation
  nextRequest : RequestId

namespace Client

/-- A client over a store of tokens. -/
def start (tokens : Token.Store) (now : Time.Instant) : Client :=
  let session := Session.restore tokens now
  ⟨session, .start session.generation, 0⟩

def isLoggedIn (c : Client) : Bool := c.session.isLoggedIn

/-- Brings the conversation up to the session. -/
def sync (c : Client) : Client :=
  { c with conversation := c.conversation.sync c.session.generation c.session.isLoggedIn }

/-- The current slot, as `sync` leaves it. -/
def current (c : Client) : Slot := c.sync.conversation.current

def history (c : Client) : List Entry := c.sync.conversation.history

/-- Changes the conversation after bringing it up to the session. -/
def modify (f : Conversation → Conversation) (c : Client) : Client :=
  { c.sync with conversation := f c.sync.conversation }

/-- Checks the session before it is used. -/
def ensureValid (now : Time.Instant) (c : Client) : Bool × Client :=
  let (valid, session) := c.session.ensureValid now
  (valid, { c with session })

def logout (c : Client) : Client := { c with session := c.session.logout }

/-- Takes the token out of its store, and leaves the session. -/
def forgetToken (c : Client) : Client := { c with session := c.session.forgetToken }

/-- Ends the session if the backend has refused its token. -/
def logoutIf (refused : Bool) (c : Client) : Client :=
  if refused then c.logout else c

def select (entry : Entry) (c : Client) : Bool × Client :=
  let (found, conversation) := c.sync.conversation.select entry
  (found, { c.sync with conversation })

def delete (entry : Entry) (c : Client) : Bool × Client :=
  let (found, conversation) := c.sync.conversation.delete entry
  (found, { c.sync with conversation })

def newQuestion (c : Client) : Client := c.modify Conversation.newQuestion

def clear (c : Client) : Client := c.modify Conversation.clear

/-- Begins to send a prompt: the slot waits for its answer from here on. -/
def beginSend (now : Time.Instant) (text : String) (c : Client) :
    Begun PromptTicket (Except SendError Entry) × Client :=
  if Text.isBlank text then (.done (.error .emptyPrompt), c)
  else
    let (valid, c) := c.ensureValid now
    if valid then
      let request := c.nextRequest
      let asked := Entry.asked text now
      let ticket := ⟨c.session.generation, request, asked⟩
      let c := { c.modify (·.publish (.pending request asked)) with nextRequest := request + 1 }
      (.waiting (c.session.authorize (.postText "/client/use-api" text)) ticket, c)
    else (.done (.error .unauthorized), c)

/-- Ends the sending of a prompt. A refused token ends the session, also for a prompt that is no longer
shown. -/
def finishSend (ticket : PromptTicket) (reply : Http.Reply) (c : Client) :
    Except SendError Entry × Client :=
  if c.session.generation = ticket.generation then
    let outcome := answerOf reply
    let (result, conversation) := c.sync.conversation.settle ticket.request ticket.asked outcome
    (result, { c.sync with conversation }.logoutIf (outcome matches .error .unauthorized))
  else (.error .cancelled, c.modify (·.release ticket.request))

/-- Sends a prompt again, if there is one. -/
def resend (now : Time.Instant) (prompt : Option String) (c : Client) :
    Begun PromptTicket (Except SendError Entry) × Client :=
  match prompt with
  | some prompt => c.sync.beginSend now prompt
  | none => (.done (.error .nothingToResend), c.sync)

/-- Begins to ask again what has been chosen from the history. -/
def beginRedo (now : Time.Instant) (c : Client) : Begun PromptTicket (Except SendError Entry) × Client :=
  c.resend now c.current.redoable?

/-- Begins to send again what has failed. -/
def beginRetry (now : Time.Instant) (c : Client) : Begun PromptTicket (Except SendError Entry) × Client :=
  c.resend now c.current.retryable?

/-- Begins to load the history. -/
def beginLoad (now : Time.Instant) (c : Client) :
    Begun HistoryTicket (Except FetchError (List Entry)) × Client :=
  let (valid, c) := c.ensureValid now
  if valid then
    let c := c.sync
    (.waiting (c.session.authorize (.get "/client"))
      ⟨c.session.generation, c.conversation.nextInsert⟩, c)
  else (.done (.error .notAuthenticated), c)

/-- Ends the loading of the history. -/
def finishLoad (ticket : HistoryTicket) (reply : Http.Reply) (c : Client) :
    Except FetchError (List Entry) × Client :=
  if c.session.generation = ticket.generation then
    match fetchedOf reply with
    | .ok fetched =>
      let c := c.modify (·.setFetched ticket.mark fetched)
      (.ok c.conversation.history, c)
    | .error e => (.error e, (c.modify Conversation.dropHistory).logoutIf (e matches .unauthorized))
  else (.error .cancelled, c)

/-- Begins to load the history unless it has been loaded in this session. -/
def beginEnsure (now : Time.Instant) (c : Client) :
    Begun HistoryTicket (Except FetchError (List Entry)) × Client :=
  let (valid, c) := c.ensureValid now
  if valid then
    let c := c.sync
    if c.conversation.loaded then (.done (.ok c.conversation.history), c) else c.beginLoad now
  else (.done (.error .notAuthenticated), c)

/-- Ends a login. -/
def finishLogin (reply : Http.Reply) (c : Client) : Except AuthError Unit × Client :=
  let (result, session) := c.session.finishLogin reply
  (result, { c with session })

end Client

end ChatClient
