import ChatClient.Conversation.Slot

/-!
The conversation: the history of one session, newest first, and the current slot. Answers that came in
this session are kept with a number each, so that a history loaded meanwhile does not lose them.
What belongs to an earlier session is dropped when the next one is first looked at.
-/
namespace ChatClient

/-- The generation is that of the session the rest belongs to. The inserted answers are newest first;
their numbers are below `nextInsert`, which stands for a counter of 64 bits as long as fewer than 2 ^ 64 answers
are inserted. -/
structure Conversation where
  generation : Nat
  history : List Entry
  loaded : Bool
  current : Slot
  inserted : List (Nat × Entry)
  nextInsert : Nat
  watched : WatchedSlot

namespace Conversation

/-- A conversation with nothing in it. -/
def start (generation : Nat) : Conversation :=
  ⟨generation, [], false, .empty, [], 0, ⟨.empty, 0⟩⟩

/-- Fills the slot and tells the watchers. -/
def publish (slot : Slot) (c : Conversation) : Conversation :=
  { c with current := slot, watched := c.watched.publish slot }

/-- Forgets the history and the inserted answers. The numbers go on. -/
def reset (c : Conversation) : Conversation :=
  { c with history := [], loaded := false, inserted := [] }

/-- Drops what belongs to an earlier session, once a user is logged in again. -/
def sync (generation : Nat) (loggedIn : Bool) (c : Conversation) : Conversation :=
  if c.generation = generation ∨ loggedIn = false then c
  else { c with generation }.reset.publish .empty

/-- Puts an answered entry at the front of the history. -/
def insert (entry : Entry) (c : Conversation) : Conversation :=
  { c with
    history := entry :: c.history
    inserted := (c.nextInsert, entry) :: c.inserted
    nextInsert := c.nextInsert + 1 }

/-- The answers inserted from the number `mark` on that are still in the history and not among those
fetched, newest first. -/
def kept (mark : Nat) (fetched : List Entry) (c : Conversation) : List Entry :=
  ((c.inserted.filter (mark ≤ ·.1)).map (·.2)).filter
    fun e => c.history.contains e && !fetched.contains e

/-- The fetched history, with the answers before it that came while it was being fetched. -/
def merge (mark : Nat) (fetched : List Entry) (c : Conversation) : List Entry :=
  c.kept mark fetched ++ fetched

/-- Takes over a fetched history. -/
def setFetched (mark : Nat) (fetched : List Entry) (c : Conversation) : Conversation :=
  { c with history := c.merge mark fetched, loaded := true }

/-- Shows an empty history, which is to be loaded again. -/
def dropHistory (c : Conversation) : Conversation :=
  { c with history := [], loaded := false }

/-- Shows an entry of the history, if it is there. -/
def select (entry : Entry) (c : Conversation) : Bool × Conversation :=
  if c.history.contains entry then (true, c.publish (.resolved entry .history)) else (false, c)

/-- Takes the first such entry out of the history, if there is one. -/
def delete (entry : Entry) (c : Conversation) : Bool × Conversation :=
  if c.history.contains entry then (true, { c with history := c.history.erase entry }) else (false, c)

def newQuestion (c : Conversation) : Conversation := c.publish .empty

def clear (c : Conversation) : Conversation := c.reset.publish .empty

/-- Empties the slot if it still waits for a request. -/
def release (request : RequestId) (c : Conversation) : Conversation :=
  if c.current.awaits request then c.publish .empty else c

/-- Fills the slot with what a prompt came to. Only the request that the slot waits for may do so. -/
def settle (request : RequestId) (asked : Entry) (outcome : Except SendError String) (c : Conversation) :
    Except SendError Entry × Conversation :=
  if c.current.awaits request then
    match outcome with
    | .ok answer =>
      let entry := { asked with answer }
      (.ok entry, (c.insert entry).publish (.resolved entry .fresh))
    | .error e => (.error e, c.publish (.failed asked e))
  else (.error .superseded, c)

end Conversation

/-- What a prompt comes to with a reply. -/
def answerOf : Http.Reply → Except SendError String
  | .ok response =>
    if response.isSuccess then
      if response.body = "" then .error .emptyAnswer else .ok response.body
    else if response.isUnauthorized then .error .unauthorized
    else .error (.network response.statusMessage)
  | .error e => .error (.network e.message)

/-- The answered entries in a reply. -/
def fetchedOf : Http.Reply → Except FetchError (List Entry)
  | .ok response =>
    if response.isSuccess then
      match Entry.parsePast? response.body with
      | some entries => .ok (entries.filter (!·.isPending))
      | none => .error (.decode Json.mismatchText)
    else if response.isUnauthorized then .error .unauthorized
    else .error (.network response.statusMessage)
  | .error e => .error (.network e.message)

end ChatClient
