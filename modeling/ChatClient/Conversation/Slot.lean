import ChatClient.Conversation.Entry
import ChatClient.Conversation.Error

/-!
The slot is what the conversation shows now. It is watched: each time it is filled the version of the
watched slot rises, also when the new slot equals the old one.
-/
namespace ChatClient

/-- Tells one sending of a prompt from another. -/
abbrev RequestId := Nat

/-- Where a resolved entry comes from: just answered, or chosen from the history. -/
inductive Origin
  | fresh
  | history
deriving DecidableEq

inductive Slot
  | empty
  | pending (request : RequestId) (entry : Entry)
  | resolved (entry : Entry) (origin : Origin)
  | failed (entry : Entry) (error : SendError)
deriving DecidableEq

namespace Slot

def entry? : Slot → Option Entry
  | .empty => none
  | .pending _ entry | .resolved entry _ | .failed entry _ => some entry

def isPending : Slot → Bool
  | .pending .. => true
  | _ => false

/-- Whether the slot waits for the answer of one request. -/
def awaits (request : RequestId) : Slot → Bool
  | .pending r _ => r = request
  | _ => false

def isFromHistory : Slot → Bool
  | .resolved _ .history => true
  | _ => false

/-- The prompt that can be asked again: one chosen from the history. -/
def redoable? : Slot → Option String
  | .resolved entry .history => some entry.prompt
  | _ => none

/-- The prompt that can be sent again: one that failed. -/
def retryable? : Slot → Option String
  | .failed entry _ => some entry.prompt
  | _ => none

end Slot

/-- The slot as watchers see it. -/
structure WatchedSlot where
  value : Slot
  version : Nat

def WatchedSlot.publish (slot : Slot) (w : WatchedSlot) : WatchedSlot := ⟨slot, w.version + 1⟩

end ChatClient
