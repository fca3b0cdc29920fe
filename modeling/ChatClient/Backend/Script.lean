import ChatClient.Http.Message

/-!
A backend that answers from a script. Each path has a queue of replies; a request takes the first one
of its path, or is told that there is none. A reply may be deferred: the request that takes it waits
until its handle is answered or dropped. Every request is logged.
-/
namespace ChatClient.Backend

open Http (Reply Request)

/-- Names a deferred reply. -/
abbrev Handle := Nat

inductive Scripted
  | ready (reply : Reply)
  | deferred (handle : Handle)

/-- What has become of a deferred reply. -/
inductive Promise
  | unanswered
  | answered (reply : Reply)
  | dropped

/-- What a request gets: a reply, or a handle to wait for. -/
inductive Arrival
  | now (reply : Reply)
  | later (handle : Handle)

/-- The promises stand in the order of their handles. -/
structure Script where
  queues : List (String × List Scripted)
  promises : List Promise
  log : List Request

namespace Script

def empty : Script := ⟨[], [], []⟩

/-- The replies that are left for a path. -/
def queue (path : String) (s : Script) : List Scripted :=
  ((s.queues.find? (·.1 = path)).map (·.2)).getD []

def setQueue (path : String) (queue : List Scripted) (s : Script) : Script :=
  { s with queues := (path, queue) :: s.queues.filter (·.1 ≠ path) }

def push (path : String) (scripted : Scripted) (s : Script) : Script :=
  s.setQueue path (s.queue path ++ [scripted])

def reply (path : String) (reply : Reply) (s : Script) : Script :=
  s.push path (.ready reply)

/-- Puts a deferred reply in a queue. Its handle is new. -/
def defer (path : String) (s : Script) : Handle × Script :=
  let handle := s.promises.length
  (handle, { s.push path (.deferred handle) with promises := s.promises ++ [.unanswered] })

/-- Settles a promise, unless that has been done. -/
def settle (promise : Promise) (handle : Handle) (s : Script) : Script :=
  match s.promises[handle]? with
  | some .unanswered => { s with promises := s.promises.set handle promise }
  | _ => s

def respond (reply : Reply) : Handle → Script → Script := settle (.answered reply)

def drop : Handle → Script → Script := settle .dropped

/-- What a handle delivers by now. -/
def delivered? (handle : Handle) (s : Script) : Option Reply :=
  match s.promises[handle]? with
  | some (.answered reply) => some reply
  | some .dropped => some (.error (.request "connection closed"))
  | _ => none

/-- A request for a path with no replies left. -/
def noRoute (path : String) : Reply := .ok ⟨404, "no route for " ++ path⟩

/-- Takes a request. -/
def send (request : Request) (s : Script) : Arrival × Script :=
  let s := { s with log := s.log ++ [request] }
  let path := request.route
  match s.queue path with
  | [] => (.now (noRoute path), s)
  | .ready reply :: rest => (.now reply, s.setQueue path rest)
  | .deferred handle :: rest => (.later handle, s.setQueue path rest)

/-- The reply to a request for which somebody waits. A promise that is not settled by then counts as
dropped, since nobody is left to settle it. -/
def answer (s : Script) (request : Request) : Reply × Script :=
  match s.send request with
  | (.now reply, s) => (reply, s)
  | (.later handle, s) =>
    let s := s.drop handle
    ((s.delivered? handle).getD (noRoute request.route), s)

end Script

end ChatClient.Backend
