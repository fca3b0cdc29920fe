import ChatClient.Backend.Script
import ChatClient.Proofs.Keyed
import Mathlib.Data.List.TakeDrop
import Mathlib.Data.List.TakeWhile

/-!
Which reply of a script comes to which request. What has happened to a backend tells it: for each path, the replies
that were scripted for it and how many of them have been taken, and for each handle, how it was first used. A request
takes the oldest reply of its path that is left, and nothing that happens on other paths matters to it. No two
requests wait for one handle, and every request is logged.
-/
namespace ChatClient.Backend

open Http (Reply Request)

/-- What can happen to a backend: a reply is scripted, at once or with a handle, a request comes, and a handle is
answered or dropped. -/
inductive Event
  | reply (path : String) (reply : Reply)
  | defer (path : String)
  | send (request : Request)
  | respond (handle : Handle) (reply : Reply)
  | drop (handle : Handle)

/-- How a scripted reply comes to the request that takes it. -/
def Scripted.arrival : Scripted → Arrival
  | .ready reply => .now reply
  | .deferred handle => .later handle

namespace Event

def request? : Event → Option Request
  | .send request => some request
  | _ => none

/-- The path that an event is about; a handle is used on none. -/
def path? : Event → Option String
  | .reply path _ | .defer path => some path
  | .send request => some request.route
  | _ => none

/-- Whether a request comes for a path. -/
def asks (path : String) : Event → Bool
  | .send request => request.route = path
  | _ => false

/-- Whether a handle is handed out. -/
def defers : Event → Bool
  | .defer _ => true
  | _ => false

/-- What is scripted for a path, if the next handle is this one. -/
def scripts? (path : String) (next : Handle) : Event → Option Scripted
  | .reply p answer => if p = path then some (.ready answer) else none
  | .defer p => if p = path then some (.deferred next) else none
  | _ => none

/-- What comes through a handle when it is used. -/
def delivers? (handle : Handle) : Event → Option Reply
  | .respond h answer => if h = handle then some answer else none
  | .drop h => if h = handle then some (.error (.request "connection closed")) else none
  | _ => none

theorem scripts?_of_asks {e : Event} (h : e.asks path = true) (next : Handle) : e.scripts? path next = none := by
  cases e with
  | send => rfl
  | _ => cases h

theorem elsewhere {e : Event} (h : e.path? ≠ some path) (next : Handle) :
    e.asks path = false ∧ e.scripts? path next = none := by
  cases e with
  | reply p | defer p =>
    have hp : p ≠ path := fun he => h (congrArg some he)
    exact ⟨rfl, if_neg hp⟩
  | send request =>
    have hp : request.route ≠ path := fun he => h (congrArg some he)
    exact ⟨decide_eq_false hp, rfl⟩
  | respond | drop => exact ⟨rfl, rfl⟩

end Event

/-- How many handles have been handed out in a past, which is a list of events, the last one first. The next handle
has this number. -/
def handed : List Event → Nat
  | [] => 0
  | e :: past => handed past + if e.defers then 1 else 0

/-- The replies that have been scripted for a path, in their order. -/
def scripted (path : String) : List Event → List Scripted
  | [] => []
  | e :: past => scripted path past ++ (e.scripts? path (handed past)).toList

/-- How many of them have been taken: a request for the path takes one, if one is left. -/
def taken (path : String) : List Event → Nat
  | [] => 0
  | e :: past => if e.asks path then min (taken path past + 1) (scripted path past).length else taken path past

/-- What the first use of a handle delivers. Nobody can use a handle before it has been handed out. -/
def firstUse? (handle : Handle) : List Event → Option Reply
  | [] => none
  | e :: past => (firstUse? handle past).or (if handle < handed past then e.delivers? handle else none)

namespace Script

def step (s : Script) : Event → Script
  | .reply path reply => s.reply path reply
  | .defer path => (s.defer path).2
  | .send request => (s.send request).2
  | .respond handle reply => s.respond reply handle
  | .drop handle => s.drop handle

/-- The script after a past. -/
def after : List Event → Script
  | [] => .empty
  | e :: past => (after past).step e

/-- The handles that requests of a past have been told to wait for. -/
def awaited : List Event → List Handle
  | [] => []
  | .send request :: past =>
    match ((after past).send request).1 with
    | .later handle => handle :: awaited past
    | .now _ => awaited past
  | _ :: past => awaited past

/-- A queue is put in place of the one of its path, and the other paths keep theirs. -/
theorem queue_setQueue (path p : String) (queue : List Scripted) (s : Script) :
    (s.setQueue p queue).queue path = if p = path then queue else s.queue path := by
  have hfind := Keyed.find?_replaced Prod.fst path (p, queue) s.queues
  rw [Script.queue, setQueue, hfind, List.find?_cons]
  by_cases hp : p = path
  · simp [hp]
  · simp [hp, Script.queue]

theorem queue_push (path p : String) (x : Scripted) (s : Script) :
    (s.push p x).queue path = s.queue path ++ if p = path then [x] else [] := by
  rw [push, queue_setQueue]
  split
  · rename_i hp
    rw [hp]
  · rw [List.append_nil]

/-- Using a handle changes no queue and leaves the log alone. -/
theorem settle_eq (promise : Promise) (handle : Handle) (s : Script) :
    ∃ promises, promises.length = s.promises.length ∧ s.settle promise handle = { s with promises } := by
  unfold settle
  split
  · exact ⟨_, List.length_set, rfl⟩
  · exact ⟨_, rfl, rfl⟩

/-- A request gets what stands first in the queue of its path, and takes it away. It is logged, whatever it gets. -/
structure Sends (s : Script) (request : Request) (arrival : Arrival) (s' : Script) : Prop where
  arrival : arrival = (s.queue request.route).head?.elim (.now (noRoute request.route)) Scripted.arrival
  queue : ∀ path, s'.queue path = if request.route = path then (s.queue path).tail else s.queue path
  promises : s'.promises = s.promises
  log : s'.log = s.log ++ [request]

theorem send_sends (request : Request) (s : Script) :
    s.Sends request (s.send request).1 (s.send request).2 := by
  let logged : Script := { s with log := s.log ++ [request] }
  have htaken {first : Scripted} {rest : List Scripted} (hq : s.queue request.route = first :: rest) (path : String) :
      (logged.setQueue request.route rest).queue path =
        if request.route = path then (s.queue path).tail else s.queue path := by
    rw [queue_setQueue]
    split
    · rename_i hpath
      rw [← hpath, hq, List.tail_cons]
    · rfl
  rw [send]
  -- The queues of the script are those of the script with the request in its log.
  split
  · rename_i hq
    change s.queue request.route = [] at hq
    refine ⟨by rw [hq]; rfl, fun path => ?_, rfl, rfl⟩
    change s.queue path = _
    split
    · rename_i hpath
      rw [← hpath, hq, List.tail_nil]
    · rfl
  · rename_i reply rest hq
    change s.queue request.route = .ready reply :: rest at hq
    exact ⟨by rw [hq]; rfl, htaken hq, rfl, rfl⟩
  · rename_i handle rest hq
    change s.queue request.route = .deferred handle :: rest at hq
    exact ⟨by rw [hq]; rfl, htaken hq, rfl, rfl⟩

theorem delivered?_congr {s s' : Script} (h : s'.promises = s.promises) (handle : Handle) :
    s'.delivered? handle = s.delivered? handle := by
  rw [delivered?, delivered?, h]

theorem delivered?_defer (path : String) (handle : Handle) (s : Script) :
    (s.defer path).2.delivered? handle = s.delivered? handle := by
  have hpromises : (s.defer path).2.promises = s.promises ++ [.unanswered] := rfl
  rw [delivered?, delivered?, hpromises]
  rcases Nat.lt_trichotomy handle s.promises.length with hlt | heq | hgt
  · rw [List.getElem?_append_left hlt]
  · rw [heq, List.getElem?_concat_length, List.getElem?_eq_none (Nat.le_refl _)]
  · rw [List.getElem?_eq_none (Nat.le_of_lt hgt), List.getElem?_eq_none (by simpa using Nat.succ_le_of_lt hgt)]

/-- A use of a handle counts if the handle is there and has not been used. -/
theorem delivered?_settle {promise : Promise} {delivery : Reply}
    (hp : ∀ s : Script, s.promises[handle]? = some promise → s.delivered? handle = some delivery)
    (h : Handle) (s : Script) :
    (s.settle promise h).delivered? handle = (s.delivered? handle).or
      (if handle < s.promises.length then if h = handle then some delivery else none else none) := by
  by_cases hh : h = handle
  · subst hh
    rcases Nat.lt_or_ge h s.promises.length with hlt | hge
    · rw [if_pos hlt, if_pos rfl]
      cases hs : s.promises[h] with
      | unanswered =>
        have hnone : s.delivered? h = none := by simp [delivered?, hlt, hs]
        have hset : (s.settle promise h).promises[h]? = some promise := by simp [settle, hlt, hs]
        rw [hp _ hset, hnone]
        rfl
      | answered reply => simp [settle, delivered?, hlt, hs]
      | dropped => simp [settle, delivered?, hlt, hs]
    · rw [if_neg (Nat.not_lt_of_le hge), Option.or_none]
      simp [settle, hge]
  · have hother : (s.settle promise h).promises[handle]? = s.promises[handle]? := by
      unfold settle
      split
      · exact List.getElem?_set_ne hh
      · rfl
    rw [delivered?, hother, if_neg hh, ite_self, Option.or_none, delivered?]

theorem step_delivered? (e : Event) (handle : Handle) (s : Script) :
    (s.step e).delivered? handle = (s.delivered? handle).or
      (if handle < s.promises.length then e.delivers? handle else none) := by
  have hunused (he : e.delivers? handle = none) (hs : (s.step e).delivered? handle = s.delivered? handle) :
      (s.step e).delivered? handle = (s.delivered? handle).or
        (if handle < s.promises.length then e.delivers? handle else none) := by
    rw [he, hs, ite_self, Option.or_none]
  cases e with
  | reply path reply => exact hunused rfl (delivered?_congr rfl handle)
  | defer path => exact hunused rfl (delivered?_defer path handle s)
  | send request => exact hunused rfl (delivered?_congr (send_sends request s).promises handle)
  | respond h reply => exact delivered?_settle (fun s hs => by rw [delivered?, hs]) h s
  | drop h => exact delivered?_settle (fun s hs => by rw [delivered?, hs]) h s

theorem step_queue (path : String) (e : Event) (s : Script) :
    (s.step e).queue path = if e.asks path then (s.queue path).tail
      else s.queue path ++ (e.scripts? path s.promises.length).toList := by
  have hsettle (promise : Promise) (h : Handle) : (s.settle promise h).queue path = s.queue path ++ [] := by
    obtain ⟨promises, -, he⟩ := settle_eq promise h s
    rw [he, List.append_nil]
    rfl
  have hpush (p : String) (x : Scripted) :
      (s.push p x).queue path = s.queue path ++ (if p = path then some x else none).toList := by
    rw [queue_push]
    split <;> rfl
  cases e with
  | reply p reply => exact hpush p (.ready reply)
  | defer p => exact hpush p (.deferred s.promises.length)
  | send request =>
    rw [step, (send_sends request s).queue]
    simp [Event.asks, Event.scripts?]
  | respond h reply => exact hsettle _ h
  | drop h => exact hsettle _ h

theorem step_queue_elsewhere {e : Event} (h : e.path? ≠ some path) (s : Script) :
    (s.step e).queue path = s.queue path := by
  obtain ⟨hasks, hscripts⟩ := Event.elsewhere h s.promises.length
  rw [step_queue, hasks, if_neg Bool.false_ne_true, hscripts, Option.toList_none, List.append_nil]

theorem step_promises (e : Event) (s : Script) :
    (s.step e).promises.length = s.promises.length + if e.defers then 1 else 0 := by
  have hsettle (promise : Promise) (h : Handle) : (s.settle promise h).promises.length = s.promises.length := by
    obtain ⟨promises, hlength, he⟩ := settle_eq promise h s
    rw [he, hlength]
  cases e with
  | reply => rfl
  | defer path => exact List.length_append
  | send request => exact congrArg List.length (send_sends request s).promises
  | respond h reply => exact hsettle _ h
  | drop h => exact hsettle _ h

theorem step_log (e : Event) (s : Script) : (s.step e).log = s.log ++ e.request?.toList := by
  have hsettle (promise : Promise) (h : Handle) : (s.settle promise h).log = s.log ++ [] := by
    obtain ⟨promises, -, he⟩ := settle_eq promise h s
    rw [he, List.append_nil]
  cases e with
  | reply | defer => exact (List.append_nil _).symm
  | send request => exact (send_sends request s).log
  | respond h reply => exact hsettle _ h
  | drop h => exact hsettle _ h

theorem after_promises (past : List Event) : (after past).promises.length = handed past := by
  induction past with
  | nil => rfl
  | cons e past ih => rw [after, step_promises, ih, handed]

theorem after_log (past : List Event) : (after past).log = past.reverse.filterMap Event.request? := by
  induction past with
  | nil => rfl
  | cons e past ih =>
    rw [after, step_log, ih, List.reverse_cons, List.filterMap_append]
    cases e <;> rfl

theorem after_delivered? (handle : Handle) (past : List Event) :
    (after past).delivered? handle = firstUse? handle past := by
  induction past with
  | nil => rfl
  | cons e past ih => rw [after, step_delivered?, ih, after_promises, firstUse?]

theorem taken_le (path : String) (past : List Event) : taken path past ≤ (scripted path past).length := by
  induction past with
  | nil => exact Nat.le_refl _
  | cons e past ih =>
    rw [taken, scripted, List.length_append]
    split <;> omega

/-- What is left of the replies of a path is what its queue holds. -/
theorem after_queue (path : String) (past : List Event) :
    (after past).queue path = (scripted path past).drop (taken path past) := by
  induction past with
  | nil => rfl
  | cons e past ih =>
    rw [after, step_queue, ih, after_promises, scripted, taken]
    split
    · rename_i hasks
      rw [Event.scripts?_of_asks hasks, Option.toList_none, List.append_nil, List.tail_drop]
      rcases Nat.le_total (taken path past + 1) (scripted path past).length with hleft | hnone
      · rw [Nat.min_eq_left hleft]
      · rw [Nat.min_eq_right hnone, List.drop_eq_nil_of_le hnone, List.drop_length]
    · rw [List.drop_append_of_le_length (taken_le path past)]

/-- A request gets the oldest reply of its path that has not been taken. -/
theorem after_send (request : Request) (past : List Event) :
    ((after past).send request).1 =
      (scripted request.route past)[taken request.route past]?.elim (.now (noRoute request.route))
        Scripted.arrival := by
  rw [(send_sends request (after past)).arrival, after_queue, List.head?_drop]

section Handles

variable {path path' : String} {past : List Event} {i j : Nat} {x : Scripted}

/-- A reply that has been scripted keeps its place. -/
theorem scripted_stays (e : Event) (h : (scripted path past)[i]? = some x) :
    (scripted path (e :: past))[i]? = some x := by
  obtain ⟨hi, -⟩ := List.getElem?_eq_some_iff.mp h
  rw [scripted, List.getElem?_append_left hi, h]

theorem taken_mono (path : String) (e : Event) (past : List Event) : taken path past ≤ taken path (e :: past) := by
  have hle := taken_le path past
  rw [taken]
  split <;> omega

/-- A reply that is scripted was scripted before, or has just been. -/
theorem scripted_cases (h : (scripted path (e :: past))[i]? = some x) :
    (scripted path past)[i]? = some x ∨
      i = (scripted path past).length ∧ e.scripts? path (handed past) = some x := by
  rw [scripted, List.getElem?_append] at h
  split at h
  · exact .inl h
  · right
    cases hs : e.scripts? path (handed past) with
    | none => simp [hs] at h
    | some y =>
      rw [hs, Option.toList_some, List.getElem?_singleton] at h
      split at h
      · exact ⟨by omega, h⟩
      · cases h

theorem scripts?_deferred {e : Event} (h : e.scripts? path next = some (.deferred handle)) :
    e = .defer path ∧ handle = next := by
  cases e with
  | reply p => simp [Event.scripts?] at h
  | defer p =>
    simp only [Event.scripts?] at h
    split at h
    · rename_i hp
      cases h
      exact ⟨by rw [hp], rfl⟩
    · cases h
  | _ => cases h

theorem deferred_handed (h : (scripted path past)[i]? = some (.deferred handle)) : handle < handed past := by
  induction past generalizing i with
  | nil => cases h
  | cons e past ih =>
    rw [handed]
    rcases scripted_cases h with hbefore | ⟨-, hnew⟩
    · exact Nat.lt_of_lt_of_le (ih hbefore) (Nat.le_add_right ..)
    · obtain ⟨rfl, rfl⟩ := scripts?_deferred hnew
      exact Nat.lt_succ_self _

/-- A handle stands for one reply of one path. -/
theorem deferred_unique (h : (scripted path past)[i]? = some (.deferred handle))
    (h' : (scripted path' past)[j]? = some (.deferred handle)) : path = path' ∧ i = j := by
  induction past generalizing i j with
  | nil => cases h
  | cons e past ih =>
    rcases scripted_cases h with hbefore | ⟨hi, hnew⟩ <;> rcases scripted_cases h' with hbefore' | ⟨hj, hnew'⟩
    · exact ih hbefore hbefore'
    · obtain ⟨-, rfl⟩ := scripts?_deferred hnew'
      exact absurd (deferred_handed hbefore) (Nat.lt_irrefl _)
    · obtain ⟨-, rfl⟩ := scripts?_deferred hnew
      exact absurd (deferred_handed hbefore') (Nat.lt_irrefl _)
    · obtain ⟨he, -⟩ := scripts?_deferred hnew
      obtain ⟨he', -⟩ := scripts?_deferred hnew'
      obtain rfl := Event.defer.inj (he.symm.trans he')
      exact ⟨rfl, hi.trans hj.symm⟩

theorem deferred_of_later {request : Request} (h : ((after past).send request).1 = .later handle) :
    (scripted request.route past)[taken request.route past]? = some (.deferred handle) := by
  rw [after_send] at h
  cases hx : (scripted request.route past)[taken request.route past]? with
  | none => simp [hx] at h
  | some x =>
    cases x with
    | ready => simp [hx, Scripted.arrival] at h
    | deferred h' =>
      simp only [hx, Option.elim_some, Scripted.arrival, Arrival.later.injEq] at h
      rw [h]

/-- A handle that a request waits for belongs to a reply that has been taken. -/
theorem taken_of_awaited {handle : Handle} (h : handle ∈ awaited past) :
    ∃ path i, i < taken path past ∧ (scripted path past)[i]? = some (.deferred handle) := by
  have hkept {e : Event} {past : List Event}
      (hbefore : ∃ path i, i < taken path past ∧ (scripted path past)[i]? = some (.deferred handle)) :
      ∃ path i, i < taken path (e :: past) ∧ (scripted path (e :: past))[i]? = some (.deferred handle) := by
    obtain ⟨path, i, hi, hs⟩ := hbefore
    exact ⟨path, i, Nat.lt_of_lt_of_le hi (taken_mono path e past), scripted_stays e hs⟩
  induction past with
  | nil => cases h
  | cons e past ih =>
    cases e with
    | send request =>
      rw [awaited] at h
      split at h
      · rename_i first hlater
        rcases List.mem_cons.mp h with rfl | hrest
        · have hs := deferred_of_later hlater
          obtain ⟨hleft, -⟩ := List.getElem?_eq_some_iff.mp hs
          refine ⟨request.route, taken request.route past, ?_, scripted_stays _ hs⟩
          rw [taken, if_pos (by simp [Event.asks])]
          omega
        · exact hkept (ih hrest)
      · exact hkept (ih h)
    | reply | defer | respond | drop => exact hkept (ih h)

/-- What a request takes has not been taken by another. -/
theorem awaited_nodup (past : List Event) : (awaited past).Nodup := by
  induction past with
  | nil => exact List.nodup_nil
  | cons e past ih =>
    cases e with
    | send request =>
      rw [awaited]
      split
      · rename_i handle hlater
        refine List.nodup_cons.mpr ⟨fun hbefore => ?_, ih⟩
        obtain ⟨path, i, hi, hs⟩ := taken_of_awaited hbefore
        obtain ⟨rfl, rfl⟩ := deferred_unique hs (deferred_of_later hlater)
        exact Nat.lt_irrefl _ hi
      · exact ih
    | reply | defer | respond | drop => exact ih

end Handles

/-- The route of a request is its path up to the first question mark. -/
theorem route_cut (request : Request) :
    ∃ query, request.path = request.route ++ query ∧ '?' ∉ request.route.toList ∧
      (query = "" ∨ ∃ rest, query = "?" ++ rest) := by
  have hroute : request.route = String.ofList (request.path.toList.takeWhile (· != '?')) := by
    rw [Request.route, Text.cutAt, List.span_eq_takeWhile_dropWhile]
  refine ⟨String.ofList (request.path.toList.dropWhile (· != '?')), ?_, ?_, ?_⟩
  · rw [hroute, ← String.ofList_append, List.takeWhile_append_dropWhile, String.ofList_toList]
  · rw [hroute, String.toList_ofList]
    intro hmem
    have hno := List.mem_takeWhile_imp hmem
    simp at hno
  · cases hrest : request.path.toList.dropWhile (· != '?') with
    | nil => exact .inl rfl
    | cons c rest =>
      right
      have hc := List.head?_dropWhile_not (· != '?') request.path.toList
      rw [hrest] at hc
      obtain rfl : c = '?' := by simpa using hc
      exact ⟨String.ofList rest, by rw [← String.toList_inj]; simp⟩

end Script

/-- What a request has got by now: what came at once, or what its handle has delivered. -/
def Arrival.reply? (s : Script) : Arrival → Option Reply
  | .now reply => some reply
  | .later handle => s.delivered? handle

/-- What a scripted reply comes to: itself, or what the first use of its handle delivers. -/
def Scripted.reply? (past : List Event) : Scripted → Option Reply
  | .ready reply => some reply
  | .deferred handle => firstUse? handle past

namespace Script

theorem reply?_after_send (request : Request) (since past : List Event) :
    let now := since ++ .send request :: past
    ((after past).send request).1.reply? (after now) =
      (scripted request.route past)[taken request.route past]?.elim (some (noRoute request.route))
        (Scripted.reply? now) := by
  intro now
  rw [after_send]
  cases (scripted request.route past)[taken request.route past]? with
  | none => rfl
  | some x =>
    cases x with
    | ready => rfl
    | deferred handle => exact after_delivered? handle now

/-- What becomes of a request that comes after a past. Its route is its path up to the first question mark, and it
takes the oldest reply scripted for this route that has not been taken, or is told that there is none if none is
left. Then it gets this reply, or what the first use of the handle of this reply delivers, before the request or at
any time since, and nothing until then. -/
structure TakesOldest (past : List Event) (request : Request) : Prop where
  route : ∃ query, request.path = request.route ++ query ∧ '?' ∉ request.route.toList ∧
    (query = "" ∨ ∃ rest, query = "?" ++ rest)
  takes : ((after past).send request).1 =
    (scripted request.route past)[taken request.route past]?.elim (.now (noRoute request.route)) Scripted.arrival
  comes : ∀ since, let now := since ++ .send request :: past
    ((after past).send request).1.reply? (after now) =
      (scripted request.route past)[taken request.route past]?.elim (some (noRoute request.route))
        (Scripted.reply? now)

/-- The replies of a path that have not been taken stand in its queue, and what happens on other paths, or to a
handle, leaves them there. -/
structure KeepsRest (past : List Event) (path : String) : Prop where
  bound : taken path past ≤ (scripted path past).length
  rest : (after past).queue path = (scripted path past).drop (taken path past)
  elsewhere : ∀ e : Event, e.path? ≠ some path → ((after past).step e).queue path = (after past).queue path

/-- Whatever has happened to a backend, in any order and on any paths: each request takes the oldest reply that is
left for it, the others stay where they are, a handle is new when it is handed out, no two requests wait for one
handle, and the log holds every request once, in the order in which they came. -/
theorem replies_paired (past : List Event) :
    (∀ request, TakesOldest past request) ∧ (∀ path, KeepsRest past path) ∧
      (∀ path, ((after past).defer path).1 = handed past) ∧ (awaited past).Nodup ∧
      (after past).log = past.reverse.filterMap Event.request? := by
  refine ⟨fun request => ?_, fun path => ?_, fun path => after_promises past, awaited_nodup past, after_log past⟩
  · exact ⟨route_cut request, after_send request past, fun since => reply?_after_send request since past⟩
  · exact ⟨taken_le path past, after_queue path past, fun e he => step_queue_elsewhere he _⟩

/-- Two requests for a path wait for the two handles that were handed out for it. The first handle is dropped later,
the second one has been used before any of them came. -/
theorem handles_out_of_order :
    let before : List Event := [.respond 1 (.ok ⟨200, "two"⟩), .defer "/client", .defer "/client"]
    let first : Request := .get "/client?page=2"
    let second : Request := .get "/client"
    let now : List Event := [.drop 0, .send second, .send first] ++ before
    ((after before).send first).1.reply? (after now) = some (.error (.request "connection closed")) ∧
      ((after (.send first :: before)).send second).1.reply? (after now) = some (.ok ⟨200, "two"⟩) ∧
      (Event.drop 0).path? ≠ some "/client" ∧ ((after now).step (.drop 0)).queue "/client" = [] := by
  intro before first second now
  obtain ⟨htakes, -⟩ := replies_paired before
  obtain ⟨htakes', -⟩ := replies_paired (.send first :: before)
  obtain ⟨-, hkeeps, -⟩ := replies_paired now
  have hpath : (Event.drop 0).path? ≠ some "/client" := nofun
  refine ⟨?_, ?_, hpath, ?_⟩
  · exact ((htakes first).comes [.drop 0, .send second]).trans (by decide +kernel)
  · exact ((htakes' second).comes [.drop 0]).trans (by decide +kernel)
  · rw [(hkeeps "/client").elsewhere _ hpath, (hkeeps "/client").rest]
    exact List.drop_eq_nil_of_le (by decide +kernel)

end Script

end ChatClient.Backend
