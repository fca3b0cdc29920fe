import ChatClient.Client.Call
import Mathlib.Logic.Function.Basic

/-!
Runs of one client. Its calls are kept side by side while they wait, each under the name that whoever
began it chose, so that replies may come in any order, late, or never. A run is a list of events; the
clock and the store of tokens may be changed from outside between any two of them.
-/
namespace ChatClient

abbrev CallName := Nat

/-- A client, the time it reads, and its calls that wait for a reply. -/
structure World where
  client : Client
  now : Time.Instant
  inFlight : CallName → Option Ticket

/-- What can happen next. Logging out stands for the user's wish and for a refusal by the backend. -/
inductive Event
  | tick (now : Time.Instant)
  | outside (tokens : Token.Store)
  | begin (name : CallName) (call : Call)
  | reply (name : CallName) (reply : Http.Reply)
  | abandon (name : CallName)
  | look
  | select (entry : Entry)
  | delete (entry : Entry)
  | newQuestion
  | clear
  | logout
  | forgetToken
  | ensureValid

/-- What is learnt from an event. -/
inductive Output
  | nothing
  | flag (b : Bool)
  | view (current : Slot) (history : List Entry)
  | sent (request : Http.Request)
  | ended (outcome : Outcome)

/-- The call that an event is about. -/
def Event.name? : Event → Option CallName
  | .begin name _ | .reply name _ | .abandon name => some name
  | _ => none

/-- Puts another store of tokens in place. -/
def Client.withTokens (tokens : Token.Store) (c : Client) : Client :=
  { c with session := { c.session with tokens } }

namespace World

/-- A client over a store of tokens, with nothing in flight. -/
def start (tokens : Token.Store) (now : Time.Instant) : World :=
  ⟨.start tokens now, now, fun _ => none⟩

/-- A call that waits under a name; a call that waited there before is dropped. -/
def keep (name : CallName) (ticket : Option Ticket) (w : World) : World :=
  { w with inFlight := Function.update w.inFlight name ticket }

def withClient (c : Client) (w : World) : World := { w with client := c }

def step (e : Event) (w : World) : Output × World :=
  match e with
  | .tick now => (.nothing, { w with now })
  | .outside tokens => (.nothing, w.withClient (w.client.withTokens tokens))
  | .begin name call =>
    match w.client.begin w.now call with
    | (.done outcome, c) => (.ended outcome, w.withClient c)
    | (.waiting request ticket, c) => (.sent request, (w.withClient c).keep name (some ticket))
  | .reply name reply =>
    match w.inFlight name with
    | some ticket =>
      let (outcome, c) := w.client.finish ticket reply
      (.ended outcome, (w.withClient c).keep name none)
    | none => (.nothing, w)
  | .abandon name => (.nothing, w.keep name none)
  | .look => (.view w.client.current w.client.history, w.withClient w.client.sync)
  | .select entry => Prod.map .flag w.withClient (w.client.select entry)
  | .delete entry => Prod.map .flag w.withClient (w.client.delete entry)
  | .newQuestion => (.nothing, w.withClient w.client.newQuestion)
  | .clear => (.nothing, w.withClient w.client.clear)
  | .logout => (.nothing, w.withClient w.client.logout)
  | .forgetToken => (.nothing, w.withClient w.client.forgetToken)
  | .ensureValid => Prod.map .flag w.withClient (w.client.ensureValid w.now)

/-- The world after the events of a list, in order. -/
def after (w : World) : List Event → World
  | [] => w
  | e :: es => (w.step e).2.after es

/-- How many events of a run are of a kind, which may depend on the world that they meet. -/
def times (kind : World → Event → Bool) (w : World) : List Event → Nat
  | [] => 0
  | e :: es => (if kind w e then 1 else 0) + (w.step e).2.times kind es

theorem times_cons_eq_zero {w : World} :
    w.times kind (e :: es) = 0 ↔ kind w e = false ∧ (w.step e).2.times kind es = 0 := by
  cases h : kind w e <;> simp [times, h]

theorem after_append (w : World) (es es' : List Event) :
    w.after (es ++ es') = (w.after es).after es' := by
  induction es generalizing w with
  | nil => rfl
  | cons e es ih => exact ih (w.step e).2

/-- What holds all along a run holds at first, and all along the rest. -/
theorem along_cons (P : World → Prop) {w : World} :
    (∀ pre, pre <+: e :: es → P (w.after pre)) ↔
      P w ∧ ∀ pre, pre <+: es → P ((w.step e).2.after pre) := by
  simp only [List.prefix_cons_iff]
  constructor
  · intro h
    exact ⟨h [] (.inl rfl), fun pre hp => h (e :: pre) (.inr ⟨pre, rfl, hp⟩)⟩
  · rintro ⟨hw, h⟩ pre (rfl | ⟨pre, rfl, hp⟩)
    · exact hw
    · exact h pre hp

theorem times_append (kind : World → Event → Bool) (w : World) (es es' : List Event) :
    w.times kind (es ++ es') = w.times kind es + (w.after es).times kind es' := by
  induction es generalizing w with
  | nil => simp [times, after]
  | cons e es ih => rw [List.cons_append, times, ih, times, after, Nat.add_assoc]

inductive Reachable : World → Prop
  | start (tokens : Token.Store) (now : Time.Instant) : Reachable (.start tokens now)
  | step (e : Event) (hw : Reachable w) : Reachable (w.step e).2

theorem Reachable.next {w v : World} (hw : Reachable w) (h : w.step e = (o, v)) : Reachable v := by
  simpa [h] using hw.step e

theorem Reachable.after {w : World} (hw : Reachable w) (es : List Event) : Reachable (w.after es) := by
  induction es generalizing w with
  | nil => exact hw
  | cons e es ih => exact ih (hw.step e)

end World

end ChatClient
