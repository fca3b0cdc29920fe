import ChatClient.Proofs.Generations

/-!
What is written down in a conversation: its history, and the answers of the session with their numbers.
The slot is left out. As long as the session stays, an event has one effect on what is written down, or
none, and a run leaves what the effects of its events leave, one after the other.
-/
namespace ChatClient

open Client (Begins Finishes)

/-- What an event can do to what is written down. -/
inductive Effect
  | nothing
  | answered (entry : Entry)
  | fetched (mark : Nat) (entries : List Entry)
  | unfetched
  | deleted (entry : Entry)
  | cleared
deriving DecidableEq

namespace Conversation

def ledger (c : Conversation) : Conversation :=
  { c with generation := 0, current := .empty, watched := ⟨.empty, 0⟩ }

/-- The answers from a number on, newest first. -/
def answersFrom (mark : Nat) (c : Conversation) : List Entry :=
  (c.inserted.filter (mark ≤ ·.1)).map (·.2)

@[simp] theorem ledger_release (r : RequestId) (c : Conversation) :
    (c.release r).ledger = c.ledger := by
  unfold release; split <;> rfl

end Conversation

namespace Effect

def apply : Effect → Conversation → Conversation
  | .nothing, c => c
  | .answered entry, c => c.insert entry
  | .fetched mark entries, c => c.setFetched mark entries
  | .unfetched, c => c.dropHistory
  | .deleted entry, c => { c with history := c.history.erase entry }
  | .cleared, c => c.reset

def answered? : Effect → Option Entry
  | .answered entry => some entry
  | _ => none

def fetched? : Effect → Option (List Entry)
  | .fetched _ entries => some entries
  | _ => none

theorem ledger_apply (f : Effect) (c : Conversation) : (f.apply c).ledger = f.apply c.ledger := by
  cases f <;> rfl

end Effect

/-- The effect of an event, as its output tells it. A call that is cancelled has none. -/
def Event.effect (w : World) : Event → Output → Effect
  | .reply _ _, .ended (.entry (.ok entry)) => .answered entry
  | .reply name r, .ended (.entries (.ok _)) =>
    (match w.inFlight name, fetchedOf r with
      | some (.history t), .ok fetched => .fetched t.mark fetched
      | _, _ => .nothing)
  | .reply _ _, .ended (.entries (.error e)) => if e = .cancelled then .nothing else .unfetched
  | .delete entry, .flag true => .deleted entry
  | .clear, _ => .cleared
  | _, _ => .nothing

namespace World

def effect (w : World) (e : Event) : Effect := e.effect w (w.step e).1

/-- The effects of the events of a run, the last one first. -/
def effects (w : World) : List Event → List Effect
  | [] => []
  | e :: es => (w.step e).2.effects es ++ [w.effect e]

/-- The entries that a run has answered, newest first. -/
def answers (w : World) (es : List Event) : List Entry := (w.effects es).filterMap Effect.answered?

/-- The lists that the loads of a run have brought. -/
def fetches (w : World) (es : List Event) : List (List Entry) :=
  (w.effects es).filterMap Effect.fetched?

theorem effects_append (w : World) (es es' : List Event) :
    w.effects (es ++ es') = (w.after es).effects es' ++ w.effects es := by
  induction es generalizing w with
  | nil => simp [effects, after]
  | cons e es ih => rw [List.cons_append, effects, ih, effects, after, List.append_assoc]

section Through

/-! A run with a known step in it, from `w` to where the step leads and on from there. -/

variable {w v : World} (h : (w.after es).step e = (o, v)) (es' : List Event)
include h

theorem after_through : w.after (es ++ e :: es') = v.after es' := by
  rw [after_append, after, h]

theorem effects_through :
    w.effects (es ++ e :: es') = v.effects es' ++ e.effect (w.after es) o :: w.effects es := by
  rw [effects_append, effects, effect, h, List.append_assoc, List.singleton_append]

theorem times_through {kind : World → Event → Bool} (ht : w.times kind (es ++ e :: es') = 0) :
    kind (w.after es) e = false ∧ v.times kind es' = 0 := by
  rw [times_append, Nat.add_eq_zero_iff, times_cons_eq_zero, h] at ht
  exact ht.2

end Through

end World

/-- A reply cannot say that a load has come too late. -/
theorem Fetches.not_dropped (h : Fetches reply (.error e)) : e ≠ .cancelled := by
  cases h <;> simp

namespace Client

/-- What is written down for the session that is on. -/
def ledger (c : Client) : Conversation := c.sync.conversation.ledger

@[simp] theorem ledger_history (c : Client) : c.ledger.history = c.history := rfl

@[simp] theorem ledger_sync (c : Client) : c.sync.ledger = c.ledger := by simp [ledger]

/-- What an event can do to a conversation: it leaves it as it is, or it brings it up to the session and then
changes it, by an effect on what is written down, and otherwise in the slot only. -/
inductive Writes (c : Client) : Effect → Conversation → Prop
  | idle : Writes c .nothing c.conversation
  | made {g : Conversation → Conversation} {f : Effect} (hg : ∀ d, (g d).generation = d.generation)
      (hf : ∀ d, (g d).ledger = (f.apply d).ledger) : Writes c f (c.modify g).conversation

theorem Writes.shown {g : Conversation → Conversation} {c : Client}
    (hg : ∀ d, (g d).generation = d.generation) (hf : ∀ d, (g d).ledger = d.ledger) :
    c.Writes .nothing (c.modify g).conversation :=
  .made hg hf

theorem Writes.synced (c : Client) : c.Writes .nothing c.sync.conversation :=
  Writes.shown (g := id) (fun _ => rfl) (fun _ => rfl)

theorem Writes.opened (call : Call) (c : Client) : c.Writes .nothing (c.opened call).conversation := by
  rcases c.opened_conversation call with he | he <;> rw [he]
  · exact .idle
  · exact .synced c

theorem Begins.writes {c c' : Client} (h : Begins now c call begun c') :
    c.Writes .nothing c'.conversation := by
  cases h with
  | login | register => exact .idle
  | missing | loading | cached => exact .synced c
  | blank => exact .opened call c
  | unusable => rw [checked_conversation]; exact .opened call c
  | asked => exact Writes.shown (g := (·.publish _)) (fun _ => rfl) (fun _ => rfl)
  | shut => rw [checked_conversation]; exact .idle

/-- What is written down does not change with the session as long as its generation stays. -/
theorem ledger_session {c d : Client} (hl : Later c d)
    (hg : d.session.generation = c.session.generation) (hc : d.conversation = c.conversation) :
    d.ledger = c.ledger := by
  have hs : d.session.isLoggedIn = c.session.isLoggedIn := hl.status hg
  simp only [ledger, sync, hg, hs, hc]

theorem Writes.ledger {c d : Client} (h : c.Writes f d.conversation) (hl : Later c d)
    (hg : d.session.generation = c.session.generation) : d.ledger = f.apply c.ledger := by
  generalize hd : d.conversation = e at h
  cases h with
  | idle => exact ledger_session hl hg hd
  | @made g _ hgen hf =>
    have hm : Later (c.modify g) d := ⟨hl.generation, hl.status, hl.request⟩
    rw [ledger_session hm hg hd, Client.ledger, sync_modify (hgen _), modify_conversation, hf,
      Effect.ledger_apply, Client.ledger]

end Client

namespace World

theorem Steps.writes {w w' : World} (h : Steps w e o w') :
    w.client.Writes (e.effect w o) w'.client.conversation := by
  cases h with
  | done hb | sent hb => exact hb.writes
  | finished hk hf =>
    cases hf with
    | loggedIn | rejected | registered | dropped => exact .idle
    | cancelled => exact .shown (by simp) (by simp)
    | superseded =>
      simp only [keep_client, withClient_client, Client.logoutIf_conversation]
      exact .synced w.client
    | answered => exact .made (fun _ => rfl) (fun _ => rfl)
    | failed =>
      simp only [keep_client, withClient_client, Client.logoutIf_conversation]
      exact .shown (fun _ => rfl) (fun _ => rfl)
    | fetched _ hf =>
      simp only [Event.effect, hk, hf]
      exact .made (fun _ => rfl) (fun _ => rfl)
    | unfetched _ hf =>
      simp only [Event.effect, (hf ▸ fetchedOf_fetches _).not_dropped, ↓reduceIte, keep_client,
        withClient_client, Client.logoutIf_conversation]
      exact .made (fun _ => rfl) (fun _ => rfl)
  | looked | missed | kept => exact .synced w.client
  | selected | newQuestion => exact .shown (fun _ => rfl) (fun _ => rfl)
  | deleted | cleared => exact .made (fun _ => rfl) (fun _ => rfl)
  | checked =>
    rw [withClient_client, Client.checked_conversation]
    exact .idle
  | _ => exact .idle

/-- As long as the session stays, what is written down changes by the effect of each event. -/
theorem Steps.ledger {w w' : World} (h : Steps w e o w') (ht : w.turns e = false) :
    w'.client.ledger = (e.effect w o).apply w.client.ledger := by
  have hg : w'.client.session.generation = w.client.session.generation := by
    simpa [ht] using h.generation
  exact h.writes.ledger h.later hg

/-- A run leaves what the effects of its events leave, one after the other. -/
theorem after_ledger {w : World} (ht : w.times turns es = 0) :
    (w.after es).client.ledger = (w.effects es).foldr Effect.apply w.client.ledger := by
  induction es generalizing w with
  | nil => rfl
  | cons e es ih =>
    obtain ⟨he, hes⟩ := times_cons_eq_zero.mp ht
    rw [after, ih hes, effects, List.foldr_append, (step_steps e w).ledger he]
    rfl

end World

end ChatClient
