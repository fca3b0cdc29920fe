import ChatClient.Proofs.Generations

/-!
Calls that outlive the session in which they were begun. Whatever reply comes to such a call, it is
cancelled, and all that it may still do is to empty the slot that waits for it.
-/
namespace ChatClient

open Client (Finishes)

/-- What a call of the conversation comes to when its session is over. -/
def Ticket.cancelled? : Ticket → Option Outcome
  | .prompt _ => some (.entry (.error .cancelled))
  | .history _ => some (.entries (.error .cancelled))
  | _ => none

/-- The slot without the prompt of a call. -/
def Ticket.leaves (ticket : Ticket) (slot : Slot) : Slot :=
  match ticket with
  | .prompt t => if slot.awaits t.request then .empty else slot
  | _ => slot

theorem Conversation.release_current (t : PromptTicket) (c : Conversation) :
    (c.release t.request).current = (Ticket.prompt t).leaves c.current := by
  cases h : c.current.awaits t.request <;> simp [release, Ticket.leaves, h, publish]

namespace World

/-- What a call leaves of a world if all it does is to give up its slot. The conversation may be wiped
besides, if it is the first time that it is touched in a new session. -/
structure Untouched (ticket : Ticket) (w w' : World) : Prop where
  session : w'.client.session = w.client.session
  history : w'.client.history = w.client.history
  current : w'.client.current = ticket.leaves w.client.current
  stored :
    w'.client.conversation.history = w.client.conversation.history ∧
      w'.client.conversation.current = ticket.leaves w.client.conversation.current ∨
    (w.client.isLoggedIn = true ∧
      w.client.conversation.generation ≠ w.client.session.generation) ∧
      w'.client.conversation.history = [] ∧ w'.client.conversation.current = .empty

/-- Whether an event is the end of a call begun in a generation, and changes the session. -/
def invalidates (g : Nat) (w : World) : Event → Bool
  | .reply name reply => (w.inFlight name).bind Ticket.generation? = some g &&
      (w.step (.reply name reply)).2.client.session.generation ≠ w.client.session.generation
  | _ => false

theorem Untouched.of_release {w w' : World} (h : w'.client = w.client.modify (·.release t.request)) :
    Untouched (.prompt t) w w' := by
  have hs : (w.client.modify (·.release t.request)).sync = w.client.modify (·.release t.request) :=
    Client.sync_modify (Conversation.release_generation ..)
  constructor
  · rw [h]; rfl
  · rw [h, Client.history, hs]
    exact Conversation.release_history ..
  · rw [h, Client.current, hs]
    exact Conversation.release_current ..
  · rw [h, Client.modify_conversation, Conversation.release_history, Conversation.release_current]
    rcases w.client.sync_conversation with ⟨_, he⟩ | ⟨hg, hl, he⟩
    · rw [he]; exact .inl ⟨rfl, rfl⟩
    · rw [he]; exact .inr ⟨⟨hl, hg⟩, rfl, rfl⟩

theorem Untouched.of_same {w w' : World} (h : w'.client = w.client) :
    Untouched (.history t) w w' := by
  constructor <;> rw [h]
  · rfl
  · exact .inl ⟨rfl, rfl⟩

theorem late_reply {w : World} (hk : w.inFlight n = some ticket) (hg : ticket.generation? = some g)
    (hne : w.client.session.generation ≠ g) (reply : Http.Reply) :
    ∃ outcome, ticket.cancelled? = some outcome ∧
      (w.step (.reply n reply)).1 = .ended outcome ∧
      Untouched ticket w (w.step (.reply n reply)).2 := by
  obtain ⟨outcome, c, hs, hf⟩ := step_reply hk reply
  rw [hs]
  cases hf with
  | cancelled => exact ⟨_, rfl, rfl, .of_release rfl⟩
  | dropped => exact ⟨_, rfl, rfl, .of_same rfl⟩
  | loggedIn | rejected | registered => cases hg
  | superseded h | answered h | failed h | fetched h | unfetched h => cases hg; exact absurd h hne

theorem invalidates_turns {w : World} (h : w.invalidates g e = true) :
    w.client.session.generation = g ∧ w.turns e = true := by
  cases e with
  | reply name reply =>
    simp only [invalidates, Bool.and_eq_true, decide_eq_true_eq, Option.bind_eq_some_iff,
      ne_eq, decide_not, Bool.not_eq_true', decide_eq_false_iff_not] at h
    obtain ⟨⟨ticket, hk, hg⟩, hs⟩ := h
    constructor
    · by_contra hne
      obtain ⟨_, _, _, hu⟩ := late_reply hk hg hne reply
      exact hs (congrArg _ hu.session)
    · rw [(step_steps _ w).generation] at hs
      simpa using hs
  | _ => cases h

/-- The calls of one generation can end their session once, and none that comes after it. -/
theorem times_invalidates (g : Nat) (es : List Event) (w : World) :
    w.times (invalidates g) es ≤ if w.client.session.generation ≤ g then 1 else 0 := by
  induction es generalizing w with
  | nil => exact Nat.zero_le _
  | cons e es ih =>
    have hn := ih (w.step e).2
    have hg := (step_steps e w).generation
    rw [times]
    cases hi : w.invalidates g e with
    | true =>
      obtain ⟨he, ht⟩ := invalidates_turns hi
      simp only [ht, ↓reduceIte] at hg ⊢
      rw [if_neg (by omega)] at hn
      rw [if_pos (by omega)]
      omega
    | false =>
      simp only [Bool.false_eq_true, ↓reduceIte, Nat.zero_add]
      split at hn <;> split <;> omega

/-- A call that outlives its session is cancelled whatever its reply, also by a refusal of its token:
the session is left as it is, and of the conversation only the slot that still waits for the call is
emptied. So the calls of one session end no session but their own, and that at most once. -/
theorem late_replies_discarded :
    (∀ (w : World) n ticket g reply, w.inFlight n = some ticket → ticket.generation? = some g →
      w.client.session.generation ≠ g →
      ∃ outcome, ticket.cancelled? = some outcome ∧
        (w.step (.reply n reply)).1 = .ended outcome ∧
        Untouched ticket w (w.step (.reply n reply)).2) ∧
    ∀ (w : World) g es, w.times (invalidates g) es ≤ 1 := by
  refine ⟨fun w n ticket g reply hk hg hne => late_reply hk hg hne reply, fun w g es => ?_⟩
  have h := times_invalidates g es w
  split at h <;> omega

/-- Somebody has asked, logged out and logged in again, and the answer is still to come. -/
def again : World :=
  (start (.memory (some ".eyJleHAiOjl9.") 0) ⟨0, 0⟩).after
    [.begin 0 (.send "Why?"), .logout, .begin 1 (.login "a@b.com" "x"),
      .reply 1 (.ok ⟨200, ".eyJleHAiOjl9."⟩)]

theorem refusal_after_new_login :
    again.client.isLoggedIn = true ∧ ∃ ticket outcome,
      ticket.cancelled? = some outcome ∧
      (again.step (.reply 0 (.ok ⟨401, ""⟩))).1 = .ended outcome ∧
      Untouched ticket again (again.step (.reply 0 (.ok ⟨401, ""⟩))).2 := by
  have hb : (again.inFlight 0).bind Ticket.generation? = some 0 := by decide +kernel
  obtain ⟨ticket, hk, hg⟩ := Option.bind_eq_some_iff.mp hb
  have hne : again.client.session.generation ≠ 0 := by decide +kernel
  refine ⟨by decide +kernel, ticket, ?_⟩
  exact late_replies_discarded.1 again 0 ticket 0 (.ok ⟨401, ""⟩) hk hg hne

end World

end ChatClient
