import ChatClient.Proofs.Loading

/-!
The slot does not wait in vain. What it waits for is a prompt in flight, as long as no waiting call is
dropped: whatever the reply of a prompt is and whatever has become of its session, its end leaves the slot
waiting for something else, if for anything.
-/
namespace ChatClient

open Client (Begins Finishes)

/-- Whether an event drops a call that waits: the call is abandoned, or another one is kept under its
name. -/
def World.abandons (w : World) (e : Event) : Bool :=
  match e, (w.step e).1 with
  | .abandon name, _ | .begin name _, .sent _ => (w.inFlight name).isSome
  | _, _ => false

theorem Conversation.release_awaits (r : RequestId) (c : Conversation) :
    (c.release r).current.awaits r = false := by
  cases h : c.current.awaits r with
  | true =>
    rw [release, if_pos h]
    rfl
  | false => simp [release, h]

namespace Client

/-- However a prompt ends, the slot does not wait for it any more. -/
theorem Finishes.not_awaited {c d : Client} (h : Finishes c (.prompt t) reply outcome d) :
    d.conversation.current.awaits t.request = false := by
  cases h with
  | cancelled => exact Conversation.release_awaits ..
  | superseded _ hs => rwa [logoutIf_conversation]
  | answered => rfl
  | failed =>
    rw [logoutIf_conversation]
    rfl

end Client

namespace World

/-- A request is numbered only for a prompt that is sent, and then the slot waits for it. -/
theorem Steps.numbered {w w' : World} (h : Steps w e o w')
    (hk : w'.client.nextRequest = w.client.nextRequest + 1) :
    ∃ n t, w'.inFlight n = some (.prompt t) ∧
      w'.client.conversation.current = .pending t.request t.asked := by
  cases h with
  | sent hb =>
    cases hb with
    | asked => exact ⟨_, _, Function.update_self .., rfl⟩
    | _ => simp at hk
  | done hb => cases hb <;> simp at hk
  | finished _ hf => cases hf <;> simp [Client.answered, Client.withTokens] at hk
  | _ => simp [Client.withTokens, Client.logout, Client.forgetToken] at hk

/-- A call stays in flight until its reply comes, if it is not dropped. -/
theorem Steps.waits {w w' : World} (h : Steps w e o w') (hk : w.inFlight n = some t)
    (ha : w.abandons e = false) : w'.inFlight n = some t ∨ ∃ reply, e = .reply n reply := by
  by_cases hn : e.name? = some n
  · cases e with
    | begin name call =>
      obtain rfl := Option.some.inj hn
      have he := h.step_eq
      cases h with
      | done => exact .inl hk
      | sent => simp [abandons, hk, he] at ha
    | reply name reply =>
      obtain rfl := Option.some.inj hn
      exact .inr ⟨reply, rfl⟩
    | abandon name =>
      obtain rfl := Option.some.inj hn
      simp [abandons, hk] at ha
    | _ => cases hn
  · exact .inl ((h.keeps hn).trans hk)

def Expected (w : World) : Prop :=
  ∀ r entry, w.client.conversation.current = .pending r entry →
    ∃ n t, w.inFlight n = some (.prompt t) ∧ t.request = r ∧ t.asked = entry

theorem Expected.start (tokens : Token.Store) (now : Time.Instant) :
    Expected (.start tokens now) := by
  intro r entry hp
  cases hp

theorem Expected.step {w w' : World} (hw : Expected w) (h : Steps w e o w')
    (ha : w.abandons e = false) : Expected w' := by
  intro r entry hp
  rcases h.changes.pending hp with ⟨hold, _⟩ | ⟨_, hnew, _⟩
  · obtain ⟨n, t, hk, rfl, rfl⟩ := hw r entry hold
    rcases h.waits hk ha with hk' | ⟨reply, rfl⟩
    · exact ⟨n, t, hk', rfl, rfl⟩
    · -- Its own end would have left the slot waiting for something else.
      cases h with
      | unknown hno => rw [hk] at hno; cases hno
      | finished hk' hf =>
        cases hk.symm.trans hk'
        have hno : Slot.awaits t.request (.pending t.request t.asked) = false :=
          hp ▸ hf.not_awaited
        simp [Slot.awaits] at hno
  · obtain ⟨n, t, hk, hc⟩ := h.numbered hnew
    obtain ⟨rfl, rfl⟩ := Slot.pending.inj (hc.symm.trans hp)
    exact ⟨n, t, hk, rfl, rfl⟩

theorem Expected.after {w : World} (hw : Expected w) (ha : w.times abandons es = 0) :
    Expected (w.after es) := by
  induction es generalizing w with
  | nil => exact hw
  | cons e es ih =>
    obtain ⟨he, hes⟩ := times_cons_eq_zero.mp ha
    exact ih (hw.step (step_steps e w) he) hes

/-- At every moment of a run that drops no waiting call: if the slot waits for a request, exactly one
prompt with that request is in flight, and it is the one that the slot shows. So the slot does not wait
when no prompt is in flight. -/
theorem pending_in_flight (tokens : Token.Store) (now : Time.Instant) (es : List Event)
    (ha : (start tokens now).times abandons es = 0) :
    let w := (start tokens now).after es
    (∀ r entry, w.client.conversation.current = .pending r entry →
      ∃! n, ∃ t, w.inFlight n = some (.prompt t) ∧ t.request = r ∧ t.asked = entry) ∧
    ((∀ n t, w.inFlight n ≠ some (.prompt t)) →
      w.client.conversation.current.isPending = false) := by
  intro w
  have hw : Expected w := (Expected.start tokens now).after ha
  have hc : Coherent w := ((Reachable.start tokens now).after es).coherent
  constructor
  · intro r entry hp
    obtain ⟨n, t, hk, hr, he⟩ := hw r entry hp
    refine ⟨n, ⟨t, hk, hr, he⟩, ?_⟩
    rintro m ⟨s, hs, hr', -⟩
    exact hc.distinct m n s t hs hk (hr'.trans hr.symm)
  · intro hno
    cases hcur : w.client.conversation.current with
    | pending r entry =>
      obtain ⟨n, t, hk, _⟩ := hw r entry hcur
      exact absurd hk (hno n t)
    | _ => rfl

/-- A prompt has outlived its session, and the slot waits for one of the next session. When that has ended
too, although it could not be sent, the slot waits for nothing. -/
theorem next_session_pending :
    let es := [.begin 0 (.send "Why?"), .logout, .begin 1 (.login "a@b.com" "x"),
      .reply 1 (.ok ⟨200, ".eyJleHAiOjl9."⟩), .begin 2 (.send "Since when?"),
      .reply 0 (.ok ⟨200, "Because."⟩)]
    let last := .reply 2 (.error (.request "timed out"))
    (∃! n, ∃ t, (signedIn.after es).inFlight n = some (.prompt t) ∧ t.request = 1 ∧
      t.asked = .asked "Since when?" ⟨0, 0⟩) ∧
    (signedIn.after (es ++ [last])).client.conversation.current.isPending = false := by
  intro es last
  have ha : signedIn.times abandons es = 0 := by decide +kernel
  have ha' : signedIn.times abandons (es ++ [last]) = 0 := by decide +kernel
  have hp : (signedIn.after es).client.conversation.current =
      .pending 1 (.asked "Since when?" ⟨0, 0⟩) := by decide +kernel
  have hidle (n : CallName) : (signedIn.after (es ++ [last])).inFlight n = none := by
    match n with
    | 0 | 1 | 2 => exact Option.isNone_iff_eq_none.mp (by decide +kernel)
    | n + 3 =>
      have hn : ∀ e ∈ es ++ [last], e.name? ≠ some (n + 3) := by simp [es, last, Event.name?]
      exact after_keeps hn
  obtain ⟨hone, _⟩ := pending_in_flight _ _ es ha
  obtain ⟨_, hnone⟩ := pending_in_flight _ _ (es ++ [last]) ha'
  rw [← signedIn] at hone hnone
  refine ⟨hone 1 _ hp, hnone fun n t hk => ?_⟩
  cases (hidle n).symm.trans hk

end World

end ChatClient
