import ChatClient.Proofs.EarlierSessions

/-!
How a prompt ends that has been sent. Between the request and the reply anything may happen; what the
prompt comes to depends only on whether the session has changed since, on whether the slot has been
filled with something else since, and on the reply.
-/
namespace ChatClient

open Client (Begins Finishes)

/-- Whether an event fills the slot with something else: a prompt that is sent, an entry chosen from
the history, a new question, a clearing. -/
def Event.fills (c : Client) : Event → Output → Bool
  | .begin _ call, .sent _ => (c.prompt? call).isSome
  | .select _, .flag found => found
  | .newQuestion, _ | .clear, _ => true
  | _, _ => false

def World.displaces (w : World) (e : Event) : Bool := e.fills w.client (w.step e).1

/-- What the slot shows of a prompt that has come to its end. -/
def Slot.settled (asked : Entry) : Except SendError Entry → Slot
  | .ok entry => .resolved entry .fresh
  | .error e => .failed asked e

/-- A reply cannot say that it has come too late. -/
theorem Answers.not_dropped (h : Answers reply said) (f : String → Entry) :
    said.map f ≠ .error .cancelled ∧ said.map f ≠ .error .superseded := by
  cases h <;> simp [Except.map]

theorem Client.sync_logoutIf {c : Client} (h : c.sync = c) (refused : Bool) :
    (c.logoutIf refused).sync = c.logoutIf refused := by
  cases refused with
  | false => exact h
  | true => exact sync_idle (.inr rfl)

theorem Client.current_logoutIf {c : Client} (h : c.sync = c) (refused : Bool) :
    (c.logoutIf refused).current = c.conversation.current := by
  rw [current, sync_logoutIf h, logoutIf_conversation]

namespace World

/-- As long as the session stays, the slot is filled by what displaces a prompt, or by the end of the
prompt that it shows. -/
theorem Steps.slot {w w' : World} (h : Steps w e o w') (hs : w.client.sync = w.client) :
    e.fills w.client o = true ∧
      (∀ r, w'.client.conversation.current.awaits r = true → r = w.client.nextRequest) ∨
    e.fills w.client o = false ∧
      (w'.client.conversation.current = w.client.conversation.current ∨
        ∃ n t reply, e = .reply n reply ∧ w.inFlight n = some (.prompt t) ∧
          w.client.conversation.current.awaits t.request = true) := by
  have hopened (call : Call) : (w.client.opened call).conversation = w.client.conversation := by
    rcases w.client.opened_conversation call with he | he
    · exact he
    · rw [he, hs]
  cases h with
  | done hb =>
    refine .inr ⟨rfl, .inl ?_⟩
    cases hb <;> simp [hs, hopened]
  | sent hb =>
    cases hb with
    | login | register => exact .inr ⟨rfl, .inl rfl⟩
    | asked hp =>
      refine .inl ⟨by simp [Event.fills, hp], fun r hr => ?_⟩
      simpa [Client.asking, Conversation.publish, Slot.awaits, eq_comm] using hr
    | loading hl =>
      exact .inr ⟨by simp [Event.fills, w.client.loads_prompt hl], .inl (by simp [hs])⟩
  | finished hk hf =>
    refine .inr ⟨rfl, ?_⟩
    cases hf with
    | @cancelled t =>
      cases ha : w.client.conversation.current.awaits t.request with
      | true => exact .inr ⟨_, t, _, rfl, hk, ha⟩
      | false => exact .inl (by simp [hs, Conversation.release, ha])
    | answered _ ha | failed _ ha => exact .inr ⟨_, _, _, rfl, hk, hs ▸ ha⟩
    | superseded | unfetched => exact .inl (by simp [hs, Conversation.dropHistory])
    | _ => exact .inl (by simp [hs, Conversation.setFetched, Client.withTokens])
  | selected | newQuestion | cleared =>
    exact .inl ⟨rfl, by simp [Conversation.publish, Slot.awaits]⟩
  | missed | kept | looked | deleted => exact .inr ⟨rfl, .inl (by simp [hs])⟩
  | checked => exact .inr ⟨rfl, .inl (by simp)⟩
  | _ => exact .inr ⟨rfl, .inl rfl⟩

/-- A prompt waits for its answer in the session in which it was sent. The slot may still wait for it,
or may have been filled with something else. -/
structure Waits (n : CallName) (t : PromptTicket) (shown : Bool) (w : World) : Prop where
  kept : w.inFlight n = some (.prompt t)
  session : w.client.session.generation = t.generation
  synced : w.client.conversation.generation = t.generation
  sent : t.request < w.client.nextRequest
  held : shown = true → w.client.conversation.current = .pending t.request t.asked
  displaced : shown = false → w.client.conversation.current.awaits t.request = false

theorem Waits.idle {w : World} (h : Waits n t shown w) : w.client.sync = w.client :=
  Client.sync_idle (.inl (h.synced.trans h.session.symm))

theorem Waits.step {w w' : World} (h : Waits n t shown w) (hc : Coherent w) (hs : Steps w e o w')
    (hn : e.name? ≠ some n) (ht : w.turns e = false) :
    Waits n t (shown && !e.fills w.client o) w' where
  kept := (hs.keeps hn).trans h.kept
  session := by
    rw [hs.generation, ht]
    exact h.session
  synced := by
    rcases hs.changes.generation with he | he
    · exact he.trans h.synced
    · exact he.trans h.session
  sent := Nat.lt_of_lt_of_le h.sent hs.later.request
  held hb := by
    simp only [Bool.and_eq_true, Bool.not_eq_true'] at hb
    obtain ⟨hb, hf⟩ := hb
    have hp := h.held hb
    rcases hs.slot h.idle with ⟨hf', _⟩ | ⟨_, he | ⟨m, s, reply, rfl, hk, ha⟩⟩
    · rw [hf] at hf'; cases hf'
    · exact he.trans hp
    · -- No other call has the request of this one.
      have hr : s.request = t.request := by simpa [hp, Slot.awaits, eq_comm] using ha
      exact absurd (congrArg some (hc.distinct m n s t hk h.kept hr)) hn
  displaced hb := by
    -- What is waited for anew is a later request than this one.
    by_contra ha
    simp only [Bool.not_eq_false] at ha
    have hr : t.request ≠ w.client.nextRequest := Nat.ne_of_lt h.sent
    rcases hs.changes.awaits ha with ⟨ha', _⟩ | ⟨he, _⟩
    · cases hd : shown with
      | false => simp [h.displaced hd] at ha'
      | true =>
        rcases hs.slot h.idle with ⟨_, hf⟩ | ⟨hf, _⟩
        · exact hr (hf _ ha)
        · simp [hd, hf] at hb
    · exact hr he

/-- What a run that does not change the session leaves of a prompt that waits. -/
theorem Waits.after {w : World} (h : Waits n t shown w) (hc : Coherent w)
    (hn : ∀ e ∈ es, e.name? ≠ some n) (ht : w.times turns es = 0) :
    Waits n t (shown && decide (w.times displaces es = 0)) (w.after es) := by
  induction es generalizing w shown with
  | nil => simpa [times, World.after] using h
  | cons e es ih =>
    have hs := step_steps e w
    obtain ⟨ht', hes⟩ := times_cons_eq_zero.mp ht
    have hd : (shown && decide (w.times displaces (e :: es) = 0)) =
        ((shown && !w.displaces e) && decide ((w.step e).2.times displaces es = 0)) := by
      cases hf : w.displaces e <;> simp [times, hf]
    rw [hd]
    apply ih
    · exact h.step hc hs (hn e (by simp)) ht'
    · exact hc.step hs
    · exact fun e' he => hn e' (by simp [he])
    · exact hes

/-- A prompt that is still shown comes to what its reply says, one that is not is superseded. -/
theorem Waits.ends {w : World} (h : Waits n t shown w) (reply : Http.Reply) :
    ∃ result, (w.step (.reply n reply)).1 = .ended (.entry result) ∧
      if shown then
        result = (answerOf reply).map (fun answer => { t.asked with answer }) ∧
        (w.step (.reply n reply)).2.client.current = .settled t.asked result
      else result = .error .superseded := by
  obtain ⟨outcome, c, he, hf⟩ := step_reply h.kept reply
  rw [he]
  have ha (hd : shown = true) : w.client.sync.conversation.current.awaits t.request = true := by
    simp [h.idle, h.held hd, Slot.awaits]
  cases hf with
  | cancelled hg => exact absurd h.session hg
  | superseded _ hs =>
    refine ⟨_, rfl, ?_⟩
    cases hd : shown with
    | true => rw [ha hd] at hs; cases hs
    | false => rfl
  | answered _ hs hr =>
    refine ⟨_, rfl, ?_⟩
    cases hd : shown with
    | true =>
      refine ⟨by simp [hr, Except.map], ?_⟩
      rw [keep_client, withClient_client, Client.answered, Client.current, Client.sync_modify rfl]
      rfl
    | false => rw [h.idle, h.displaced hd] at hs; cases hs
  | failed _ hs hr =>
    refine ⟨_, rfl, ?_⟩
    cases hd : shown with
    | true =>
      refine ⟨by simp [hr, Except.map], ?_⟩
      rw [keep_client, withClient_client, Client.current_logoutIf (Client.sync_modify rfl)]
      rfl
    | false => rw [h.idle, h.displaced hd] at hs; cases hs

theorem sent_of_usable (n : CallName) {call : Call} {w : World} (hp : w.client.prompt? call = some text)
    (hb : Text.isBlank text = false) (hu : w.client.session.usable w.now = true) :
    ∃ request, w.step (.begin n call) = (.sent request, (w.step (.begin n call)).2) := by
  have hs := step_steps (.begin n call) w
  generalize w.step (.begin n call) = r at hs ⊢
  obtain ⟨o, v⟩ := r
  cases hs with
  | sent => exact ⟨_, rfl⟩
  | done hd =>
    cases hd with
    | missing _ hp' => rw [hp'] at hp; cases hp
    | blank hp' hb' => simp_all
    | unusable _ _ hu' | shut _ hu' => rw [hu'] at hu; cases hu
    | cached => cases hp

theorem waits_of_sent {w v : World} (hp : w.client.prompt? call = some text)
    (hb : w.step (.begin n call) = (.sent request, v)) :
    ∃ t, t.asked = .asked text w.now ∧ Waits n t true v := by
  have hs := step_steps (.begin n call) w
  rw [hb] at hs
  clear hb
  cases hs with
  | sent hb =>
    cases hb with
    | login | register => cases hp
    | loading hl => rw [w.client.loads_prompt hl] at hp; cases hp
    | asked hp' _ hu =>
      obtain rfl := Option.some.inj (hp.symm.trans hp')
      have hl : w.client.isLoggedIn = true := Session.usable_loggedIn hu
      have hg : w.client.sync.conversation.generation = w.client.session.generation :=
        w.client.sync_uptodate.resolve_right (by simp [hl])
      refine ⟨⟨w.client.session.generation, w.client.nextRequest, .asked text w.now⟩, rfl, ?_⟩
      exact ⟨by simp, rfl, hg, Nat.lt_succ_self _, fun _ => rfl, by simp⟩

/-- A prompt that has been sent is cancelled exactly if the session has changed before its reply, and
else superseded exactly if the slot has been filled with something else. Otherwise it comes to what
its reply says, and the slot shows it. -/
theorem prompt_comes_to {w v : World} (hw : Reachable w) (hp : w.client.prompt? call = some text)
    (hb : w.step (.begin n call) = (.sent request, v)) (hn : ∀ e ∈ es, e.name? ≠ some n)
    (reply : Http.Reply) :
    ∃ result, ((v.after es).step (.reply n reply)).1 = .ended (.entry result) ∧
      (result = .error .cancelled ↔ 0 < v.times turns es) ∧
      (v.times turns es = 0 →
        (result = .error .superseded ↔ 0 < v.times displaces es)) ∧
      (v.times turns es = 0 → v.times displaces es = 0 →
        (∃ said, Answers reply said ∧
          result = said.map fun answer => { prompt := text, answer, createdAt := w.now }) ∧
        ((v.after es).step (.reply n reply)).2.client.current =
          .settled (.asked text w.now) result) := by
  have hc : Coherent v := (hw.next hb).coherent
  obtain ⟨t, ha, hv⟩ := waits_of_sent hp hb
  by_cases ht : v.times turns es = 0
  · obtain ⟨result, he, hr⟩ := (hv.after hc hn ht).ends reply
    refine ⟨result, he, ?_⟩
    by_cases hd : v.times displaces es = 0
    · simp only [hd, decide_true, Bool.and_self, ↓reduceIte] at hr
      obtain ⟨rfl, hcur⟩ := hr
      have hs := answerOf_answers reply
      rw [ha] at hcur ⊢
      refine ⟨?_, fun _ => ?_, fun _ _ => ⟨⟨_, hs, rfl⟩, hcur⟩⟩
      · simpa [ht] using (hs.not_dropped _).1
      · simpa [hd] using (hs.not_dropped _).2
    · simp only [hd, decide_false, Bool.and_false, Bool.false_eq_true, ↓reduceIte] at hr
      subst hr
      exact ⟨by simp [ht], fun _ => by simp [Nat.pos_of_ne_zero hd], fun _ h => absurd h hd⟩
  · have hk : (v.after es).inFlight n = some (.prompt t) := (after_keeps hn).trans hv.kept
    have hg : (v.after es).client.session.generation ≠ t.generation := by
      rw [after_generation, hv.session]
      omega
    obtain ⟨outcome, ho, he, _⟩ := late_reply hk rfl hg reply
    cases ho
    exact ⟨_, he, by simp [Nat.pos_of_ne_zero ht], fun h => absurd h ht, fun h => absurd h ht⟩

/-- A second prompt takes the slot of the first, although nobody waits for its answer. -/
theorem first_prompt_superseded :
    let w := start (.memory (some ".eyJleHAiOjl9.") 0) ⟨0, 0⟩
    (((w.step (.begin 0 (.send "Why?"))).2.after [.begin 1 (.send "Since when?"), .abandon 1]).step
      (.reply 0 (.ok ⟨200, "Because."⟩))).1 = .ended (.entry (.error .superseded)) := by
  intro w
  have hp : w.client.prompt? (.send "Why?") = some "Why?" := rfl
  have hn : ∀ e ∈ [Event.begin 1 (.send "Since when?"), .abandon 1], e.name? ≠ some 0 := by
    simp [Event.name?]
  obtain ⟨request, hb⟩ := sent_of_usable 0 hp (by decide +kernel) (by decide +kernel)
  obtain ⟨result, he, _, hs, _⟩ := prompt_comes_to (.start ..) hp hb hn (.ok ⟨200, "Because."⟩)
  rw [he, (hs (by decide +kernel)).mpr (by decide +kernel)]

end World

end ChatClient
