import ChatClient.Proofs.Changes

/-!
The generation of the session counts the changes of the session, one by one. From it follows what holds
of the calls in flight: nothing waits for a session that is still to come, a call of the session that is
on finds its user logged in, no two calls share a request, and the slot waits for a prompt of the session
that its conversation belongs to.
-/
namespace ChatClient

open Client (Begins Finishes)

/-- Whether a call gets as far as checking the session. -/
def Client.checks (c : Client) (call : Call) : Bool :=
  call.loads || (c.prompt? call).any (!Text.isBlank ·)

/-- Whether an event changes the session: a login that is accepted, a logout, a check that finds the
token no longer good, and a refusal of a request that was sent in this session. -/
def World.turns (w : World) : Event → Bool
  | .logout => true
  | .ensureValid => w.client.session.expired w.now
  | .begin _ call => w.client.checks call && w.client.session.expired w.now
  | .reply name reply =>
    match w.inFlight name with
    | some .login => (w.client.finishLogin reply).1.isOk
    | some (.prompt t) => t.generation = w.client.session.generation && reply.refuses
    | some (.history t) => t.generation = w.client.session.generation && reply.refuses
    | _ => false
  | _ => false

namespace Client

@[simp] theorem withTokens_generation (tokens : Token.Store) (c : Client) :
    (c.withTokens tokens).session.generation = c.session.generation := rfl

@[simp] theorem opened_session (call : Call) (c : Client) : (c.opened call).session = c.session := by
  unfold opened; split <;> rfl

theorem checked_generation (now : Time.Instant) (c : Client) :
    (c.checked now).session.generation =
      c.session.generation + if c.session.expired now then 1 else 0 := by
  unfold checked; split <;> rfl

theorem logoutIf_generation (refused : Bool) (c : Client) :
    (c.logoutIf refused).session.generation = c.session.generation + if refused then 1 else 0 := by
  cases refused <;> rfl

theorem Begins.generation {c c' : Client} (h : Begins now c call begun c') :
    c'.session.generation =
      c.session.generation + if c.checks call && c.session.expired now then 1 else 0 := by
  cases h with
  | login | register => simp [checks, prompt?, Call.loads]
  | missing hr hp => simp [checks, hp, Call.resends_not_loads hr]
  | blank hp hb =>
    have hl : call.loads = false := by cases call <;> first | rfl | cases hp
    simp [checks, hp, hl, hb]
  | unusable hp hb hu => simp [checks, hp, hb, checked_generation]
  | shut hl hu => simp [checks, hl, checked_generation]
  | asked _ _ hu => simp [asking, Session.usable_not_expired hu]
  | loading _ hu _ => simp [Session.usable_not_expired hu]
  | cached hu _ => simp [Session.usable_not_expired hu]

end Client

namespace World

/-- The generation rises by one with each change of the session, and with nothing else. -/
theorem Steps.generation {w w' : World} (h : Steps w e o w') :
    w'.client.session.generation = w.client.session.generation + if w.turns e then 1 else 0 := by
  cases h with
  | done hb | sent hb => simpa [turns] using hb.generation
  | finished hk hf =>
    simp only [turns, hk, keep_client, withClient_client]
    cases hf with
    | loggedIn hi hs =>
      simp [Client.finishLogin, Session.finishLogin, hi, hs, Except.isOk, Except.toBool,
        Session.transition]
    | rejected hf => simp [hf, Except.isOk, Except.toBool]
    | registered => simp
    | superseded hg _ | failed hg _ _ | unfetched hg _ => simp [hg, Client.logoutIf_generation]
    | answered hg _ ha => simp [Client.answered, Client.answered_not_refused ha]
    | fetched hg hf => simp [Client.fetched_not_refused hf]
    | cancelled hg | dropped hg => simp [Ne.symm hg]
  | unknown hk => simp [turns, hk]
  | checked => exact Client.checked_generation w.now w.client
  | _ => simp [turns, Client.logout, Client.forgetToken, Session.forgetToken]

/-- A login that is accepted begins a session of its own, and leaves the conversation to be wiped. -/
theorem login_accepted {v w : World} (hk : v.inFlight n = some .login)
    (hs : v.step (.reply n reply) = (.ended (.auth (.ok ())), w)) :
    w.client.isLoggedIn = true ∧
      w.client.session.generation = v.client.session.generation + 1 ∧
      w.client.conversation = v.client.conversation := by
  obtain ⟨outcome, c, hs', hf⟩ := step_reply hk reply
  obtain ⟨ho, rfl⟩ := Prod.mk.inj (hs.symm.trans hs')
  cases hf with
  | rejected => cases ho
  | loggedIn => exact ⟨rfl, rfl, rfl⟩

theorem after_generation (es : List Event) (w : World) :
    (w.after es).client.session.generation = w.client.session.generation + w.times turns es := by
  induction es generalizing w with
  | nil => rfl
  | cons e es ih => rw [after, ih, (step_steps e w).generation, times]; omega

end World

namespace Client

/-- The same client before and after some events. -/
structure Later (c c' : Client) : Prop where
  generation : c.session.generation ≤ c'.session.generation
  status : c'.session.generation = c.session.generation → c'.isLoggedIn = c.isLoggedIn
  request : c.nextRequest ≤ c'.nextRequest

theorem Later.of_session {c c' : Client} (hg : c'.session.generation = c.session.generation)
    (hs : c'.session.status = c.session.status) (hn : c.nextRequest ≤ c'.nextRequest) :
    Later c c' :=
  ⟨Nat.le_of_eq hg.symm, fun _ => by simp [isLoggedIn, Session.isLoggedIn, hs], hn⟩

theorem Later.of_turn {c c' : Client} (hg : c'.session.generation = c.session.generation + 1)
    (hn : c.nextRequest ≤ c'.nextRequest) : Later c c' :=
  ⟨by omega, fun he => absurd (hg.symm.trans he) (Nat.succ_ne_self _), hn⟩

theorem Later.trans {a b c : Client} (h : Later a b) (h' : Later b c) : Later a c := by
  obtain ⟨hg, hs, hn⟩ := h
  obtain ⟨hg', hs', hn'⟩ := h'
  refine ⟨Nat.le_trans hg hg', fun he => ?_, Nat.le_trans hn hn'⟩
  rw [hs' (by omega), hs (by omega)]

theorem Later.opened (call : Call) (c : Client) : Later c (c.opened call) := by
  unfold Client.opened
  split <;> exact .of_session rfl rfl (Nat.le_refl _)

theorem Later.checked (now : Time.Instant) (c : Client) : Later c (c.checked now) := by
  unfold Client.checked
  split
  · exact .of_turn rfl (Nat.le_refl _)
  · exact .of_session rfl rfl (Nat.le_refl _)

theorem Later.logoutIf (refused : Bool) (c : Client) : Later c (c.logoutIf refused) := by
  cases refused with
  | false => exact .of_session rfl rfl (Nat.le_refl _)
  | true => exact .of_turn rfl (Nat.le_refl _)

theorem Later.modify (f : Conversation → Conversation) (c : Client) : Later c (c.modify f) :=
  .of_session rfl rfl (Nat.le_refl _)

theorem Begins.later {c c' : Client} (h : Begins now c call begun c') : Later c c' := by
  cases h with
  | blank => exact .opened call c
  | unusable => exact (Later.opened call c).trans (.checked now _)
  | asked => exact .of_session rfl rfl (Nat.le_succ _)
  | shut => exact .checked now c
  | _ => exact .of_session rfl rfl (Nat.le_refl _)

/-- A call just begun belongs to the session that is on. -/
theorem Begins.ticket_generation {c c' : Client} (h : Begins now c call (.waiting request t) c')
    (hg : t.generation? = some g) :
    g = c'.session.generation ∧ c'.isLoggedIn = true := by
  cases h with
  | login | register => cases hg
  | asked _ _ hu | loading _ hu _ =>
    cases hg
    exact ⟨rfl, Session.usable_loggedIn hu⟩

theorem Begins.ticket_request {c c' : Client} (h : Begins now c call (.waiting request (.prompt t)) c') :
    t.request = c.nextRequest ∧ c'.nextRequest = c.nextRequest + 1 := by
  cases h
  exact ⟨rfl, rfl⟩

theorem Begins.ticket_begun {c c' : Client} (h : Begins now c call (.waiting request (.prompt t)) c') :
    t.generation = c.session.generation := by
  cases h
  rfl

/-- A load just begun counts the answers from the next one on. -/
theorem Begins.ticket_mark {c c' : Client} (h : Begins now c call (.waiting request (.history t)) c') :
    t.mark = c'.conversation.nextInsert := by
  cases h
  rfl

theorem Finishes.later {c c' : Client} (h : Finishes c ticket reply outcome c') : Later c c' := by
  cases h with
  | loggedIn => exact .of_turn rfl (Nat.le_refl _)
  | superseded => exact (Later.modify id c).trans (.logoutIf _ _)
  | failed | unfetched => exact (Later.modify _ c).trans (.logoutIf _ _)
  | _ => exact .of_session rfl rfl (Nat.le_refl _)

end Client

namespace World

theorem Steps.later {w w' : World} (h : Steps w e o w') : Client.Later w.client w'.client := by
  cases h with
  | done hb | sent hb => exact hb.later
  | finished _ hf => exact hf.later
  | loggedOut => exact .of_turn rfl (Nat.le_refl _)
  | checked => exact .checked _ _
  | _ => exact .of_session rfl rfl (Nat.le_refl _)

/-- What keeps calls and sessions apart. -/
structure Coherent (w : World) : Prop where
  synced : w.client.conversation.generation ≤ w.client.session.generation
  shown : ∀ r, w.client.conversation.current.awaits r = true → r < w.client.nextRequest
  begun : ∀ n t g, w.inFlight n = some t → t.generation? = some g →
    g ≤ w.client.session.generation ∧
    (w.client.session.generation = g → w.client.isLoggedIn = true)
  requests : ∀ n t, w.inFlight n = some (.prompt t) → t.request < w.client.nextRequest
  distinct : ∀ m n s t, w.inFlight m = some (.prompt s) → w.inFlight n = some (.prompt t) →
    s.request = t.request → m = n

theorem Coherent.start (tokens : Token.Store) (now : Time.Instant) :
    Coherent (.start tokens now) where
  synced := Nat.le_refl _
  shown := by simp [World.start, Client.start, Conversation.start, Slot.awaits]
  begun := by simp [World.start]
  requests := by simp [World.start]
  distinct := by simp [World.start]

theorem Coherent.step {w w' : World} (hw : Coherent w) (h : Steps w e o w') : Coherent w' where
  synced := by
    have hl := h.later.generation
    have hs := hw.synced
    rcases h.changes.generation with he | he <;> omega
  shown r hr := by
    rcases h.changes.awaits hr with ⟨hb, _⟩ | ⟨rfl, hk, _⟩
    · exact Nat.lt_of_lt_of_le (hw.shown r hb) h.later.request
    · exact hk ▸ Nat.lt_succ_self _
  begun n t g ht hg := by
    rcases h.flight ht with hk | ⟨_, _, _, hb⟩
    · obtain ⟨hle, hin⟩ := hw.begun n t g hk hg
      have hl := h.later.generation
      refine ⟨by omega, fun he => ?_⟩
      rw [h.later.status (by omega)]
      exact hin (by omega)
    · obtain ⟨he, hin⟩ := hb.ticket_generation hg
      exact ⟨Nat.le_of_eq he, fun _ => hin⟩
  requests n t ht := by
    rcases h.flight ht with hk | ⟨_, _, _, hb⟩
    · exact Nat.lt_of_lt_of_le (hw.requests n t hk) h.later.request
    · obtain ⟨he, hn⟩ := hb.ticket_request
      rw [he, hn]
      exact Nat.lt_succ_self _
  distinct m n s t hm hn hr := by
    rcases h.flight hm with hk | ⟨_, _, he, hb⟩ <;> rcases h.flight hn with hk' | ⟨_, _, he', hb'⟩
    · exact hw.distinct m n s t hk hk' hr
    · exact absurd (hr.trans hb'.ticket_request.1) (Nat.ne_of_lt (hw.requests m s hk))
    · exact absurd (hr.symm.trans hb.ticket_request.1) (Nat.ne_of_lt (hw.requests n t hk'))
    · rw [he] at he'
      exact (Event.begin.inj he').1

theorem Reachable.coherent {w : World} (h : Reachable w) : Coherent w :=
  h.invariant .start fun _ _ _ _ hv hs => hv.step hs

/-- What the calls in flight have to do with the conversation. -/
structure Placed (w : World) : Prop where
  marked : ∀ n t, w.inFlight n = some (.history t) → t.mark ≤ w.client.conversation.nextInsert
  shown : ∀ n t, w.inFlight n = some (.prompt t) →
    w.client.conversation.current.awaits t.request = true →
    w.client.conversation.generation = t.generation

theorem Placed.start (tokens : Token.Store) (now : Time.Instant) : Placed (.start tokens now) where
  marked := by simp [World.start]
  shown := by simp [World.start]

theorem Placed.step {w w' : World} (hw : Placed w) (hc : Coherent w) (h : Steps w e o w') :
    Placed w' where
  marked n t ht := by
    rcases h.flight ht with hk | ⟨_, _, _, hb⟩
    · exact Nat.le_trans (hw.marked n t hk) h.changes.nextInsert_le
    · exact Nat.le_of_eq hb.ticket_mark
  shown n t ht ha := by
    -- A prompt that the slot has waited for was in flight before, and one just sent is waited for.
    rcases h.flight ht with hk | ⟨_, _, _, hb⟩ <;> rcases h.changes.awaits ha with ⟨hs, hg⟩ | ⟨hr, _, hg⟩
    · exact hg.trans (hw.shown n t hk hs)
    · exact absurd hr (Nat.ne_of_lt (hc.requests n t hk))
    · exact absurd hb.ticket_request.1 (Nat.ne_of_lt (hc.shown _ hs))
    · exact hg.trans hb.ticket_begun.symm

theorem Reachable.placed {w : World} (h : Reachable w) : Placed w := by
  suffices Coherent w ∧ Placed w from this.2
  apply h.invariant
  · exact fun tokens now => ⟨.start tokens now, .start tokens now⟩
  · exact fun v e o v' ⟨hc, hp⟩ hs => ⟨hc.step hs, hp.step hc hs⟩

end World

end ChatClient
