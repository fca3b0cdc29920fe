import ChatClient.Proofs.Steps

/-!
When two clients cannot be told apart by what they hold of the last session. Their requests and their
inserted answers may be numbered from different numbers on, and what they hold of earlier sessions may
differ in any way.
-/
namespace ChatClient

open Client (Begins Finishes)

/-- The numbers from which on a client gives out new ones. -/
structure Base where
  request : Nat
  insert : Nat

def Client.base (c : Client) : Base := ⟨c.nextRequest, c.conversation.nextInsert⟩

inductive Slot.Alike (a b : Base) : Slot → Slot → Prop
  | pending : Slot.Alike a b (.pending (a.request + k) entry) (.pending (b.request + k) entry)
  | shown (h : slot.isPending = false) : Slot.Alike a b slot slot

inductive Ticket.Alike (a b : Base) : Ticket → Ticket → Prop
  | login : Ticket.Alike a b .login .login
  | register : Ticket.Alike a b .register .register
  | prompt : Ticket.Alike a b (.prompt ⟨g, a.request + k, asked⟩) (.prompt ⟨g, b.request + k, asked⟩)
  | history : Ticket.Alike a b (.history ⟨g, a.insert + k⟩) (.history ⟨g, b.insert + k⟩)

structure Conversation.Alike (a b : Base) (c d : Conversation) : Prop where
  history : d.history = c.history
  loaded : d.loaded = c.loaded
  current : c.current.Alike a b d.current
  inserted : ∃ answers : List (Nat × Entry), c.inserted = answers.map (Prod.map (a.insert + ·) id) ∧
    d.inserted = answers.map (Prod.map (b.insert + ·) id)
  nextInsert : ∃ k, c.nextInsert = a.insert + k ∧ d.nextInsert = b.insert + k

/-- A conversation with nothing in it, as every session begins. -/
structure Conversation.Wiped (c : Conversation) : Prop where
  history : c.history = []
  loaded : c.loaded = false
  current : c.current = .empty
  inserted : c.inserted = []

namespace Slot.Alike

variable {a b : Base} {s s' : Slot}

theorem symm (h : s.Alike a b s') : s'.Alike b a s := by
  cases h with
  | pending => exact .pending
  | shown h => exact .shown h

theorem redoable (h : s.Alike a b s') : s'.redoable? = s.redoable? := by
  cases h <;> rfl

theorem retryable (h : s.Alike a b s') : s'.retryable? = s.retryable? := by
  cases h <;> rfl

theorem awaits (h : s.Alike a b s') (k : Nat) :
    s'.awaits (b.request + k) = s.awaits (a.request + k) := by
  cases h with
  | pending => simp [Slot.awaits]
  | shown h => cases s <;> first | rfl | cases h

theorem not_awaits (h : s.Alike a b s') (hr : r < a.request) : s.awaits r = false := by
  cases h with
  | pending =>
    simp only [Slot.awaits, decide_eq_false_iff_not]
    exact Nat.ne_of_gt (Nat.lt_of_lt_of_le hr (Nat.le_add_right ..))
  | shown hp => cases s <;> first | rfl | cases hp

theorem empty (h : s.Alike a b .empty) : s = .empty := by
  cases h; rfl

end Slot.Alike

theorem Ticket.Alike.symm {a b : Base} {s t : Ticket} (h : s.Alike a b t) : t.Alike b a s := by
  cases h with
  | login => exact .login
  | register => exact .register
  | prompt => exact .prompt
  | history => exact .history

theorem Ticket.Alike.generation {a b : Base} {s t : Ticket} (h : s.Alike a b t) :
    t.generation? = s.generation? := by
  cases h <;> rfl

namespace Conversation

theorem Wiped.sync {c : Conversation} (h : c.generation ≠ g) : (c.sync g true).Wiped := by
  rcases sync_cases g true c with ⟨h', _⟩ | ⟨_, _, he⟩
  · simp [h] at h'
  · rw [he]; exact ⟨rfl, rfl, rfl, rfl⟩

namespace Alike

variable {a b : Base} {c d : Conversation}

theorem symm (h : c.Alike a b d) : d.Alike b a c where
  history := h.history.symm
  loaded := h.loaded.symm
  current := h.current.symm
  inserted := by
    obtain ⟨answers, hc, hd⟩ := h.inserted
    exact ⟨answers, hd, hc⟩
  nextInsert := by
    obtain ⟨k, hc, hd⟩ := h.nextInsert
    exact ⟨k, hd, hc⟩

theorem wiped (h : c.Alike a b d) (hw : c.Wiped) : d.Wiped where
  history := h.history.trans hw.history
  loaded := h.loaded.trans hw.loaded
  current := by
    have hs := h.current.symm
    rw [hw.current] at hs
    exact hs.empty
  inserted := by
    obtain ⟨answers, hc, hd⟩ := h.inserted
    rw [hw.inserted] at hc
    rw [hd, List.map_eq_nil_iff.mp hc.symm, List.map_nil]

theorem of_wiped (hc : c.Wiped) (hd : d.Wiped)
    (hn : ∃ k, c.nextInsert = a.insert + k ∧ d.nextInsert = b.insert + k) : c.Alike a b d where
  history := hd.history.trans hc.history.symm
  loaded := hd.loaded.trans hc.loaded.symm
  current := by
    rw [hc.current, hd.current]
    exact .shown rfl
  inserted := ⟨[], by simp [hc.inserted], by simp [hd.inserted]⟩
  nextInsert := hn

theorem publish (h : c.Alike a b d) (hs : s.Alike a b s') : (c.publish s).Alike a b (d.publish s') :=
  { h with current := hs }

theorem reset (h : c.Alike a b d) : c.reset.Alike a b d.reset :=
  { h with history := rfl, loaded := rfl, inserted := ⟨[], rfl, rfl⟩ }

theorem insert (h : c.Alike a b d) (e : Entry) : (c.insert e).Alike a b (d.insert e) where
  history := congrArg (e :: ·) h.history
  loaded := h.loaded
  current := h.current
  inserted := by
    obtain ⟨answers, hc, hd⟩ := h.inserted
    obtain ⟨k, hck, hdk⟩ := h.nextInsert
    exact ⟨(k, e) :: answers, by simp [Conversation.insert, hc, hck],
      by simp [Conversation.insert, hd, hdk]⟩
  nextInsert := by
    obtain ⟨k, hck, hdk⟩ := h.nextInsert
    exact ⟨k + 1, by simp [Conversation.insert, hck, Nat.add_assoc],
      by simp [Conversation.insert, hdk, Nat.add_assoc]⟩

theorem withHistory (h : c.Alike a b d) (entries : List Entry) (loaded : Bool) :
    Alike a b { c with history := entries, loaded } { d with history := entries, loaded } :=
  { h with history := rfl, loaded := rfl }

theorem erase (h : c.Alike a b d) (e : Entry) :
    Alike a b { c with history := c.history.erase e } { d with history := d.history.erase e } :=
  { h with history := congrArg (·.erase e) h.history }

/-- A number counts from the same answer on in both conversations. -/
theorem merge (h : c.Alike a b d) (k : Nat) (fetched : List Entry) :
    d.merge (b.insert + k) fetched = c.merge (a.insert + k) fetched := by
  obtain ⟨answers, hc, hd⟩ := h.inserted
  simp only [Conversation.merge, kept, hc, hd, h.history, List.filter_map, List.map_map]
  simp [Function.comp_def]

theorem setFetched (h : c.Alike a b d) (k : Nat) (fetched : List Entry) :
    (c.setFetched (a.insert + k) fetched).Alike a b (d.setFetched (b.insert + k) fetched) := by
  rw [Conversation.setFetched, Conversation.setFetched, h.merge]
  exact h.withHistory _ true

theorem release (h : c.Alike a b d) (k : Nat) :
    (c.release (a.request + k)).Alike a b (d.release (b.request + k)) := by
  rw [Conversation.release, Conversation.release, h.current.awaits]
  split
  · exact h.publish (.shown rfl)
  · exact h

/-- A request from before the numbers of the session is not waited for in it. -/
theorem release_past (h : c.Alike a b d) (hr : r < a.request) : (c.release r).Alike a b d := by
  simpa [Conversation.release, h.current.not_awaits hr] using h

end Alike

end Conversation

/-- The same session, but for how often who watches its status has been told. -/
def Session.Alike (s t : Session) : Prop := ∃ changes, t = { s with changes }

namespace Session.Alike

variable {s t : Session}

theorem symm (h : s.Alike t) : t.Alike s := by
  obtain ⟨_, rfl⟩ := h; exact ⟨s.changes, rfl⟩

theorem usable (h : s.Alike t) (now : Time.Instant) : t.usable now = s.usable now := by
  obtain ⟨_, rfl⟩ := h; rfl

theorem expired (h : s.Alike t) (now : Time.Instant) : t.expired now = s.expired now := by
  obtain ⟨_, rfl⟩ := h; rfl

theorem isLoggedIn (h : s.Alike t) : t.isLoggedIn = s.isLoggedIn := by
  obtain ⟨_, rfl⟩ := h; rfl

theorem generation (h : s.Alike t) : t.generation = s.generation := by
  obtain ⟨_, rfl⟩ := h; rfl

theorem tokens (h : s.Alike t) : t.tokens = s.tokens := by
  obtain ⟨_, rfl⟩ := h; rfl

theorem authorize (h : s.Alike t) (r : Http.Request) : t.authorize r = s.authorize r := by
  obtain ⟨_, rfl⟩ := h; rfl

theorem logout (h : s.Alike t) : s.logout.Alike t.logout := by
  obtain ⟨_, rfl⟩ := h; exact ⟨_, rfl⟩

theorem forgetToken (h : s.Alike t) : s.forgetToken.Alike t.forgetToken := by
  obtain ⟨_, rfl⟩ := h; exact ⟨_, rfl⟩

theorem withTokens (h : s.Alike t) (tokens : Token.Store) :
    Session.Alike { s with tokens } { t with tokens } := by
  obtain ⟨_, rfl⟩ := h; exact ⟨_, rfl⟩

theorem transition (h : s.Alike t) (next : Status) :
    (s.transition next).Alike (t.transition next) := by
  obtain ⟨_, rfl⟩ := h; exact ⟨_, rfl⟩

end Session.Alike

namespace Client

/-- What has come into the conversation since the session of a generation began. -/
def since (g : Nat) (c : Client) : Conversation := c.conversation.sync g true

/-- Nothing in the conversation is older than the session of a generation, or is going to be seen. -/
def Fresh (g : Nat) (c : Client) : Prop := c.isLoggedIn = true ∨ c.conversation.generation = g

/-- Neither client can be told from the other by the session of a generation, which is the one that is
on if there is one. -/
structure Alike (a b : Base) (g : Nat) (c d : Client) : Prop where
  session : c.session.Alike d.session
  request : ∃ k, c.nextRequest = a.request + k ∧ d.nextRequest = b.request + k
  since : (c.since g).Alike a b (d.since g)
  on : c.isLoggedIn = true → c.session.generation = g

/-- The generation of the last session: of the one that is on, or else of the one before. -/
def era (g : Nat) (c : Client) : Nat := if c.isLoggedIn then c.session.generation else g

theorem since_generation (g : Nat) (c : Client) : (c.since g).generation = g :=
  Conversation.sync_generation _

theorem since_nextInsert (g : Nat) (c : Client) :
    (c.since g).nextInsert = c.conversation.nextInsert :=
  Conversation.sync_nextInsert ..

theorem sync_since {c : Client} (hon : c.isLoggedIn = true → c.session.generation = g)
    (hf : c.Fresh g) : c.sync.conversation = c.since g := by
  cases hl : c.isLoggedIn with
  | true =>
    change c.conversation.sync c.session.generation c.isLoggedIn = _
    rw [hl, hon hl]
    rfl
  | false =>
    have hg : c.conversation.generation = g := hf.resolve_left (by simp [hl])
    rw [sync_idle (.inr hl), since, Conversation.sync_idle (.inl hg)]

theorem since_modify {c : Client} {f : Conversation → Conversation}
    (hon : c.isLoggedIn = true → c.session.generation = g) (hf : c.Fresh g)
    (hg : ∀ d, (f d).generation = d.generation) : (c.modify f).since g = f (c.since g) := by
  rw [since, modify_conversation, sync_since hon hf]
  exact Conversation.sync_idle (.inl ((hg _).trans (since_generation g c)))

theorem since_stale {c : Client} (hf : ¬c.Fresh g) : (c.since g).Wiped :=
  .sync fun hg => hf (.inr hg)

theorem sync_stale {c : Client} (hf : ¬c.Fresh g) : c.sync = c :=
  sync_idle (.inr (by simpa using fun hl => hf (.inl hl)))

end Client

/-- A change of the conversation that brings nothing in. -/
structure Conversation.Quiet (f : Conversation → Conversation) : Prop where
  generation : ∀ c, (f c).generation = c.generation
  nextInsert : ∀ c, (f c).nextInsert = c.nextInsert
  wiped : ∀ c, c.Wiped → (f c).Wiped

namespace Conversation.Quiet

theorem nothing : Quiet id := ⟨fun _ => rfl, fun _ => rfl, fun _ h => h⟩

theorem emptied : Quiet (·.publish .empty) :=
  ⟨fun _ => rfl, fun _ => rfl, fun _ h => { h with current := rfl }⟩

theorem cleared : Quiet (·.reset.publish .empty) :=
  ⟨fun _ => rfl, fun _ => rfl, fun _ _ => ⟨rfl, rfl, rfl, rfl⟩⟩

theorem released (r : RequestId) : Quiet (·.release r) where
  generation := release_generation r
  nextInsert := release_nextInsert r
  wiped c h := by simpa [release, h.current, Slot.awaits] using h

theorem deleted (e : Entry) : Quiet fun c => { c with history := c.history.erase e } :=
  ⟨fun _ => rfl, fun _ => rfl, fun _ h => { h with history := by simp [h.history] }⟩

end Conversation.Quiet

namespace Client

/-- What is changed while it is old stays old. -/
theorem since_modify_stale {c : Client} {f : Conversation → Conversation} (hf : ¬c.Fresh g)
    (hg : ∀ d, (f d).generation = d.generation) (hn : ∀ d, (f d).nextInsert = d.nextInsert) :
    ((c.modify f).since g).Wiped ∧
      ((c.modify f).since g).nextInsert = (c.since g).nextInsert := by
  constructor
  · apply Conversation.Wiped.sync
    rw [modify_conversation, hg, sync_stale hf]
    exact fun hg => hf (.inr hg)
  · rw [since_nextInsert, since_nextInsert, modify_conversation, hn, sync_stale hf]

/-- A conversation that is as it was when the session began stays so, even if it holds something of an
earlier session. -/
theorem since_quiet {c : Client} {f : Conversation → Conversation}
    (hon : c.isLoggedIn = true → c.session.generation = g) (hq : Conversation.Quiet f)
    (hw : (c.since g).Wiped) :
    ((c.modify f).since g).Wiped ∧
      ((c.modify f).since g).nextInsert = (c.since g).nextInsert := by
  by_cases hf : c.Fresh g
  · rw [since_modify hon hf hq.generation]
    exact ⟨hq.wiped _ hw, hq.nextInsert _⟩
  · exact since_modify_stale hf hq.generation hq.nextInsert

/-- What a client shows is older than the session of a generation. -/
def Behind (g : Nat) (c : Client) : Prop := ¬c.Fresh g ∧ (c.history ≠ [] ∨ c.current ≠ .empty)

theorem Behind.seen {c : Client} (h : c.Behind g) :
    c.history = c.conversation.history ∧ c.current = c.conversation.current := by
  rw [history, current, sync_stale h.1]
  exact ⟨rfl, rfl⟩

theorem fresh_of_mem {c : Client} (hb : ¬c.Behind g) (hm : e ∈ c.history) : c.Fresh g := by
  by_contra hf
  exact hb ⟨hf, .inl (List.ne_nil_of_mem hm)⟩

theorem shows_nothing {c : Client} (hon : c.isLoggedIn = true → c.session.generation = g)
    (hw : (c.since g).Wiped) (hb : ¬c.Behind g) : c.history = [] ∧ c.current = .empty := by
  by_cases hf : c.Fresh g
  · rw [history, current, sync_since hon hf]
    exact ⟨hw.history, hw.current⟩
  · simpa [Behind, hf] using hb

namespace Alike

variable {a b : Base} {c d : Client}

theorem loggedIn (h : c.Alike a b g d) : d.isLoggedIn = c.isLoggedIn := h.session.isLoggedIn

theorem era (h : c.Alike a b g d) : c.era g = g := by
  unfold Client.era
  split
  · exact h.on (by assumption)
  · rfl

theorem at_era (h : c.Alike a b g d) : c.Alike a b (c.era g) d := by
  rwa [h.era]

theorem symm (h : c.Alike a b g d) : d.Alike b a g c where
  session := h.session.symm
  request := by
    obtain ⟨k, hc, hd⟩ := h.request
    exact ⟨k, hd, hc⟩
  since := h.since.symm
  on hl := h.session.generation.trans (h.on (h.loggedIn ▸ hl))

theorem fresh (h : c.Alike a b g d) (hl : c.isLoggedIn = true) : c.Fresh g ∧ d.Fresh g :=
  ⟨.inl hl, .inl (h.loggedIn.trans hl)⟩

/-- While somebody is logged in, what the clients hold is alike. -/
theorem synced (h : c.Alike a b g d) (hl : c.isLoggedIn = true) :
    c.sync.conversation.Alike a b d.sync.conversation := by
  rw [sync_since h.on (h.fresh hl).1, sync_since h.symm.on (h.fresh hl).2]
  exact h.since

theorem withSession (h : c.Alike a b g d) (hs : Session.Alike s t)
    (hon : s.isLoggedIn = true → s.generation = g) :
    Client.Alike a b g { c with session := s } { d with session := t } :=
  ⟨hs, h.request, h.since, hon⟩

theorem logout (h : c.Alike a b g d) : c.logout.Alike a b g d.logout :=
  h.withSession h.session.logout (by simp)

theorem forgetToken (h : c.Alike a b g d) : c.forgetToken.Alike a b g d.forgetToken :=
  h.withSession h.session.forgetToken h.on

theorem logoutIf (h : c.Alike a b g d) (refused : Bool) :
    (c.logoutIf refused).Alike a b g (d.logoutIf refused) := by
  cases refused with
  | false => exact h
  | true => exact h.logout

theorem withTokens (h : c.Alike a b g d) (tokens : Token.Store) :
    (c.withTokens tokens).Alike a b g (d.withTokens tokens) :=
  h.withSession (h.session.withTokens tokens) h.on

theorem checked (h : c.Alike a b g d) (now : Time.Instant) :
    (c.checked now).Alike a b g (d.checked now) := by
  rw [Client.checked, Client.checked, h.session.expired]
  split
  · exact h.logout
  · exact h

/-- A new session has nothing of the old ones. -/
theorem login (h : c.Alike a b g d) (hc : c.conversation.generation ≤ c.session.generation)
    (hd : d.conversation.generation ≤ d.session.generation) (tokens : Token.Store) :
    Client.Alike a b (c.session.generation + 1)
      { c with session := { c.session with tokens }.transition .authenticated }
      { d with session := { d.session with tokens }.transition .authenticated } where
  session := (h.session.withTokens tokens).transition .authenticated
  request := h.request
  since := by
    rw [h.session.generation] at hd
    refine .of_wiped (.sync (by dsimp only; omega)) (.sync (by dsimp only; omega)) ?_
    obtain ⟨k, hck, hdk⟩ := h.since.nextInsert
    rw [since_nextInsert] at hck hdk
    exact ⟨k, (since_nextInsert ..).trans hck, (since_nextInsert ..).trans hdk⟩
  on _ := rfl

theorem modify (h : c.Alike a b g d) (hf : c.Fresh g ∧ d.Fresh g) {u v : Conversation → Conversation}
    (hu : ∀ e, (u e).generation = e.generation) (hv : ∀ e, (v e).generation = e.generation)
    (ha : (u (c.since g)).Alike a b (v (d.since g))) :
    (c.modify u).Alike a b g (d.modify v) where
  session := h.session
  request := h.request
  since := by
    rw [since_modify h.on hf.1 hu, since_modify h.symm.on hf.2 hv]
    exact ha
  on := h.on

theorem wiped (h : c.Alike a b g d) (hf : ¬(c.Fresh g ∧ d.Fresh g)) :
    (c.since g).Wiped ∧ (d.since g).Wiped := by
  by_cases hc : c.Fresh g
  · have hw := since_stale fun hd => hf ⟨hc, hd⟩
    exact ⟨h.since.symm.wiped hw, hw⟩
  · have hw := since_stale hc
    exact ⟨hw, h.since.wiped hw⟩

theorem quiet (h : c.Alike a b g d) {u v : Conversation → Conversation}
    (hu : Conversation.Quiet u) (hv : Conversation.Quiet v)
    (ha : (u (c.since g)).Alike a b (v (d.since g))) :
    (c.modify u).Alike a b g (d.modify v) := by
  by_cases hf : c.Fresh g ∧ d.Fresh g
  · exact h.modify hf hu.generation hv.generation ha
  · -- One conversation is old and counts as wiped; then the other one is wiped too.
    have hw := h.wiped hf
    obtain ⟨hcw, hcn⟩ := since_quiet h.on hu hw.1
    obtain ⟨hdw, hdn⟩ := since_quiet h.symm.on hv hw.2
    refine ⟨h.session, h.request, .of_wiped hcw hdw ?_, h.on⟩
    rw [hcn, hdn]
    exact h.since.nextInsert

theorem sync (h : c.Alike a b g d) : c.sync.Alike a b g d.sync :=
  h.quiet .nothing .nothing h.since

/-- Clients that are not behind show the same. -/
theorem seen (h : c.Alike a b g d) (hc : ¬c.Behind g) (hd : ¬d.Behind g) :
    d.history = c.history ∧ c.current.Alike a b d.current := by
  by_cases hf : c.Fresh g ∧ d.Fresh g
  · rw [history, history, current, current, sync_since h.on hf.1, sync_since h.symm.on hf.2]
    exact ⟨h.since.history, h.since.current⟩
  · have hw := h.wiped hf
    obtain ⟨hhc, hcc⟩ := shows_nothing h.on hw.1 hc
    obtain ⟨hhd, hcd⟩ := shows_nothing h.symm.on hw.2 hd
    rw [hhc, hhd, hcc, hcd]
    exact ⟨rfl, .shown rfl⟩

/-- A client that is behind shows something, so it cannot show the same as one that is not. -/
theorem unseen (h : c.Alike a b g d) (hc : c.Behind g) (hd : ¬d.Behind g) :
    ¬(d.history = c.history ∧ c.current.Alike a b d.current) := by
  rintro ⟨hh, hs⟩
  have hw := h.wiped fun hf => hc.1 hf.1
  obtain ⟨hn, he⟩ := shows_nothing h.symm.on hw.2 hd
  rw [hn] at hh
  rw [he] at hs
  exact hc.2.elim (fun hne => hne hh.symm) (fun hne => hne hs.empty)

/-- What only brings the conversation up to the session can be left out. -/
theorem of_sync (h : c.Alike a b g d.sync) : c.Alike a b g d := by
  refine ⟨h.session, h.request, ?_, h.on⟩
  have hs : d.sync.since g = d.since g := by
    by_cases hf : d.Fresh g
    · exact since_modify (f := id) h.symm.on hf fun _ => rfl
    · rw [sync_stale hf]
  exact hs ▸ h.since

end Alike

end Client

end ChatClient
