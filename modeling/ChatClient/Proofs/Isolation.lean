import ChatClient.Proofs.AlikeRuns

/-!
What a session lets be seen of the sessions before it. Two worlds in which somebody has just logged in
may hold different things from earlier sessions, and calls of earlier sessions may end in each of them
in other ways; the session that has begun does not show it. The conversation is emptied only when it is
first touched in the new session, though, so a session that ends before that leaves to be seen what was
there before.
-/
namespace ChatClient.World

/-- A login has just been accepted, and no other one is under way. -/
structure JustLoggedIn (w : World) : Prop where
  accepted : ∃ v n reply, Reachable v ∧ v.inFlight n = some .login ∧
    v.step (.reply n reply) = (.ended (.auth (.ok ())), w)
  alone : ∀ n, w.inFlight n ≠ some .login

/-- Two worlds after a login that differ only in what is left of earlier sessions. -/
structure Twins (w₁ w₂ : World) : Prop where
  left : JustLoggedIn w₁
  right : JustLoggedIn w₂
  now : w₂.now = w₁.now
  tokens : w₂.client.session.tokens = w₁.client.session.tokens
  generation : w₂.client.session.generation = w₁.client.session.generation
  registering : ∀ n, w₁.inFlight n = some .register ↔ w₂.inFlight n = some .register

/-- Two runs that are the same but for the calls of earlier sessions, which end in each of them on
their own. The number is the generation of the last session. -/
inductive Paired (w₁ w₂ : World) : Nat → World → World → Prop
  | start : Paired w₁ w₂ w₁.client.session.generation w₁ w₂
  | both (h : Paired w₁ w₂ g v₁ v₂) (he : e.Shared w₁.client.session.generation v₁ v₂) :
      Paired w₁ w₂ ((v₁.step e).2.client.era g) (v₁.step e).2 (v₂.step e).2
  | left (h : Paired w₁ w₂ g v₁ v₂) (he : e.Late w₁.client.session.generation v₁) :
      Paired w₁ w₂ g (v₁.step e).2 v₂
  | right (h : Paired w₁ w₂ g v₁ v₂) (he : e.Late w₁.client.session.generation v₂) :
      Paired w₁ w₂ g v₁ (v₂.step e).2

namespace JustLoggedIn

theorem reachable (h : JustLoggedIn w) : Reachable w := by
  obtain ⟨v, n, reply, hv, _, hs⟩ := h.accepted
  exact hv.next hs

/-- All that a world holds when somebody has just logged in is of earlier sessions. -/
theorem earlier (h : JustLoggedIn w) : w.client.isLoggedIn = true ∧
    w.client.conversation.generation < w.client.session.generation ∧
    ∀ n t g, w.inFlight n = some t → t.generation? = some g → g < w.client.session.generation := by
  obtain ⟨v, n, reply, hv, hk, hs⟩ := h.accepted
  have hc := hv.coherent
  have hflight (m t) (ht : w.inFlight m = some t) : v.inFlight m = some t := by
    rcases (step_steps (.reply n reply) v).flight (by rwa [hs]) with hk | ⟨_, _, he, _⟩
    · exact hk
    · cases he
  obtain ⟨hl, hg, hd⟩ := login_accepted hk hs
  rw [hd, hg]
  refine ⟨hl, Nat.lt_succ_of_le hc.synced, fun m t g ht hg => ?_⟩
  exact Nat.lt_succ_of_le (hc.begun m t g (hflight m t ht) hg).1

theorem past (h : JustLoggedIn w) (hk : w.inFlight n = some t) (hr : t ≠ .register) :
    t.Past w.client.session.generation w.client.base := by
  obtain ⟨_, _, hg⟩ := h.earlier
  cases t with
  | login => exact absurd hk (h.alone n)
  | register => exact absurd rfl hr
  | prompt p =>
    refine ⟨⟨_, rfl, hg n _ _ hk rfl⟩, fun q hq => ?_⟩
    cases hq
    exact h.reachable.coherent.requests n p hk
  | history p => exact ⟨⟨_, rfl, hg n _ _ hk rfl⟩, fun q hq => by cases hq⟩

end JustLoggedIn

theorem Twins.alike (h : Twins w₁ w₂) :
    w₁.Alike w₁.client.session.generation w₁.client.base w₂.client.base
      w₁.client.session.generation w₂ := by
  obtain ⟨hl₁, hc₁, _⟩ := h.left.earlier
  obtain ⟨hl₂, hc₂, _⟩ := h.right.earlier
  have hg := h.generation
  refine ⟨h.now, ⟨?_, ⟨0, rfl, rfl⟩, ?_, fun _ => rfl⟩, Nat.le_refl _, fun n => ?_⟩
  · refine ⟨w₂.client.session.changes, ?_⟩
    have hs : w₂.client.session.status = w₁.client.session.status := by
      simp_all [Client.isLoggedIn, Session.isLoggedIn]
    have ht := h.tokens
    cases h₁ : w₁.client.session
    cases h₂ : w₂.client.session
    simp_all
  · refine .of_wiped (.sync (by omega)) (.sync (by omega)) ⟨0, ?_, ?_⟩
    · exact Client.since_nextInsert ..
    · exact Client.since_nextInsert ..
  · by_cases hr : w₁.inFlight n = some .register
    · rw [hr, (h.registering n).mp hr]
      exact .alike .register (by simp [Ticket.Before, Ticket.generation?])
    · refine .past (fun t ht => h.left.past ht ?_) (fun t ht => ?_)
      · rintro rfl
        exact hr ht
      · rw [← hg]
        refine h.right.past ht ?_
        rintro rfl
        exact hr ((h.registering n).mpr ht)

theorem Paired.alike (ht : Twins w₁ w₂) (h : Paired w₁ w₂ g v₁ v₂) :
    Reachable v₁ ∧ Reachable v₂ ∧
      v₁.Alike w₁.client.session.generation w₁.client.base w₂.client.base g v₂ := by
  induction h with
  | start => exact ⟨ht.left.reachable, ht.right.reachable, ht.alike⟩
  | both _ he ih =>
    obtain ⟨hr₁, hr₂, ha⟩ := ih
    exact ⟨hr₁.step _, hr₂.step _, ha.both hr₁.coherent hr₂.coherent he⟩
  | left _ he ih =>
    obtain ⟨hr₁, hr₂, ha⟩ := ih
    exact ⟨hr₁.step _, hr₂, ha.late he⟩
  | right _ he ih =>
    obtain ⟨hr₁, hr₂, ha⟩ := ih
    exact ⟨hr₁, hr₂.step _, (ha.symm.late he).symm⟩

/-- Two runs that begin with a login, and differ only in what is left of earlier sessions, have the same
clock, the same session and the same results, as long as nobody looks at a conversation that is behind:
that has not been touched in the last session, has something to show, and is looked at after the end of
the session. Looking at the conversation tells the runs apart exactly if one of them is behind, or both
are and have not the same to show. -/
theorem sessions_isolated (ht : Twins w₁ w₂) (h : Paired w₁ w₂ g v₁ v₂) :
    (v₂.now = v₁.now ∧ v₂.client.session.tokens = v₁.client.session.tokens ∧
      v₂.client.session.status = v₁.client.session.status ∧
      v₂.client.session.generation = v₁.client.session.generation) ∧
    (∀ e, e.Shared w₁.client.session.generation v₁ v₂ →
      (e.reads = true → ¬v₁.client.Behind g ∧ ¬v₂.client.Behind g) →
      (v₁.step e).1.Alike w₁.client.base w₂.client.base (v₂.step e).1) ∧
    ((v₁.step .look).1.Alike w₁.client.base w₂.client.base (v₂.step .look).1 ↔
      ¬v₁.client.Behind g ∧ ¬v₂.client.Behind g ∨
      v₁.client.Behind g ∧ v₂.client.Behind g ∧
        v₂.client.conversation.history = v₁.client.conversation.history ∧
        v₁.client.conversation.current.Alike w₁.client.base w₂.client.base
          v₂.client.conversation.current) := by
  obtain ⟨hr₁, hr₂, ha⟩ := h.alike ht
  obtain ⟨changes, hs⟩ := ha.client.session
  refine ⟨⟨ha.now, by rw [hs], by rw [hs], by rw [hs]⟩, fun e he hr => ?_, ?_⟩
  · obtain ⟨o, v, hv, ho, _⟩ := ha.steps hr₁.coherent hr₂.coherent (step_steps e v₁) he hr
    rwa [hv.step_eq]
  · change Output.Alike _ _ (.view ..) (.view ..) ↔ _
    rw [Output.Alike.view_iff]
    by_cases h₁ : v₁.client.Behind g <;> by_cases h₂ : v₂.client.Behind g
    · simp only [h₁, h₂, not_true_eq_false, and_self, true_and, false_or]
      rw [h₁.seen.1, h₁.seen.2, h₂.seen.1, h₂.seen.2]
    · simpa [h₁, h₂] using ha.client.unseen h₁ h₂
    · simp only [h₁, h₂, not_true_eq_false, and_false, false_and, or_false, iff_false]
      rintro ⟨hh, hc⟩
      exact ha.client.symm.unseen h₂ h₁ ⟨hh.symm, hc.symm⟩
    · simpa [h₁, h₂] using ha.client.seen h₁ h₂

/-- Somebody logs in. -/
def login (w : World) : World :=
  w.after [.begin 0 (.login "c@d.com" "x"), .reply 0 (.ok ⟨200, ".eyJleHAiOjl9."⟩)]

theorem login_inFlight {w : World} (hw : ∀ n, w.inFlight n = none) (n : CallName) :
    w.login.inFlight n = none := by
  by_cases h : n = 0 <;> simp [login, after, step, Client.begin, h, hw]

theorem login_justLoggedIn {w : World} (hw : Reachable w) (hn : ∀ n, w.inFlight n = none)
    (hg : w.login.client.session.generation ≠ w.client.session.generation) :
    JustLoggedIn w.login := by
  let v := (w.step (.begin 0 (.login "c@d.com" "x"))).2
  have hk : v.inFlight 0 = some .login := by simp [v, step, Client.begin]
  have hl (m : CallName) : w.login.inFlight m ≠ some .login := by simp [login_inFlight hn]
  obtain ⟨outcome, c, hs, hf⟩ := step_reply hk (.ok ⟨200, ".eyJleHAiOjl9."⟩)
  have he : w.login = (v.withClient c).keep 0 none := congrArg Prod.snd hs
  refine ⟨⟨v, 0, .ok ⟨200, ".eyJleHAiOjl9."⟩, hw.step _, hk, ?_⟩, hl⟩
  rw [hs, he]
  cases hf with
  | loggedIn => rfl
  | rejected => exact absurd (congrArg (·.client.session.generation) he) hg

/-- The first session has ended without a word. -/
def unused : World := (start (.memory (some ".eyJleHAiOjl9.") 0) ⟨0, 0⟩).after [.logout]

/-- In the first session a question has been answered. -/
def used : World :=
  (start (.memory (some ".eyJleHAiOjl9.") 0) ⟨0, 0⟩).after
    [.begin 0 (.send "Why?"), .reply 0 (.ok ⟨200, "Because."⟩), .logout]

theorem used_inFlight (n : CallName) : used.inFlight n = none := by
  by_cases h : n = 0
  · subst h
    exact Option.isNone_iff_eq_none.mp (by decide +kernel)
  · rw [used, after_keeps (by simp [Event.name?, Ne.symm h])]
    rfl

theorem used_twins : Twins unused.login used.login where
  left := login_justLoggedIn (w := unused) (.after (.start ..) _) (fun _ => rfl) (by decide +kernel)
  right := login_justLoggedIn (w := used) (.after (.start ..) _) used_inFlight (by decide +kernel)
  now := by decide +kernel
  tokens := by decide +kernel
  generation := by decide +kernel
  registering n := by
    rw [login_inFlight used_inFlight, login_inFlight (w := unused) (fun _ => rfl)]

/-- A look before the end of the session is enough to keep the sessions before it out of sight. -/
theorem touched_session_isolated :
    (((unused.login.step .look).2.step .logout).2.step .look).1.Alike unused.login.client.base
      used.login.client.base (((used.login.step .look).2.step .logout).2.step .look).1 := by
  have hp : Paired unused.login used.login _ ((unused.login.step .look).2.step .logout).2
      ((used.login.step .look).2.step .logout).2 := .both (.both .start trivial) trivial
  refine (sessions_isolated used_twins hp).2.2.mpr (.inl ?_)
  unfold Client.Behind Client.Fresh
  decide +kernel

/-- Without it, the next who looks sees what was asked in the first session. -/
theorem untouched_session_not_isolated :
    Twins unused.login used.login ∧
    Paired unused.login used.login ((unused.login.step .logout).2.client.era 2)
      (unused.login.step .logout).2 (used.login.step .logout).2 ∧
    (unused.login.step .logout).2.client.history = [] ∧
    (used.login.step .logout).2.client.history = [⟨"Why?", "Because.", ⟨0, 0⟩⟩] ∧
    ¬((unused.login.step .logout).2.step .look).1.Alike unused.login.client.base
      used.login.client.base ((used.login.step .logout).2.step .look).1 := by
  have hn : (unused.login.step .logout).2.client.history = [] := by decide +kernel
  have hs : (used.login.step .logout).2.client.history = [⟨"Why?", "Because.", ⟨0, 0⟩⟩] := by
    decide +kernel
  have hg : unused.login.client.session.generation = 2 := by decide +kernel
  refine ⟨used_twins, hg ▸ .both .start trivial, hn, hs, fun h => ?_⟩
  have hh := (Output.Alike.view_iff.mp h).1
  rw [hn, hs] at hh
  cases hh

end ChatClient.World
