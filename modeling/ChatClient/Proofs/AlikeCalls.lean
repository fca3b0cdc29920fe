import ChatClient.Proofs.Alike

/-!
Calls of two clients that are alike. Both halves of a call come to the same in both and leave them alike,
as long as the call looks at nothing that is older than the session.
-/
namespace ChatClient

open Client (Begins Finishes)

inductive Begun.Alike (a b : Base) : Begun Ticket Outcome → Begun Ticket Outcome → Prop
  | done : Begun.Alike a b (.done outcome) (.done outcome)
  | waiting (ht : s.Alike a b t) : Begun.Alike a b (.waiting request s) (.waiting request t)

namespace Client.Alike

variable {a b : Base} {c c' d : Client}

theorem prompt (h : call.resends = true → c.current.Alike a b d.current) :
    d.prompt? call = c.prompt? call := by
  cases call with
  | redo => exact (h rfl).redoable
  | retry => exact (h rfl).retryable
  | _ => rfl

theorem opened (h : c.Alike a b g d) (call : Call) : (c.opened call).Alike a b g (d.opened call) := by
  unfold Client.opened
  split
  · exact h.sync
  · exact h

theorem asking (h : c.Alike a b g d) (hl : c.isLoggedIn = true) (now : Time.Instant) (text : String) :
    (c.asking now text).Alike a b g (d.asking now text) := by
  obtain ⟨k, hck, hdk⟩ := h.request
  have hs : Slot.Alike a b (.pending c.nextRequest (.asked text now))
      (.pending d.nextRequest (.asked text now)) := by
    rw [hck, hdk]
    exact .pending
  have hm : (c.modify (·.publish (.pending c.nextRequest (.asked text now)))).Alike a b g
      (d.modify (·.publish (.pending d.nextRequest (.asked text now)))) :=
    h.modify (h.fresh hl) (fun _ => rfl) (fun _ => rfl) (h.since.publish hs)
  refine ⟨hm.session, ⟨k + 1, ?_, ?_⟩, hm.since, hm.on⟩
  · simp [Client.asking, hck, Nat.add_assoc]
  · simp [Client.asking, hdk, Nat.add_assoc]

theorem begins (h : c.Alike a b g d) (hb : Begins now c call begun c')
    (hr : call.resends = true → c.current.Alike a b d.current) :
    ∃ begun' d', Begins now d call begun' d' ∧ begun.Alike a b begun' ∧ c'.Alike a b g d' := by
  have hu : d.session.usable now = c.session.usable now := h.session.usable now
  cases hb with
  | login =>
    rw [show c.session.loginRequest _ _ = d.session.loginRequest _ _ from
      (h.session.authorize _).symm]
    exact ⟨_, d, .login, .waiting .login, h⟩
  | register =>
    rw [show c.session.registerRequest _ = d.session.registerRequest _ from
      (h.session.authorize _).symm]
    exact ⟨_, d, .register, .waiting .register, h⟩
  | missing hs hp => exact ⟨_, _, .missing hs ((prompt hr).trans hp), .done, h.sync⟩
  | blank hp hb => exact ⟨_, _, .blank ((prompt hr).trans hp) hb, .done, h.opened call⟩
  | unusable hp hb hn =>
    exact ⟨_, _, .unusable ((prompt hr).trans hp) hb (hu.trans hn), .done, (h.opened call).checked now⟩
  | asked hp hb hy =>
    refine ⟨_, _, .asked ((prompt hr).trans hp) hb (hu.trans hy), ?_,
      h.asking (Session.usable_loggedIn hy) now _⟩
    obtain ⟨k, hck, hdk⟩ := h.request
    rw [h.session.authorize, h.session.generation, hck, hdk]
    exact .waiting .prompt
  | shut hl hn => exact ⟨_, _, .shut hl (hu.trans hn), .done, h.checked now⟩
  | loading hl hy hc =>
    have hs := h.synced (Session.usable_loggedIn hy)
    refine ⟨_, _, .loading hl (hu.trans hy) fun he => hs.loaded.trans (hc he), ?_, h.sync⟩
    obtain ⟨k, hck, hdk⟩ := hs.nextInsert
    rw [h.session.authorize, h.session.generation, hck, hdk]
    exact .waiting .history
  | cached hy hc =>
    have hs := h.synced (Session.usable_loggedIn hy)
    have hh : d.history = c.history := hs.history
    rw [← hh]
    exact ⟨_, _, .cached (hu.trans hy) (hs.loaded.trans hc), .done, h.sync⟩

theorem rejected (h : c.Alike a b g d)
    (hf : c.finishLogin reply = (.error e, c.withTokens tokens)) :
    d.finishLogin reply = (.error e, d.withTokens tokens) := by
  have ht := h.session.tokens
  rcases hi : Session.issued reply with e' | credential
  · simp only [finishLogin, Session.finishLogin, hi, Prod.mk.injEq] at hf ⊢
    obtain ⟨he, hc⟩ := hf
    have htokens : c.session.tokens = tokens := congrArg (·.session.tokens) hc
    exact ⟨he, by rw [Client.withTokens, ← htokens, ← ht]⟩
  · rcases hs : c.session.tokens.set credential.raw with ⟨_ | ⟨⟩, tokens'⟩
    · simp only [finishLogin, Session.finishLogin, hi, ht, hs, Prod.mk.injEq] at hf ⊢
      obtain ⟨he, hc⟩ := hf
      have htokens : tokens' = tokens := congrArg (·.session.tokens) hc
      exact ⟨he, by rw [Client.withTokens, htokens]⟩
    · simp [finishLogin, Session.finishLogin, hi, hs] at hf

theorem finishes (h : c.Alike a b g d) (ht : s.Alike a b t)
    (hc : c.conversation.generation ≤ c.session.generation)
    (hd : d.conversation.generation ≤ d.session.generation)
    (hin : ∀ g', s.generation? = some g' → c.session.generation = g' → c.isLoggedIn = true)
    (hf : Finishes c s reply outcome c') :
    ∃ d', Finishes d t reply outcome d' ∧ c'.Alike a b (c'.era g) d' := by
  suffices (∃ d', Finishes d t reply outcome d' ∧ c'.Alike a b g d') ∨
      ∃ d', Finishes d t reply outcome d' ∧ c'.Alike a b (c'.era g) d' by
    rcases this with ⟨d', hf, ha⟩ | this
    · exact ⟨d', hf, ha.at_era⟩
    · exact this
  have hg : d.session.generation = c.session.generation := h.session.generation
  cases hf with
  | loggedIn hi hs =>
    cases ht
    rw [← h.session.tokens] at hs
    exact .inr ⟨_, .loggedIn hi hs, h.login hc hd _⟩
  | rejected hf =>
    cases ht
    exact .inl ⟨_, .rejected (h.rejected hf), h.withTokens _⟩
  | registered =>
    cases ht
    exact .inl ⟨_, .registered, h⟩
  | cancelled hn =>
    cases ht with
    | prompt =>
      exact .inl ⟨_, .cancelled (hg ▸ hn), h.quiet (.released _) (.released _) (h.since.release _)⟩
  | superseded hy hs =>
    have hl := hin _ rfl hy
    cases ht with
    | prompt =>
      rw [← (h.synced hl).current.awaits] at hs
      exact .inl ⟨_, .superseded (hg.trans hy) hs, h.sync.logoutIf _⟩
  | answered hy hs ha =>
    have hl := hin _ rfl hy
    have hf := h.fresh hl
    cases ht with
    | prompt =>
      rw [← (h.synced hl).current.awaits] at hs
      refine .inl ⟨_, .answered (hg.trans hy) hs ha, ?_⟩
      exact h.modify hf (fun _ => rfl) (fun _ => rfl) ((h.since.insert _).publish (.shown rfl))
  | failed hy hs ha =>
    have hl := hin _ rfl hy
    have hf := h.fresh hl
    cases ht with
    | prompt =>
      rw [← (h.synced hl).current.awaits] at hs
      refine .inl ⟨_, .failed (hg.trans hy) hs ha, ?_⟩
      apply logoutIf
      exact h.modify hf (fun _ => rfl) (fun _ => rfl) (h.since.publish (.shown rfl))
  | dropped hn =>
    cases ht
    exact .inl ⟨_, .dropped (hg ▸ hn), h⟩
  | fetched hy hr =>
    have hl := hin _ rfl hy
    have hf := h.fresh hl
    cases ht with
    | history =>
      rw [← (h.synced hl).merge]
      refine .inl ⟨_, .fetched (hg.trans hy) hr, ?_⟩
      exact h.modify hf (fun _ => rfl) (fun _ => rfl) (h.since.setFetched _ _)
  | unfetched hy hr =>
    have hf := h.fresh (hin _ rfl hy)
    cases ht with
    | history =>
      refine .inl ⟨_, .unfetched (hg.trans hy) hr, ?_⟩
      apply logoutIf
      exact h.modify hf (fun _ => rfl) (fun _ => rfl) (h.since.withHistory [] false)

end Client.Alike

end ChatClient
