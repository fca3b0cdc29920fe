import ChatClient.Proofs.Steps
import ChatClient.Proofs.TokenStores

/-!
Logins whose reply comes late. A login holds no generation, so that it cannot tell whether the user has
logged out meanwhile: what its reply does depends on the reply and on the store alone.
-/
namespace ChatClient

namespace Session

/-- A session is the same after a reply: the same token is stored, nobody has come in or gone. -/
structure Kept (s s' : Session) : Prop where
  token : s'.tokens.get? = s.tokens.get?
  status : s'.status = s.status
  generation : s'.generation = s.generation

/-- Whether a reply brings a credential that the store takes. -/
def Admits (s : Session) (reply : Http.Reply) (credential : Token.Credential) : Prop :=
  issued reply = .ok credential ∧ (s.tokens.set credential.raw).1 = .ok ()

/-- Whether a reply brings no credential, or one that the store does not take and of which it keeps nothing
that can be read. -/
def Spares (s : Session) (reply : Http.Reply) : Prop :=
  ∀ credential, issued reply = .ok credential →
    (s.tokens.set credential.raw).1 ≠ .ok () ∧ (s.tokens.set credential.raw).2.get? = s.tokens.get?

/-- A login is let in, or nobody comes in or goes. -/
theorem finishLogin_cases (reply : Http.Reply) (s : Session) :
    (∃ credential, s.Admits reply credential ∧
      (s.finishLogin reply).2 =
        { s with tokens := (s.tokens.set credential.raw).2 }.transition .authenticated) ∨
    (∀ credential, ¬ s.Admits reply credential) ∧ (s.Kept (s.finishLogin reply).2 ↔ s.Spares reply) := by
  unfold finishLogin Admits Spares
  cases hi : issued reply with
  | error e => exact .inr ⟨by simp, iff_of_true ⟨rfl, rfl, rfl⟩ (by simp)⟩
  | ok credential =>
    rcases hs : s.tokens.set credential.raw with ⟨_ | _, tokens⟩
    · refine .inr ⟨?_, ?_⟩
      · rintro _ ⟨⟨⟩, hok⟩
        rw [hs] at hok
        cases hok
      · simp only [Except.ok.injEq, forall_eq', hs]
        exact ⟨fun h => ⟨by simp, h.token⟩, fun h => ⟨h.2, rfl, rfl⟩⟩
    · exact .inl ⟨credential, ⟨rfl, by rw [hs]⟩, by simp [hs]⟩

end Session

namespace World

/-- A login was begun, anything else happened, a logout or a refused token included, and then its reply
comes. The session stays as it is exactly if the reply brings no credential that the store takes, or keeps
anything of. If the store takes one, the token is stored, and somebody is logged in. -/
theorem login_reply_ignored_iff (w : World) (email password : String)
    (hn : ∀ e ∈ es, e.name? ≠ some n) (reply : Http.Reply) :
    let v := (w.step (.begin n (.login email password))).2.after es
    let s := v.client.session
    let s' := (v.step (.reply n reply)).2.client.session
    (s.Kept s' ↔ s.Spares reply) ∧
      ∀ credential, s.Admits reply credential →
        s'.tokens = (s.tokens.set credential.raw).2 ∧ s'.isLoggedIn = true ∧
          s'.generation = s.generation + 1 := by
  intro v s s'
  have hk : v.inFlight n = some .login := by
    have hsent : (w.step (.begin n (.login email password))).2.inFlight n = some .login := by
      simp [step, Client.begin, keep]
    exact (after_keeps hn).trans hsent
  have hs' : s' = (s.finishLogin reply).2 := by
    simp [s, s', step, hk, Client.finish, Client.finishLogin]
  rw [hs']
  rcases s.finishLogin_cases reply with ⟨credential, ha, he⟩ | ⟨hno, hkept⟩
  · rw [he]
    refine ⟨iff_of_false (fun h => ?_) (fun h => (h credential ha.1).1 ha.2), fun c hc => ?_⟩
    · exact Nat.succ_ne_self _ h.generation
    · cases ha.1.symm.trans hc.1
      exact ⟨rfl, rfl, rfl⟩
  · exact ⟨hkept, fun c hc => absurd hc (hno c)⟩

/-- A login is begun over an empty store, and the user logs out before its reply comes. -/
def loggedOutMeanwhile : World :=
  ((start (.memory none 0) ⟨0, 0⟩).step (.begin 0 (.login "a@b.com" "x"))).2.after [.logout]

theorem rejected_after_logout :
    let s := loggedOutMeanwhile.client.session
    s.Kept (loggedOutMeanwhile.step (.reply 0 (.ok ⟨401, ""⟩))).2.client.session := by
  have hes : ∀ e ∈ [Event.logout], e.name? ≠ some 0 := by simp [Event.name?]
  have hkept := (login_reply_ignored_iff (start (.memory none 0) ⟨0, 0⟩) "a@b.com" "x" hes
    (.ok ⟨401, ""⟩)).1
  refine hkept.mpr ?_
  intro credential hi
  cases hi

/-- The login is accepted nevertheless: nobody is logged in any more, and then somebody is again. -/
theorem accepted_after_logout :
    let w := (loggedOutMeanwhile.step (.reply 0 (.ok ⟨200, ".eyJleHAiOjl9."⟩))).2
    loggedOutMeanwhile.client.session.generation = 1 ∧ loggedOutMeanwhile.client.isLoggedIn = false ∧
      loggedOutMeanwhile.client.session.tokens.get? = none ∧
      w.client.session.generation = 2 ∧ w.client.isLoggedIn = true ∧
      w.client.session.tokens.get? = some ".eyJleHAiOjl9." := by
  decide +kernel

end World

end ChatClient
