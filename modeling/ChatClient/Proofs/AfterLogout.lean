import ChatClient.Chat.Basic
import ChatClient.Proofs.Pending
import ChatClient.Proofs.Requests
import ChatClient.Proofs.SignedOut

/-!
What is left of a user who has logged out and cleared the screen. Calls may still be in flight, and more are
tried: none of them brings anything back, because the session of the first is over and the others are not
let through. Only a login that is accepted begins anew.
-/
namespace ChatClient

open Client (Begins Finishes)

/-- Whether an event is the end of a login that is accepted. -/
def World.admits (w : World) : Event → Bool
  | .reply name reply =>
    match w.inFlight name with
    | some .login => (w.client.finishLogin reply).1.isOk
    | _ => false
  | _ => false

theorem Session.Moves.forgotten {s s' : Session} (h : s.Moves s') (ht : s.tokens.get? = none)
    (hl : s'.isLoggedIn = false) : s'.tokens.get? = none := by
  cases h with
  | stays => exact ht
  | forgot | ended => exact s.tokens.get?_clear
  | began => cases hl

namespace World

/-- While nobody is logged in, no call in flight belongs to the session that is on. -/
theorem Coherent.late {w : World} (hw : Coherent w) (hl : w.client.isLoggedIn = false)
    (hk : w.inFlight n = some ticket) (hg : ticket.generation? = some g) :
    w.client.session.generation ≠ g := by
  intro he
  have hin := (hw.begun n ticket g hk hg).2 he
  rw [hl] at hin
  cases hin

/-- While nobody is logged in, only a login that is accepted and another logout change the session. -/
theorem turns_anonymous {w : World} (hw : Coherent w) (hl : w.client.isLoggedIn = false)
    (ha : w.admits e = false) (ht : w.turns e = true) : e = .logout := by
  have hs : w.client.session.isLoggedIn = false := hl
  have hx : w.client.session.expired w.now = false := by simp [Session.expired, hs]
  cases e with
  | logout => rfl
  | ensureValid | begin => simp [turns, hx] at ht
  | reply name reply =>
    cases hk : w.inFlight name with
    | none => simp [turns, hk] at ht
    | some ticket =>
      cases ticket with
      | login =>
        simp only [admits, hk] at ha
        simp [turns, hk, ha] at ht
      | register => simp [turns, hk] at ht
      | prompt t | history t =>
        simp only [turns, hk, Bool.and_eq_true, decide_eq_true_eq] at ht
        exact absurd ht.1.symm (hw.late hl hk rfl)
  | _ => cases ht

theorem Steps.anonymous {w w' : World} (h : Steps w e o w') (hw : Coherent w)
    (hl : w.client.isLoggedIn = false) (ha : w.admits e = false) : w'.client.isLoggedIn = false := by
  cases ht : w.turns e with
  | false =>
    have hg : w'.client.session.generation = w.client.session.generation := by
      simpa [ht] using h.generation
    exact (h.later.status hg).trans hl
  | true =>
    cases turns_anonymous hw hl ha ht
    cases h
    rfl

theorem Steps.without_token {w w' : World} (h : Steps w e o w') (ho : ∀ tokens, e ≠ .outside tokens)
    (hh : w.hinders e = false) (hl : w'.client.isLoggedIn = false)
    (ht : w.client.session.tokens.get? = none) : w'.client.session.tokens.get? = none := by
  rcases h.moves ho with hm | hr
  · exact hm.forgotten ht hl
  · rcases rejected?_unhindered hr hh with he | hnone
    · rw [he, ht]
    · exact hnone

/-- Nobody is logged in, and nothing is shown. -/
structure Left (w : World) : Prop where
  anonymous : w.client.isLoggedIn = false
  history : w.client.conversation.history = []
  current : w.client.conversation.current = .empty

namespace Left

variable {w w' : World}

theorem idle (h : Left w) : w.client.sync = w.client := Client.sync_idle (.inr h.anonymous)

theorem not_usable (h : Left w) : w.client.session.usable w.now = false := by
  have hl : w.client.session.isLoggedIn = false := h.anonymous
  simp [Session.usable, hl]

theorem changes (h : Left w) (hw : Coherent w) (hc : Changes w d k) :
    d.history = [] ∧ d.current = .empty := by
  have hs : w.client.sync.conversation.history = [] ∧
      w.client.sync.conversation.current = .empty := by
    rw [h.idle]
    exact ⟨h.history, h.current⟩
  cases hc with
  | same => exact ⟨h.history, h.current⟩
  | synced => exact hs
  | asked _ hu => rw [h.not_usable] at hu; cases hu
  | released =>
    refine ⟨(Conversation.release_history ..).trans hs.1, ?_⟩
    unfold Conversation.release
    split
    · rfl
    · exact hs.2
  | answered hk hg | failed hk hg | fetched hk hg | unfetched hk hg => exact absurd hg (hw.late h.anonymous hk rfl)
  | selected hm =>
    have hmem : _ ∈ w.client.sync.conversation.history := hm
    rw [hs.1] at hmem
    cases hmem
  | deleted => exact ⟨by simp [hs.1], hs.2⟩
  | emptied => exact ⟨hs.1, rfl⟩
  | cleared => exact ⟨rfl, rfl⟩

theorem step (h : Left w) (hw : Coherent w) (hs : Steps w e o w') (ha : w.admits e = false) : Left w' := by
  obtain ⟨hhistory, hcurrent⟩ := h.changes hw hs.changes
  exact ⟨hs.anonymous hw h.anonymous ha, hhistory, hcurrent⟩

theorem after (h : Left w) (hw : Coherent w) (ha : w.times admits es = 0) : Left (w.after es) := by
  induction es generalizing w with
  | nil => exact h
  | cons e es ih =>
    obtain ⟨he, hes⟩ := times_cons_eq_zero.mp ha
    have hs := step_steps e w
    exact ih (h.step hw hs he) (hw.step hs) hes

/-- No token comes back, unless the system keeps one of a login from being put in. -/
theorem token (h : Left w) (hw : Coherent w) (ho : ∀ tokens, .outside tokens ∉ es)
    (ha : w.times admits es = 0) (hh : w.times hinders es = 0)
    (ht : w.client.session.tokens.get? = none) : (w.after es).client.session.tokens.get? = none := by
  induction es generalizing w with
  | nil => exact ht
  | cons e es ih =>
    obtain ⟨ha, has⟩ := times_cons_eq_zero.mp ha
    obtain ⟨hh, hhs⟩ := times_cons_eq_zero.mp hh
    have hs := step_steps e w
    have hout : ∀ tokens, e ≠ .outside tokens := by
      rintro tokens rfl
      exact ho tokens (List.mem_cons_self ..)
    have hleft := h.step hw hs ha
    apply ih hleft (hw.step hs) _ has hhs (hs.without_token hout hh hleft.anonymous ht)
    exact fun tokens hm => ho tokens (List.mem_cons_of_mem _ hm)

/-- What is still sent is no request of the conversation. -/
theorem sends (h : Left w) (hs : w.step e = (.sent request, w')) :
    ∃ n call, e = .begin n call ∧ call.converses = false := by
  have hsteps := step_steps e w
  rw [hs] at hsteps
  cases hsteps with
  | @sent call _ _ _ n hb =>
    refine ⟨n, call, rfl, ?_⟩
    by_contra hc
    obtain ⟨token, ht, _⟩ := (hb.licensed (by simpa using hc)).1.token
    have hin := ht.loggedIn
    have hout := h.anonymous
    simp [Client.isLoggedIn, Session.isLoggedIn, hin] at hout

end Left

/-- The user of a chat logs out, whatever is still in flight. -/
theorem left_of_logout {w : World} (network : σ) :
    Left (w.withClient (Chat.logout ⟨w.client, network⟩).2.client) where
  anonymous := rfl
  history := rfl
  current := rfl

theorem logout_eq (w : World) (network : σ) :
    w.withClient (Chat.logout ⟨w.client, network⟩).2.client = w.after [.logout, .clear] := rfl

/-- From the moment at which the user of a chat has logged out, whatever is in flight then, and as long as no
login is accepted and nobody else puts a token into the store: nobody is logged in, the history and the slot
are empty, and no call of the conversation sends a request. No token is stored either, unless the system has
kept the token of a login from being put in. -/
theorem logout_leaves_nothing {w : World} (hw : Reachable w) (network : σ)
    (ho : ∀ tokens, .outside tokens ∉ es)
    (ha : (w.withClient (Chat.logout ⟨w.client, network⟩).2.client).times admits es = 0) :
    let v := (w.withClient (Chat.logout ⟨w.client, network⟩).2.client).after es
    v.client.session.status = .anonymous ∧
      ((w.withClient (Chat.logout ⟨w.client, network⟩).2.client).times hinders es = 0 →
        v.client.session.tokens.get? = none) ∧
      v.client.history = [] ∧ v.client.current = .empty ∧
      ∀ e request v', v.step e = (.sent request, v') →
        ∃ n call, e = .begin n call ∧ call.converses = false := by
  intro v
  have hc : Coherent (w.withClient (Chat.logout ⟨w.client, network⟩).2.client) := by
    rw [logout_eq]
    exact (hw.after _).coherent
  have hleft : Left (w.withClient (Chat.logout ⟨w.client, network⟩).2.client) := left_of_logout network
  have hv : Left v := hleft.after hc ha
  have hstatus : v.client.session.status = .anonymous := by
    have hl := hv.anonymous
    cases hs : v.client.session.status with
    | anonymous => rfl
    | authenticated => simp [Client.isLoggedIn, Session.isLoggedIn, hs] at hl
  refine ⟨hstatus, fun hh => ?_, ?_, ?_, fun e request v' => hv.sends⟩
  · exact hleft.token hc ho ha hh w.client.session.tokens.get?_clear
  · rw [Client.history, hv.idle]
    exact hv.history
  · rw [Client.current, hv.idle]
    exact hv.current

/-- A prompt, a load and a login are in flight when the user logs out. The first two bring what was asked for, the
login is rejected, and a second prompt is tried. -/
theorem late_replies_leave_nothing :
    let w := signedIn.after [.begin 0 (.send "Why?"), .begin 1 .load, .begin 2 (.login "a@b.com" "x")]
    let es := [.reply 0 (.ok ⟨200, "Because."⟩), .reply 2 (.ok ⟨401, ""⟩), .begin 3 (.send "Since when?"),
      .reply 1 (.ok ⟨200, "[[\"How?\", \"So.\", \"1970-01-01T00:00:00Z\"]]"⟩), .ensureValid]
    let v := (w.withClient (Chat.logout ⟨w.client, ()⟩).2.client).after es
    v.client.session.status = .anonymous ∧ v.client.session.tokens.get? = none ∧
      v.client.history = [] ∧ v.client.current = .empty := by
  intro w es
  have hw : Reachable w := .after (.start ..) _
  have ho : ∀ tokens, .outside tokens ∉ es := by simp [es]
  have ha : (w.withClient (Chat.logout ⟨w.client, ()⟩).2.client).times admits es = 0 := by
    decide +kernel
  have hh : (w.withClient (Chat.logout ⟨w.client, ()⟩).2.client).times hinders es = 0 := by
    decide +kernel
  obtain ⟨hstatus, htoken, hhistory, hcurrent, -⟩ := logout_leaves_nothing hw () ho ha
  exact ⟨hstatus, htoken hh, hhistory, hcurrent⟩

end World

end ChatClient
