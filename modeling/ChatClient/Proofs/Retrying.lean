import ChatClient.Chat.Screen
import ChatClient.Proofs.Pending
import ChatClient.Proofs.Requests

/-!
Prompts that have failed. The slot may show a failure that sending again does not help, a refused token, but
that failure ends the session in which it is published. So a user who is logged in sees only failures that
are worth a second attempt, and the second attempt has a prompt to send.
-/
namespace ChatClient

open Client (Begins Finishes)

/-- A reply fails a prompt for good only by refusing its token. -/
theorem Answers.retryable (h : Answers reply (.error e)) :
    e.isRetryable = true ∨ reply.refuses = true := by
  cases h with
  | empty | other | unreachable => exact .inl rfl
  | refused hs => exact .inr (Http.Response.isUnauthorized_iff.mpr hs)

theorem Screen.sendError_retryable (h : e.isRetryable = true) :
    Screen.sendError e = "Failed: " ++ e.message ++ ". \x60:retry\x60 to try again." := by
  have hne : e ≠ .unauthorized := by
    rintro rfl
    cases h
  rw [Screen.sendError, if_neg hne, if_pos h]

namespace Client

/-- A conversation that shows what the client's shows, and for the same session. -/
def Still (c : Client) (d : Conversation) : Prop :=
  d.current = c.conversation.current ∧ d.generation = c.conversation.generation

variable {c c' : Client}

/-- A slot that shows a failure has not just been emptied for a new session. -/
theorem still_synced (hf : c.sync.conversation.current = .failed entry e) :
    c.Still c.sync.conversation := by
  rcases c.sync_conversation with ⟨_, he⟩ | ⟨_, _, he⟩
  · rw [he]
    exact ⟨rfl, rfl⟩
  · rw [he] at hf
    cases hf

theorem still_opened (hf : (c.opened call).conversation.current = .failed entry e) :
    c.Still (c.opened call).conversation := by
  rcases c.opened_conversation call with he | he <;> rw [he] at hf ⊢
  · exact ⟨rfl, rfl⟩
  · exact still_synced hf

theorem still_released (hf : (c.sync.conversation.release r).current = .failed entry e) :
    c.Still (c.sync.conversation.release r) := by
  unfold Conversation.release at hf ⊢
  split
  · rw [if_pos (by assumption)] at hf
    cases hf
  · rw [if_neg (by assumption)] at hf
    exact still_synced hf

theorem Begins.shows_failed (h : Begins now c call begun c')
    (hf : c'.conversation.current = .failed entry e) : c.Still c'.conversation := by
  cases h with
  | login | register => exact ⟨rfl, rfl⟩
  | missing | loading | cached => exact still_synced hf
  | blank => exact still_opened hf
  | unusable =>
    rw [checked_conversation] at hf ⊢
    exact still_opened hf
  | shut =>
    rw [checked_conversation]
    exact ⟨rfl, rfl⟩
  | asked => cases hf

/-- A failure that the end of a call leaves in the slot was there before, or the call is the prompt that has
failed, in the session that is on. -/
theorem Finishes.shows_failed (h : Finishes c ticket reply outcome c')
    (hf : c'.conversation.current = .failed entry e) :
    c.Still c'.conversation ∨
      ticket.generation? = some c.session.generation ∧ answerOf reply = .error e ∧
        c' = (c.modify (·.publish (.failed entry e))).logoutIf reply.refuses := by
  cases h with
  | loggedIn | rejected | registered | dropped => exact .inl ⟨rfl, rfl⟩
  | cancelled => exact .inl (still_released hf)
  | superseded =>
    rw [logoutIf_conversation] at hf ⊢
    exact .inl (still_synced hf)
  | answered => cases hf
  | failed hg _ ha =>
    rw [logoutIf_conversation] at hf
    cases hf
    exact .inr ⟨congrArg some hg.symm, ha, rfl⟩
  | fetched => exact .inl (still_synced hf)
  | unfetched =>
    rw [logoutIf_conversation] at hf ⊢
    exact .inl (still_synced hf)

end Client

namespace World

/-- A failure that an event leaves in the slot was there before, or it is worth a second attempt, or the
session of the conversation is over. -/
theorem Steps.shows_failed {w w' : World} (h : Steps w e o w') (hw : Coherent w)
    (hf : w'.client.conversation.current = .failed entry error) :
    w.client.Still w'.client.conversation ∨ error.isRetryable = true ∨
      w'.client.conversation.generation < w'.client.session.generation := by
  cases h with
  | done hb | sent hb => exact .inl (hb.shows_failed hf)
  | finished hk hfin =>
    rcases hfin.shows_failed hf with hs | ⟨hg, ha, rfl⟩
    · exact .inl hs
    · rcases (ha ▸ answerOf_answers _).retryable with hr | hr
      · exact .inr (.inl hr)
      · -- The conversation belongs to the session that the refusal ends.
        have hin : w.client.isLoggedIn = true := (hw.begun _ _ _ hk hg).2 rfl
        have hup := w.client.sync_uptodate.resolve_right (by simp [hin])
        have hn : w.client.sync.conversation.generation < w.client.session.generation + 1 := by
          omega
        rw [hr]
        exact .inr (.inr hn)
  | looked | missed | kept | deleted => exact .inl (Client.still_synced hf)
  | selected | newQuestion | cleared => cases hf
  | checked =>
    rw [withClient_client, Client.checked_conversation]
    exact .inl ⟨rfl, rfl⟩
  | _ => exact .inl ⟨rfl, rfl⟩

/-- A failure in the slot that is not worth a second attempt is that of a session that is over. -/
def Hopeful (w : World) : Prop :=
  ∀ entry e, w.client.conversation.current = .failed entry e → e.isRetryable = true ∨
    w.client.conversation.generation < w.client.session.generation

theorem Hopeful.start (tokens : Token.Store) (now : Time.Instant) :
    Hopeful (.start tokens now) := by
  intro entry e hf
  cases hf

theorem Hopeful.step {w w' : World} (hw : Hopeful w) (hc : Coherent w) (h : Steps w e o w') :
    Hopeful w' := by
  intro entry error hf
  rcases h.shows_failed hc hf with ⟨hslot, hgen⟩ | hnew
  · refine (hw entry error (hslot ▸ hf)).imp_right fun hlt => ?_
    have hl := h.later.generation
    omega
  · exact hnew

theorem Reachable.hopeful {w : World} (h : Reachable w) : Hopeful w := by
  suffices Coherent w ∧ Hopeful w from this.2
  apply h.invariant
  · exact fun tokens now => ⟨.start tokens now, .start tokens now⟩
  · exact fun v e o v' ⟨hc, hh⟩ hs => ⟨hc.step hs, hh.step hc hs⟩

/-- What a user who is logged in sees to have failed is worth a second attempt. -/
theorem Reachable.failed_retryable {w : World} (hw : Reachable w) (hl : w.client.isLoggedIn = true)
    (hc : w.client.current = .failed entry e) : e.isRetryable = true := by
  have hstill := Client.still_synced hc
  have hup := w.client.sync_uptodate.resolve_right (by simp [hl])
  refine (hw.hopeful entry e (hstill.1 ▸ hc)).resolve_right ?_
  have hg := hstill.2
  omega

/-- However a prompt ends that has been sent, it has not been empty, and there was something to send. -/
theorem Waits.not_refused {w : World} (hk : w.inFlight n = some (.prompt t)) (reply : Http.Reply) :
    ∃ result, (w.step (.reply n reply)).1 = .ended (.entry result) ∧
      result ≠ .error .emptyPrompt ∧ result ≠ .error .nothingToResend := by
  obtain ⟨outcome, c, hs, hf⟩ := step_reply hk reply
  rw [hs]
  cases hf with
  | cancelled | superseded | answered => exact ⟨_, rfl, by simp, by simp⟩
  | @failed _ e _ _ _ ha =>
    have hr : e.ofReply = true := (ha ▸ answerOf_answers reply).sound
    refine ⟨_, rfl, ?_, ?_⟩
    · rintro ⟨⟩
      cases hr
    · rintro ⟨⟩
      cases hr

/-- In every reachable state in which somebody is logged in and sees a failed prompt: the failure is one that
sending again may help, and says so. Sending again asks just that prompt, in one request, if the token is
still good, and whatever happens until its reply comes, the call does not end because there is nothing to
send. If the token is not good any more the call is refused. -/
theorem failed_prompt_retried {w : World} (hw : Reachable w) (hl : w.client.isLoggedIn = true)
    (hc : w.client.current = .failed entry error) (n : CallName) :
    error.isRetryable = true ∧
    Screen.slot w.client.current = "> " ++ entry.prompt ++ "\n" ++
      ("Failed: " ++ error.message ++ ". \x60:retry\x60 to try again.") ∧
    (w.client.session.isLive w.now = true → ∃ v,
      w.step (.begin n .retry) =
        (.sent (w.client.session.authorize (.postText "/client/use-api" entry.prompt)), v) ∧
      ∀ es reply, (∀ e ∈ es, e.name? ≠ some n) → ∃ result,
        ((v.after es).step (.reply n reply)).1 = .ended (.entry result) ∧
        result ≠ .error .emptyPrompt ∧ result ≠ .error .nothingToResend) ∧
    (w.client.session.isLive w.now = false → ∃ v,
      w.step (.begin n .retry) = (.ended (.entry (.error .unauthorized)), v)) := by
  have hr : error.isRetryable = true := hw.failed_retryable hl hc
  have hp : w.client.prompt? .retry = some entry.prompt := by
    simp [Client.prompt?, hc, Slot.retryable?]
  have hb : Text.isBlank entry.prompt = false := by
    have hs : w.client.sync.conversation.current.Sound := ((reachable_sound hw).sync _ _).current
    have hf : (Slot.failed entry error).Sound := hc ▸ hs
    exact hf.1.prompt
  have hin : w.client.session.isLoggedIn = true := hl
  refine ⟨hr, ?_, fun hv => ?_, fun hv => ?_⟩
  · rw [hc, Screen.slot, Screen.sendError_retryable hr]
  · have hu : w.client.session.usable w.now = true := by simp [Session.usable, hin, hv]
    refine ⟨_, (Steps.sent (.asked hp hb hu)).step_eq, fun es reply hn => ?_⟩
    exact Waits.not_refused ((after_keeps hn).trans (Function.update_self ..)) reply
  · have hu : w.client.session.usable w.now = false := by simp [Session.usable, hv]
    exact ⟨_, (Steps.done (.unusable hp hb hu)).step_eq⟩

/-- A prompt has been refused in an earlier session, and one of this session has got no answer. -/
theorem unanswered_prompt_retried :
    let w := signedIn.after [.begin 0 (.send "Why?"), .reply 0 (.ok ⟨401, ""⟩),
      .begin 1 (.login "a@b.com" "x"), .reply 1 (.ok ⟨200, ".eyJleHAiOjl9."⟩),
      .begin 2 (.send "Since when?"), .reply 2 (.ok ⟨200, ""⟩)]
    SendError.isRetryable .emptyAnswer = true ∧ ∃ v, w.step (.begin 3 .retry) =
      (.sent (w.client.session.authorize (.postText "/client/use-api" "Since when?")), v) := by
  intro w
  have hc : w.client.current = .failed (.asked "Since when?" ⟨0, 0⟩) .emptyAnswer := by
    decide +kernel
  have hw : Reachable w := .after (.start ..) _
  have hl : w.client.isLoggedIn = true := by decide +kernel
  have hlive : w.client.session.isLive w.now = true := by decide +kernel
  obtain ⟨hr, -, hsent, -⟩ := failed_prompt_retried hw hl hc 3
  obtain ⟨v, hs, -⟩ := hsent hlive
  exact ⟨hr, v, hs⟩

end World

end ChatClient
