import ChatClient.Proofs.Generations
import ChatClient.Proofs.TokenStores

/-!
What one event can do to the session, as one list of cases. From it follows what a client leaves behind
whose user is not logged in: no token that is still good, as long as nobody else changes the store and the
clock does not go back, and but for a login that fails after its token has come into the file.
-/
namespace ChatClient

open Client (Begins Finishes)

namespace Session

/-- What can become of a session by an event of its own client, unless a login fails. -/
inductive Moves (s : Session) : Session → Prop
  | stays : Moves s s
  | forgot : Moves s s.forgetToken
  | ended : Moves s s.logout
  | began {token : String} {tokens : Token.Store} (hs : s.tokens.set token = (.ok (), tokens)) :
      Moves s ({ s with tokens }.transition .authenticated)

theorem isLive_of_none {s : Session} (h : s.tokens.get? = none) (now : Time.Instant) :
    s.isLive now = false := by
  simp [isLive, credential?, h]

/-- Only the stored token counts. -/
theorem credential?_congr {s s' : Session} (h : s'.tokens = s.tokens) :
    s'.credential? = s.credential? := by
  simp [credential?, h]

theorem isLive_congr {s s' : Session} (h : s'.tokens = s.tokens) (now : Time.Instant) :
    s'.isLive now = s.isLive now := by
  simp [isLive, credential?_congr h]

theorem isLive_earlier {s : Session} (h : s.isLive later = true) (hle : now.seconds ≤ later.seconds) :
    s.isLive now = true := by
  unfold isLive at h ⊢
  split at h
  · simp only [Token.Credential.validAt, decide_eq_true_eq] at h ⊢
    omega
  · cases h

/-- If nobody is logged in, no token that is still good is stored. -/
def Clean (now : Time.Instant) (s : Session) : Prop := s.isLoggedIn = false → s.isLive now = false

@[simp] theorem restore_tokens (tokens : Token.Store) (now : Time.Instant) :
    (restore tokens now).tokens = tokens := by
  simp only [restore]
  split <;> rfl

theorem restore_isLoggedIn (s : Session) (now : Time.Instant) :
    (restore s.tokens now).isLoggedIn = s.isLive now := by
  have hl : s.isLive now = isLive ⟨s.tokens, .anonymous, 0, 0⟩ now := isLive_congr rfl now
  cases h : isLive ⟨s.tokens, .anonymous, 0, 0⟩ now <;> simp [restore, isLoggedIn, hl, h]

theorem restore_clean (tokens : Token.Store) (now : Time.Instant) : (restore tokens now).Clean now := by
  intro h
  have hlive := restore_isLoggedIn (restore tokens now) now
  rw [restore_tokens, h] at hlive
  exact hlive.symm

theorem Moves.clean {s s' : Session} (h : s.Moves s') (hs : s.Clean now) : s'.Clean now := by
  intro hl
  cases h with
  | stays => exact hs hl
  | forgot | ended => exact isLive_of_none s.tokens.get?_clear now
  | began => cases hl

theorem Clean.later {now later : Time.Instant} {s : Session} (h : s.Clean now)
    (hle : now.seconds ≤ later.seconds) : s.Clean later := by
  intro hl
  cases hv : s.isLive later with
  | false => rfl
  | true => rw [← h hl, isLive_earlier hv hle]

end Session

namespace Client

theorem checked_moves (now : Time.Instant) (c : Client) : c.session.Moves (c.checked now).session := by
  unfold checked
  split
  · exact .ended
  · exact .stays

theorem logoutIf_moves (refused : Bool) (c : Client) : c.session.Moves (c.logoutIf refused).session := by
  cases refused
  · exact .stays
  · exact .ended

theorem Begins.moves {c c' : Client} (h : Begins now c call begun c') : c.session.Moves c'.session := by
  cases h with
  | blank => rw [opened_session]; exact .stays
  | unusable => rw [← opened_session call c]; exact checked_moves now _
  | shut => exact checked_moves now c
  | _ => exact .stays

theorem Finishes.moves {c c' : Client} (h : Finishes c ticket reply outcome c') :
    c.session.Moves c'.session ∨ ticket = .login ∧ ∃ e, c.finishLogin reply = (.error e, c') := by
  cases h with
  | loggedIn _ hs => exact .inl (.began hs)
  | rejected hf => exact .inr ⟨rfl, _, hf⟩
  | superseded => exact .inl (logoutIf_moves _ c.sync)
  | failed | unfetched => exact .inl (logoutIf_moves _ (c.modify _))
  | _ => exact .inl .stays

end Client

namespace World

/-- The session that a failing login leaves, if that is what an event comes to. -/
def rejected? (w : World) : Event → Option Session
  | .reply name reply =>
    match w.inFlight name, w.client.finishLogin reply with
    | some .login, (.error _, c) => some c.session
    | _, _ => none
  | _ => none

theorem rejected?_eq_some {w : World} : w.rejected? e = some s ↔
    ∃ name reply cause c, e = .reply name reply ∧ w.inFlight name = some .login ∧
      w.client.finishLogin reply = (.error cause, c) ∧ s = c.session := by
  constructor
  · intro h
    unfold rejected? at h
    split at h
    · split at h
      · rename_i hk hf
        cases h
        exact ⟨_, _, _, _, rfl, hk, hf, rfl⟩
      · cases h
    · cases h
  · rintro ⟨name, reply, cause, c, rfl, hk, hf, rfl⟩
    simp [rejected?, hk, hf]

theorem session_of_rejected? {w : World} (h : w.rejected? e = some s) :
    (w.step e).2.client.session = s := by
  obtain ⟨name, reply, cause, c, rfl, hk, hf, rfl⟩ := rejected?_eq_some.mp h
  simp [step, hk, Client.finish, hf]

theorem Steps.moves {w w' : World} (h : Steps w e o w') (he : ∀ tokens, e ≠ .outside tokens) :
    w.client.session.Moves w'.client.session ∨ w.rejected? e = some w'.client.session := by
  cases h with
  | outside => exact absurd rfl (he _)
  | done hb | sent hb => exact .inl hb.moves
  | finished hk hf =>
    rcases hf.moves with hm | ⟨rfl, e, hf⟩
    · exact .inl hm
    · exact .inr (rejected?_eq_some.mpr ⟨_, _, _, _, rfl, hk, hf, rfl⟩)
  | loggedOut => exact .inl .ended
  | forgotten => exact .inl .forgot
  | checked => exact .inl (Client.checked_moves _ _)
  | _ => exact .inl .stays

/-- Whether an event puts another store of tokens in place, or the clock back. -/
def disturbs (w : World) : Event → Bool
  | .outside _ => true
  | .tick t => t.lt w.now
  | _ => false

/-- Whether an event is the end of a failing login after which nobody is logged in, and a token is stored all
the same that is still good. -/
def strands (w : World) (e : Event) : Bool :=
  (w.rejected? e).any fun s => !s.isLoggedIn && s.isLive w.now

/-- Whether an event is the end of a login that fails because its token is not stored, and the system is in the
way of that. -/
def hinders (w : World) : Event → Bool
  | .reply name reply =>
    match w.inFlight name, w.client.finishLogin reply with
    | some .login, (.error (.storage _), _) => !w.client.session.tokens.granted
    | _, _ => false
  | _ => false

theorem Steps.now_eq {w w' : World} (h : Steps w e o w') (he : ∀ t, e ≠ .tick t) :
    w'.now = w.now := by
  cases h with
  | tick => exact absurd rfl (he _)
  | _ => rfl

theorem Steps.clean {w w' : World} (h : Steps w e o w') (hd : w.disturbs e = false)
    (hs : w.strands e = false) (hw : w.client.session.Clean w.now) : w'.client.session.Clean w'.now := by
  cases e with
  | outside => cases hd
  | tick t =>
    cases h
    refine hw.later ?_
    simp only [disturbs, Time.Instant.lt, Bool.or_eq_false_iff, decide_eq_false_iff_not, Int.not_lt] at hd
    exact hd.1
  | _ =>
    rw [h.now_eq (by simp)]
    rcases h.moves (by simp) with hm | hr
    · exact hm.clean hw
    · intro hl
      simpa [strands, hr, hl] using hs

theorem Steps.stranded {w w' : World} (h : Steps w e o w') (hs : w.strands e = true) :
    ¬ w'.client.session.Clean w'.now := by
  obtain ⟨s, hr, hgood⟩ := (Option.any_eq_true _ _).mp hs
  have hsession : w'.client.session = s := by simpa [h.step_eq] using session_of_rejected? hr
  obtain ⟨name, reply, -, -, rfl, -⟩ := rejected?_eq_some.mp hr
  rw [h.now_eq (by simp), hsession]
  intro hclean
  obtain ⟨hout, hlive⟩ : s.isLoggedIn = false ∧ s.isLive w.now = true := by simpa using hgood
  rw [hclean hout] at hlive
  cases hlive

/-- If nothing but the reply and what stands there is in the way of a login, no token comes to light by it. -/
theorem rejected?_unhindered {w : World} (hr : w.rejected? e = some s) (hh : w.hinders e = false) :
    s = w.client.session ∨ s.tokens.get? = none := by
  obtain ⟨name, reply, cause, c, rfl, hk, hf, rfl⟩ := rejected?_eq_some.mp hr
  have hs := hf
  simp only [Client.finishLogin, Session.finishLogin] at hs
  split at hs
  · cases hs
    exact .inl rfl
  · split at hs
    · cases hs
    · rename_i hset
      cases hs
      have hg : w.client.session.tokens.granted = true := by simpa [hinders, hk, hf] using hh
      exact .inr (Token.Store.get?_set_granted hset hg)

theorem strands_unhindered {w : World} (hw : w.client.session.Clean w.now) (hh : w.hinders e = false) :
    w.strands e = false := by
  rw [strands, Option.any_eq_false]
  intro s hr
  have hclean : s.Clean w.now := by
    rcases rejected?_unhindered hr hh with rfl | hnone
    · exact hw
    · exact fun _ => Session.isLive_of_none hnone w.now
  cases hl : s.isLoggedIn with
  | true => simp
  | false => simp [hclean hl]

theorem clean_iff {w : World} (hd : w.times disturbs es = 0) (hw : w.client.session.Clean w.now) :
    (∀ pre, pre <+: es → (w.after pre).client.session.Clean (w.after pre).now) ↔
      w.times strands es = 0 := by
  induction es generalizing w with
  | nil => simpa [times, after] using hw
  | cons e es ih =>
    obtain ⟨he, hes⟩ := times_cons_eq_zero.mp hd
    have hstep := step_steps e w
    rw [along_cons fun v => v.client.session.Clean v.now, times_cons_eq_zero]
    cases hs : w.strands e with
    | false => simpa [hw] using ih hes (hstep.clean he hs hw)
    | true => exact iff_of_false (fun h => hstep.stranded hs (h.2 [] (List.nil_prefix ..))) (by simp)

theorem times_strands_unhindered {w : World} (hd : w.times disturbs es = 0)
    (hw : w.client.session.Clean w.now) (hh : w.times hinders es = 0) : w.times strands es = 0 := by
  induction es generalizing w with
  | nil => rfl
  | cons e es ih =>
    obtain ⟨hd, hds⟩ := times_cons_eq_zero.mp hd
    obtain ⟨hh, hhs⟩ := times_cons_eq_zero.mp hh
    have hs := strands_unhindered hw hh
    exact times_cons_eq_zero.mpr ⟨hs, ih hds ((step_steps e w).clean hd hs hw) hhs⟩

/-- In a run in which the client alone uses its store of tokens, and in which the clock does not go back: at
every moment at which nobody is logged in the stored token is no good, if there is one, and a client that is
started then over the same store has nobody logged in either. That is so exactly as long as no login fails
and leaves a token that is good, which takes a system that does not let its token be put in. -/
theorem anonymous_without_token (tokens : Token.Store) (now : Time.Instant) (es : List Event)
    (hd : (start tokens now).times disturbs es = 0) :
    ((∀ pre, pre <+: es →
        let w := (start tokens now).after pre
        w.client.isLoggedIn = false →
          w.client.session.isLive w.now = false ∧
            (start w.client.session.tokens w.now).client.isLoggedIn = false) ↔
        (start tokens now).times strands es = 0) ∧
      ((start tokens now).times hinders es = 0 → (start tokens now).times strands es = 0) := by
  refine ⟨?_, times_strands_unhindered hd (Session.restore_clean tokens now)⟩
  rw [← clean_iff hd (Session.restore_clean tokens now)]
  refine forall₂_congr fun pre _ => ?_
  set w := (start tokens now).after pre
  have hstart : (start w.client.session.tokens w.now).client.isLoggedIn = w.client.session.isLive w.now :=
    w.client.session.restore_isLoggedIn w.now
  exact ⟨fun h hl => (h hl).1, fun h hl => ⟨h hl, hstart.trans (h hl)⟩⟩

/-- A token that expires is thrown away by the check that finds it so. -/
theorem expired_without_token :
    let w := (start (.memory (some ".eyJleHAiOjl9.") 0) ⟨0, 0⟩).after [.tick ⟨9, 0⟩, .ensureValid]
    w.client.isLoggedIn = false ∧ w.client.session.isLive w.now = false ∧
      (start w.client.session.tokens w.now).client.isLoggedIn = false := by
  have hgood := (anonymous_without_token (.memory (some ".eyJleHAiOjl9.") 0) ⟨0, 0⟩
    [.tick ⟨9, 0⟩, .ensureValid] (by decide +kernel)).1.mpr (by decide +kernel)
  have hend := hgood [.tick ⟨9, 0⟩, .ensureValid] List.prefix_rfl
  dsimp only at hend ⊢
  refine ⟨?_, hend ?_⟩ <;> decide +kernel

/-- A file takes the token, but the system cannot bring it to the disk. The login fails, and whoever starts a
client then is logged in. -/
theorem unfinished_login_stranded :
    let tree : Files.Tree := ⟨[], [], [.broken 99 (.other "Invalid argument (os error 22)")]⟩
    let es := [.begin 0 (.login "a@b.com" "x"), .reply 0 (.ok ⟨200, ".eyJleHAiOjl9."⟩)]
    let w := (start (.file "/token" tree) ⟨0, 0⟩).after es
    (start (.file "/token" tree) ⟨0, 0⟩).times disturbs es = 0 ∧ w.client.isLoggedIn = false ∧
      w.client.session.isLive w.now = true ∧
      (start w.client.session.tokens w.now).client.isLoggedIn = true := by
  decide +kernel

/-- The token of the first run, found expired at the start, stays where it is. It is good again once the clock
has been put back. -/
example :
    let w := (start (.memory (some ".eyJleHAiOjl9.") 0) ⟨9, 0⟩).after [.tick ⟨0, 0⟩]
    w.client.isLoggedIn = false ∧ w.client.session.isLive w.now = true := by
  decide +kernel

end World

end ChatClient
