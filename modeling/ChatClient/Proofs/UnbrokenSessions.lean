import ChatClient.Proofs.Steps

/-!
Runs of one session. What can happen to it either begins a new generation, with a status that may be another one
or the same, or leaves generation and status alone and changes at most the stored token. So the generation counts
the turns of a session, and between two points of the same generation nobody has come or gone, and nobody has been
told so. A client does nothing else with its session, whatever happens to the client.
-/
namespace ChatClient

namespace Session

/-- What can happen to a session. A login and a registration end with their replies, the backend may refuse the
token, and who owns the store may put another in its place. -/
inductive Event
  | login (reply : Http.Reply)
  | register (reply : Http.Reply)
  | logout
  | refusal
  | check (now : Time.Instant)
  | forgetToken
  | outside (tokens : Token.Store)

def step (s : Session) : Event → Session
  | .login reply => (s.finishLogin reply).2
  | .register _ => s
  | .logout | .refusal => s.logout
  | .check now => (s.ensureValid now).2
  | .forgetToken => s.forgetToken
  | .outside tokens => { s with tokens }

/-- The session after the events of a list, in order. -/
def after (s : Session) : List Event → Session
  | [] => s
  | e :: es => (s.step e).after es

/-- The events that are a turn: a login that comes to its end well, every logout, every refusal, and a check that
finds somebody logged in with a token that is not good any more. -/
def turns (s : Session) : Event → Bool
  | .login reply => (s.finishLogin reply).1.isOk
  | .logout | .refusal => true
  | .check now => s.isLoggedIn && !s.isLive now
  | .register _ | .forgetToken | .outside _ => false

/-- How many events of a run are turns. -/
def turnsIn (s : Session) : List Event → Nat
  | [] => 0
  | e :: es => (if s.turns e then 1 else 0) + (s.step e).turnsIn es

@[simp] theorem transition_generation (next : Status) (s : Session) :
    (s.transition next).generation = s.generation + 1 := rfl

/-- An event is a transition, or it changes nothing but the store. -/
theorem step_cases (s : Session) (e : Event) :
    (s.turns e = true ∧ ∃ tokens next, s.step e = { s with tokens }.transition next) ∨
    (s.turns e = false ∧ ∃ tokens, s.step e = { s with tokens }) := by
  cases e with
  | login reply =>
    rw [turns, step, finishLogin]
    cases issued reply with
    | error => exact .inr ⟨rfl, _, rfl⟩
    | ok credential =>
      -- The session begins only when the store has taken the token.
      rcases hs : s.tokens.set credential.raw with ⟨_ | _, tokens⟩ <;> simp only [hs]
      · exact .inr ⟨rfl, _, rfl⟩
      · exact .inl ⟨rfl, _, _, rfl⟩
  | register => exact .inr ⟨rfl, _, rfl⟩
  | logout | refusal => exact .inl ⟨rfl, _, _, rfl⟩
  | check now =>
    have hturn : s.turns (.check now) = s.expired now := rfl
    rw [hturn, step, ensureValid_eq]
    cases s.expired now with
    | true => exact .inl ⟨rfl, _, _, rfl⟩
    | false => exact .inr ⟨rfl, _, rfl⟩
  | forgetToken => exact .inr ⟨rfl, _, rfl⟩
  | outside tokens => exact .inr ⟨rfl, tokens, rfl⟩

theorem step_generation (s : Session) (e : Event) :
    (s.step e).generation = s.generation + if s.turns e then 1 else 0 := by
  rcases s.step_cases e with ⟨ht, tokens, next, he⟩ | ⟨ht, tokens, he⟩ <;> simp [ht, he]

/-- Who watches the status is told exactly when it becomes another. -/
theorem step_changes (s : Session) (e : Event) :
    (s.step e).changes = s.changes + if (s.step e).status = s.status then 0 else 1 := by
  rcases s.step_cases e with ⟨-, tokens, next, he⟩ | ⟨-, tokens, he⟩
  · by_cases hsame : s.status = next
    · simp [he, transition, hsame]
    · simp [he, transition, hsame, Ne.symm hsame]
  · simp [he]

theorem after_generation (s : Session) (es : List Event) :
    (s.after es).generation = s.generation + s.turnsIn es := by
  induction es generalizing s with
  | nil => rfl
  | cons e es ih => rw [after, ih, step_generation, turnsIn, Nat.add_assoc]

theorem generation_le_after (s : Session) (es : List Event) : s.generation ≤ (s.after es).generation := by
  rw [after_generation]
  exact Nat.le_add_right ..

/-- The same generation, the same status, and no news of it. -/
structure Unbroken (s s' : Session) : Prop where
  generation : s'.generation = s.generation
  status : s'.status = s.status
  changes : s'.changes = s.changes

theorem Unbroken.trans {s s' s'' : Session} (h : s.Unbroken s') (h' : s'.Unbroken s'') : s.Unbroken s'' :=
  ⟨h'.generation.trans h.generation, h'.status.trans h.status, h'.changes.trans h.changes⟩

theorem step_unbroken {s : Session} {e : Event} (hg : (s.step e).generation = s.generation) :
    s.Unbroken (s.step e) := by
  rcases s.step_cases e with ⟨-, tokens, next, he⟩ | ⟨-, tokens, he⟩
  · rw [he, transition_generation] at hg
    exact absurd hg (Nat.succ_ne_self _)
  · rw [he]
    exact ⟨rfl, rfl, rfl⟩

/-- A generation that is the same at both ends of a run is the same all along. -/
theorem after_unbroken {s : Session} {es part : List Event} (hg : (s.after es).generation = s.generation)
    (hp : part <+: es) : s.Unbroken (s.after part) := by
  induction es generalizing s part with
  | nil =>
    rw [List.prefix_nil.mp hp]
    exact ⟨rfl, rfl, rfl⟩
  | cons e es ih =>
    rcases List.prefix_cons_iff.mp hp with rfl | ⟨rest, rfl, hrest⟩
    · exact ⟨rfl, rfl, rfl⟩
    · have hfirst : (s.step e).generation = s.generation := by
        have hle := (s.step e).generation_le_after es
        have hstep := s.step_generation e
        rw [after] at hg
        omega
      exact (step_unbroken hfirst).trans (ih (hg.trans hfirst.symm) hrest)

/-- Whatever happens to a session, in any state and any order: its generation rises by one with each turn and with
nothing else, so that it never falls. Who watches the status is told when it becomes another, and not otherwise.
Between two points of a run with the same generation the status has been the same all the time, and nobody has been
told of a change. -/
theorem generation_counts_turns (s : Session) (es : List Event) :
    (s.after es).generation = s.generation + s.turnsIn es ∧
      s.generation ≤ (s.after es).generation ∧
      (∀ e, (s.step e).changes = s.changes + if (s.step e).status = s.status then 0 else 1) ∧
      ((s.after es).generation = s.generation → ∀ part, part <+: es →
        (s.after part).generation = s.generation ∧ (s.after part).status = s.status ∧
          (s.after part).changes = s.changes) := by
  refine ⟨s.after_generation es, s.generation_le_after es, s.step_changes, fun hg part hp => ?_⟩
  obtain ⟨hgeneration, hstatus, hchanges⟩ := after_unbroken hg hp
  exact ⟨hgeneration, hstatus, hchanges⟩

/-- The token is gone, a login is rejected and somebody registers, but nobody asks whether the session may be
used: for all that it is the same session. -/
theorem unchecked_session_unbroken :
    let s : Session := ⟨.memory (some "T") 0, .authenticated, 4, 1⟩
    let es : List Event := [.forgetToken, .login (.ok ⟨401, ""⟩), .register (.ok ⟨200, ""⟩)]
    (s.after es).generation = s.generation ∧ es.take 2 <+: es ∧ (s.after (es.take 2)).tokens.get? = none ∧
      (s.after (es.take 2)).status = .authenticated ∧ (s.after (es.take 2)).changes = 1 := by
  intro s es
  have hg : (s.after es).generation = s.generation := by decide +kernel
  have hp : es.take 2 <+: es := List.take_prefix ..
  obtain ⟨-, hstatus, hchanges⟩ := (s.generation_counts_turns es).2.2.2 hg _ hp
  exact ⟨hg, hp, by decide +kernel, hstatus, hchanges⟩

end Session

namespace Client

theorem checked_session (now : Time.Instant) (c : Client) :
    (c.checked now).session = c.session.after [.check now] := by
  have hcheck : c.session.after [.check now] = (c.session.ensureValid now).2 := rfl
  rw [hcheck, Session.ensureValid_eq, checked]
  split <;> rfl

theorem logoutIf_session (refused : Bool) (c : Client) :
    ∃ es, (c.logoutIf refused).session = c.session.after es := by
  cases refused with
  | false => exact ⟨[], rfl⟩
  | true => exact ⟨[.refusal], rfl⟩

theorem Begins.session {c d : Client} (h : Begins now c call begun d) :
    ∃ es, d.session = c.session.after es := by
  have hopened (call : Call) : (c.opened call).session = c.session := by
    unfold opened
    split <;> rfl
  cases h with
  | blank => exact ⟨[], hopened call⟩
  | unusable => exact ⟨_, (checked_session now _).trans (by rw [hopened])⟩
  | shut => exact ⟨_, checked_session now c⟩
  | _ => exact ⟨[], rfl⟩

theorem Finishes.session {c d : Client} (h : Finishes c ticket reply outcome d) :
    ∃ es, d.session = c.session.after es := by
  cases h with
  | loggedIn hi hs => exact ⟨[.login reply], by simp [Session.after, Session.step, Session.finishLogin, hi, hs]⟩
  | rejected => exact ⟨[.outside _], rfl⟩
  | registered => exact ⟨[.register reply], rfl⟩
  | superseded => exact logoutIf_session _ c.sync
  | failed | unfetched => exact logoutIf_session _ (c.modify _)
  | _ => exact ⟨[], rfl⟩

end Client

namespace World

/-- An event of a client does with the session what events of the session do. -/
theorem Steps.session {w w' : World} (h : Steps w e o w') :
    ∃ es, w'.client.session = w.client.session.after es := by
  cases h with
  | done hb | sent hb => exact hb.session
  | finished _ hf => exact hf.session
  | outside => exact ⟨[.outside _], rfl⟩
  | loggedOut => exact ⟨[.logout], rfl⟩
  | forgotten => exact ⟨[.forgetToken], rfl⟩
  | checked => exact ⟨_, Client.checked_session _ _⟩
  | _ => exact ⟨[], rfl⟩

/-- In a run of a client, too, the generation never falls, and the session is unbroken as long as its generation
is the same. -/
theorem after_unbroken (w : World) (es : List Event) :
    w.client.session.generation ≤ (w.after es).client.session.generation ∧
      ((w.after es).client.session.generation = w.client.session.generation →
        w.client.session.Unbroken (w.after es).client.session) := by
  induction es generalizing w with
  | nil => exact ⟨Nat.le_refl _, fun _ => ⟨rfl, rfl, rfl⟩⟩
  | cons e es ih =>
    obtain ⟨ses, hs⟩ := (step_steps e w).session
    obtain ⟨hle, hrest⟩ := ih (w.step e).2
    have hfirst := w.client.session.generation_le_after ses
    rw [← hs] at hfirst
    rw [after]
    refine ⟨Nat.le_trans hfirst hle, fun hg => ?_⟩
    have hsame : (w.step e).2.client.session.generation = w.client.session.generation := by omega
    have hunbroken := Session.after_unbroken (hs ▸ hsame) (List.prefix_refl ses)
    rw [← hs] at hunbroken
    exact hunbroken.trans (hrest (hg.trans hsame.symm))

end World

end ChatClient
