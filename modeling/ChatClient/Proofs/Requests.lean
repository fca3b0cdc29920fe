import ChatClient.Proofs.Loading
import ChatClient.Proofs.Settling

/-!
The requests of the conversation. Each of them leaves only while somebody is logged in, and carries the
stored token, which is still good. This holds in any world, whatever has happened to the store of tokens
and to the clock before. A call that sends nothing is refused, unless it finds the history there already.
-/
namespace ChatClient

open Client (Begins)

def Call.converses : Call → Bool
  | .login .. | .register .. => false
  | _ => true

/-- The outcomes of a call that has been refused before anything is sent. -/
def Outcome.refused : Outcome → Bool
  | .entry (.error .emptyPrompt) | .entry (.error .unauthorized) => true
  | .entry (.error .nothingToResend) | .entries (.error .notAuthenticated) => true
  | _ => false

/-- What a call of the conversation asks of the backend. The token is still to be put on it. -/
def Client.asks? (c : Client) (call : Call) : Option Http.Request :=
  if call.loads then some (.get "/client") else (c.prompt? call).map (.postText "/client/use-api")

theorem Call.prompt_not_loads {c : Client} {call : Call} (h : c.prompt? call = some text) :
    call.loads = false := by
  cases call <;> first | rfl | cases h

theorem Http.Request.withToken_bare {r : Http.Request} (h : r.headers = []) (token : String) :
    r.withToken (some token) =
      { r with headers := [(authorizationName, "Bearer " ++ token)] } := by
  simp [withToken, setHeader, h]

namespace Client

/-- A request asks what its call asks, and carries the stored token, which is good at this moment, and no
other header. -/
structure Licensed (now : Time.Instant) (c : Client) (call : Call) (request : Http.Request) : Prop where
  token : ∃ token, c.session.Holds now token ∧
    request.headers = [(Http.Request.authorizationName, "Bearer " ++ token)]
  asked : c.asks? call = some { request with headers := [] }

theorem Licensed.of_usable {c : Client} (hu : c.session.usable now = true)
    (ha : c.asks? call = some bare) (hb : bare.headers = []) :
    c.Licensed now call (c.session.authorize bare) := by
  obtain ⟨token, ht⟩ := Session.usable_iff.mp hu
  rw [Session.authorize, ht.stored, Http.Request.withToken_bare hb]
  refine ⟨⟨token, ht, rfl⟩, ?_⟩
  rw [ha, ← hb]

/-- What a call of the conversation sends is licensed, and the session is the same before and after it. -/
theorem Begins.licensed {c d : Client} (h : Begins now c call (.waiting request ticket) d)
    (hc : call.converses = true) : c.Licensed now call request ∧ d.session = c.session := by
  cases h with
  | login | register => cases hc
  | @asked _ text hp _ hu =>
    -- The slot and the number have changed when the token is put on, the session has not.
    have ha : c.asks? call = some (.postText "/client/use-api" text) := by
      rw [asks?, Call.prompt_not_loads hp, hp]
      rfl
    exact ⟨.of_usable hu ha rfl, rfl⟩
  | loading hl hu _ => exact ⟨.of_usable hu (if_pos hl) rfl, rfl⟩

/-- A call that sends nothing is refused, or it has been a matter of the history, which is there. -/
theorem Begins.refused {c d : Client} (h : Begins now c call (.done outcome) d) :
    outcome.refused = true ∨
      call = .ensure ∧ c.session.usable now = true ∧ c.sync.conversation.loaded = true ∧
        outcome = .entries (.ok c.history) := by
  cases h with
  | missing | blank | unusable | shut => exact .inl rfl
  | cached hu hc => exact .inr ⟨rfl, hu, hc, rfl⟩

end Client

namespace World

/-- In any world: a request leaves only when a call is begun, and if the call is one of the conversation,
somebody is logged in then, and the request carries the stored token and no other header, and the token is
a credential that has not expired. A call of the conversation that sends nothing is refused, or else the
history is loaded already, and the call comes to the history. -/
theorem requests_licensed (w : World) :
    (∀ e request w', w.step e = (.sent request, w') → ∃ n call, e = .begin n call ∧
      (call.converses = true →
        w.client.Licensed w.now call request ∧ w'.client.session = w.client.session)) ∧
    ∀ n call, call.converses = true →
      (∃ request w', w.step (.begin n call) = (.sent request, w')) ∨
      ∃ outcome w', w.step (.begin n call) = (.ended outcome, w') ∧
        (outcome.refused = true ∨
          call = .ensure ∧ w.client.session.usable w.now = true ∧
            w.client.sync.conversation.loaded = true ∧
            outcome = .entries (.ok w.client.history)) := by
  constructor
  · intro e request w' hs
    have h := step_steps e w
    rw [hs] at h
    cases h with
    | sent hb => exact ⟨_, _, rfl, hb.licensed⟩
  · intro n call _
    have h := step_steps (.begin n call) w
    generalize hs : w.step (.begin n call) = r at h ⊢
    obtain ⟨o, w'⟩ := r
    cases h with
    | sent => exact .inl ⟨_, _, rfl⟩
    | done hb => exact .inr ⟨_, _, rfl, hb.refused⟩

theorem question_licensed :
    ∃ request w', signedIn.step (.begin 0 (.send "Why?")) = (.sent request, w') ∧
      signedIn.client.Licensed signedIn.now (.send "Why?") request := by
  have hp : signedIn.client.prompt? (.send "Why?") = some "Why?" := rfl
  obtain ⟨request, hs⟩ := sent_of_usable 0 hp (by decide +kernel) (by decide +kernel)
  obtain ⟨n, call, he, hl⟩ := (requests_licensed signedIn).1 _ request _ hs
  cases he
  exact ⟨request, _, hs, (hl rfl).1⟩

/-- The history has been loaded, and is asked for again: nothing is sent, and nothing refused. -/
theorem loaded_history_given :
    let w := signedIn.after [.begin 0 .load, .reply 0 (.ok ⟨200, "[]"⟩)]
    Reachable w ∧ (w.step (.begin 1 .ensure)).1 = .ended (.entries (.ok [])) ∧
      ¬((∃ request, (w.step (.begin 1 .ensure)).1 = .sent request) ∨
        ∃ outcome, (w.step (.begin 1 .ensure)).1 = .ended outcome ∧ outcome.refused = true) := by
  intro w
  have hu : w.client.session.usable w.now = true := by decide +kernel
  have hc : w.client.sync.conversation.loaded = true := by decide +kernel
  have hh : w.client.history = [] := by decide +kernel
  have hs : (w.step (.begin 1 .ensure)).1 = .ended (.entries (.ok [])) := by
    rw [(Steps.done (Begins.cached hu hc)).step_eq, hh]
  refine ⟨.after (.start ..) _, hs, ?_⟩
  rw [hs]
  rintro (⟨_, h⟩ | ⟨_, h, hr⟩)
  · cases h
  · cases h
    cases hr

end World

end ChatClient
