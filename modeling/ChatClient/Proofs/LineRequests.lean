import ChatClient.Proofs.ListedEntries
import ChatClient.Proofs.Requests

/-!
What a line of the chat asks of the backend. A line makes one call at most, and a call sends one request at
most, so a record of all requests grows by one at most. What the request is can be told from the line and the
client before it: a prompt for a line that sends one, the history for a line that lists it.
-/
namespace ChatClient

open Client (Begins)

/-- The request for which a call waits. -/
def Begun.request? : Begun τ α → Option Http.Request
  | .done _ => none
  | .waiting request _ => some request

theorem Begun.request?_map (f : τ → ρ) (g : α → β) (begun : Begun τ α) :
    (begun.map f g).request? = begun.request? := by
  cases begun <;> rfl

namespace Chat

/-- A network that keeps a record of the requests that it has answered. -/
def recording (answer : Network σ) : Network (σ × List Http.Request) :=
  fun (network, log) request =>
    let (reply, network) := answer network request
    (reply, network, log ++ [request])

/-- The chat over a network that keeps a record. -/
def withLog (log : List Http.Request) (chat : Chat σ) : Chat (σ × List Http.Request) :=
  ⟨chat.client, chat.network, log⟩

theorem await_recording (answer : Network σ) (finish : τ → Http.Reply → Client → α × Client) (network : σ)
    (log : List Http.Request) (begun : Begun τ α × Client) :
    await (recording answer) finish (network, log) begun =
      ((await answer finish network begun).1,
        (await answer finish network begun).2.withLog (log ++ begun.1.request?.toList)) := by
  obtain ⟨_ | ⟨request, ticket⟩, client⟩ := begun
  · simp [await, withLog, Begun.request?]
  · rfl

/-- A call goes over a network that keeps a record as it goes without, and adds its request to the record. -/
theorem completeSend_recording (answer : Network σ) (network : σ) (log : List Http.Request)
    (begun : Begun PromptTicket (Except SendError Entry) × Client) :
    completeSend (recording answer) (network, log) begun =
      ((completeSend answer network begun).1, (completeSend answer network begun).2.1,
        (completeSend answer network begun).2.2.withLog (log ++ begun.1.request?.toList)) := by
  rw [completeSend, await_recording]
  rfl

theorem completeLoad_recording (answer : Network σ) (network : σ) (log : List Http.Request)
    (begun : Begun HistoryTicket (Except FetchError (List Entry)) × Client) :
    completeLoad (recording answer) (network, log) begun =
      ((completeLoad answer network begun).1, (completeLoad answer network begun).2.1,
        (completeLoad answer network begun).2.2.withLog (log ++ begun.1.request?.toList)) := by
  rw [completeLoad, await_recording]
  rfl

/-- The request that a line sends. -/
def request? (now : Time.Instant) (text : String) (c : Client) : Option Http.Request :=
  (call? text).bind fun call => (c.begin now call).1.request?

theorem request?_none (now : Time.Instant) (c : Client) (hc : call? text = none) : request? now text c = none := by
  rw [request?, hc, Option.bind_none]

theorem request?_some (now : Time.Instant) (c : Client) (hc : call? text = some call) :
    request? now text c = (c.begin now call).1.request? := by
  rw [request?, hc, Option.bind_some]

theorem select_withLog (number : String) (log : List Http.Request) (chat : Chat σ) :
    select number (chat.withLog log) = ((select number chat).1, (select number chat).2.withLog log) := by
  have hsame : (chat.withLog log).numbered? number = chat.numbered? number := rfl
  cases h : chat.numbered? number with
  | none =>
    rw [select_missing h, select_missing (hsame.trans h)]
    rfl
  | some entry =>
    rw [select_found h, select_found (hsame.trans h)]
    rfl

theorem delete_withLog (number : String) (log : List Http.Request) (chat : Chat σ) :
    delete number (chat.withLog log) = ((delete number chat).1, (delete number chat).2.withLog log) := by
  have hsame : (chat.withLog log).numbered? number = chat.numbered? number := rfl
  cases h : chat.numbered? number with
  | none =>
    rw [delete_missing h, delete_missing (hsame.trans h)]
    rfl
  | some entry =>
    rw [delete_found h, delete_found (hsame.trans h)]
    rfl

theorem command_recording (answer : Network σ) (now : Time.Instant) (log : List Http.Request) (chat : Chat σ)
    (hw : command? text = some words) :
    command (recording answer) now shown words (chat.withLog log) =
      ((command answer now shown words chat).1, (command answer now shown words chat).2.1,
        (command answer now shown words chat).2.2.withLog (log ++ (request? now text chat.client).toList)) := by
  unfold command
  split
  · have hc : call? text = none := by simp [call?, hw]
    simp [request?_none now _ hc]
  · have hc : call? text = some .ensure := call?_eq_some.mpr (.listed hw)
    simp [request?_some now _ hc, history, withLog, completeLoad_recording, Client.begin, Begun.request?_map]
  · have hc : call? text = some .load := call?_eq_some.mpr (.reloaded hw)
    simp [request?_some now _ hc, withLog, completeLoad_recording, Client.begin, Begun.request?_map]
  · have hc : call? text = none := by simp [call?, hw]
    simp [request?_none now _ hc, select_withLog]
  · have hc : call? text = none := by simp [call?, hw]
    simp [request?_none now _ hc, delete_withLog]
  · have hc : call? text = some .redo := call?_eq_some.mpr (.redone hw)
    simp [request?_some now _ hc, withLog, completeSend_recording, Client.begin, Begun.request?_map, sessionFlow]
  · have hc : call? text = some .retry := call?_eq_some.mpr (.retried hw)
    simp [request?_some now _ hc, withLog, completeSend_recording, Client.begin, Begun.request?_map, sessionFlow]
  · have hc : call? text = none := by simp [call?, hw]
    simp [request?_none now _ hc, withLog]
  · have hc : call? text = none := by simp [call?, hw]
    simp [request?_none now _ hc, withLog, logout]
  · have hc : call? text = none := by simp [call?, hw]
    simp [request?_none now _ hc]
  · have hc : call? text = none := by simp [call?, hw]
    simp [request?_none now _ hc]
  · have hc : call? text = none := by simp_all [call?]
    simp_all [request?_none now _ hc]

/-- A record changes nothing but itself: the request of the line is added to it, if the line sends one. -/
theorem handleLine_recording (answer : Network σ) (now : Time.Instant) (text : String) (log : List Http.Request)
    (chat : Chat σ) :
    (chat.withLog log).handleLine (recording answer) now text =
      ((chat.handleLine answer now text).1, (chat.handleLine answer now text).2.1,
        (chat.handleLine answer now text).2.2.withLog (log ++ (request? now text chat.client).toList)) := by
  cases hw : command? text with
  | some words =>
    rw [handleLine_command _ now _ hw, handleLine_command answer now chat hw]
    exact command_recording answer now log chat hw
  | none =>
    by_cases ht : Text.trim text = ""
    · have hc : call? text = none := by simp [call?, hw, ht]
      simp [handleLine, ht, request?_none now _ hc]
    · have hc : call? text = some (.send (Text.trim text)) := by simp [call?, hw, ht]
      have hr : request? now text chat.client = (chat.client.beginSend now (Text.trim text)).1.request? := by
        simp [request?_some now _ hc, Client.begin, Begun.request?_map]
      have hlogged := completeSend_recording answer chat.network log (chat.client.beginSend now (Text.trim text))
      rcases ho : completeSend answer chat.network (chat.client.beginSend now (Text.trim text))
        with ⟨ok, out, chat'⟩
      rw [ho, ← hr] at hlogged
      have hline : (chat.withLog log).handleLine (recording answer) now text = _ :=
        handleLine_prompt (recording answer) now hw ht hlogged
      rw [hline, handleLine_prompt answer now hw ht ho]
      rfl

/-- The prompts that a line may send: itself, if it is no command; what is shown of the history, if it asks
again; what is shown as failed, if it tries again. -/
inductive Prompts (c : Client) (text : String) : String → Prop
  | typed (ha : Text.afterLead? ":" (Text.trim text) = none) : Prompts c text (Text.trim text)
  | redone (hw : command? text = some ("redo", argument)) (hs : c.current = .resolved entry .history) :
      Prompts c text entry.prompt
  | retried (hw : command? text = some ("retry", argument)) (hs : c.current = .failed entry error) :
      Prompts c text entry.prompt

/-- The lines that have the history sent: those that want it anew, and those that want it and do not find it
loaded in this session. -/
inductive Fetching (c : Client) (text : String) : Prop
  | reloaded (hw : command? text = some ("reload", argument))
  | missing (hw : command? text = some ("history", argument)) (hl : c.sync.conversation.loaded = false)

/-- What a line may ask of the backend. -/
inductive Asks (c : Client) (text : String) : Http.Request → Prop
  | prompt (hp : Prompts c text prompt) (hb : Text.isBlank prompt = false) :
      Asks c text (c.session.authorize (.postText "/client/use-api" prompt))
  | history (hf : Fetching c text) : Asks c text (c.session.authorize (.get "/client"))

end Chat

namespace Client

theorem redoable?_eq_some {c : Client} :
    c.current.redoable? = some prompt ↔ ∃ entry, c.current = .resolved entry .history ∧ entry.prompt = prompt := by
  rcases c.current with _ | _ | ⟨entry, _ | _⟩ | _ <;> simp [Slot.redoable?]

theorem retryable?_eq_some {c : Client} :
    c.current.retryable? = some prompt ↔ ∃ entry error, c.current = .failed entry error ∧ entry.prompt = prompt := by
  rcases c.current with _ | _ | _ | ⟨entry, error⟩ <;> simp [Slot.retryable?]

/-- A call of the conversation that sends a request: a prompt that is not blank, or a load that is needed. -/
theorem begin_request? (now : Time.Instant) {call : Call} (hc : call.converses = true) (c : Client) :
    (c.begin now call).1.request? = some request ↔ c.session.usable now = true ∧
      ((∃ text, c.prompt? call = some text ∧ Text.isBlank text = false ∧
          request = c.session.authorize (.postText "/client/use-api" text)) ∨
        call.loads = true ∧ (call = .ensure → c.sync.conversation.loaded = false) ∧
          request = c.session.authorize (.get "/client")) := by
  have h := begin_begins now call c
  rcases he : c.begin now call with ⟨begun, c'⟩
  simp only [he] at h
  constructor
  · intro hr
    cases h with
    | login | register => cases hc
    | missing | blank | unusable | shut | cached => cases hr
    | asked hp hb hu => exact ⟨hu, .inl ⟨_, hp, hb, (Option.some.inj hr).symm⟩⟩
    | loading hl hu hn => exact ⟨hu, .inr ⟨hl, hn, (Option.some.inj hr).symm⟩⟩
  · rintro ⟨hu, ⟨text, hp, hb, rfl⟩ | ⟨hl, hn, rfl⟩⟩
    · obtain ⟨rfl, -⟩ := h.unique (.asked hp hb hu)
      rfl
    · obtain ⟨rfl, -⟩ := h.unique (.loading hl hu hn)
      rfl

end Client

namespace Chat

theorem Calls.converses (h : Calls text call) : call.converses = true := by
  cases h <;> rfl

/-- A line sends what it asks, if the session may be used. -/
theorem request?_iff (now : Time.Instant) (text : String) (c : Client) :
    request? now text c = some request ↔ c.session.usable now = true ∧ Asks c text request := by
  rw [request?, Option.bind_eq_some_iff]
  simp only [call?_eq_some]
  constructor
  · rintro ⟨call, hc, hr⟩
    obtain ⟨hu, hasked⟩ := (Client.begin_request? now hc.converses c).mp hr
    refine ⟨hu, ?_⟩
    obtain ⟨prompt, hp, hb, rfl⟩ | ⟨hl, hn, rfl⟩ := hasked
    · cases hc with
      | sent ha =>
        obtain rfl := Option.some.inj hp
        exact .prompt (.typed ha) hb
      | redone hw =>
        obtain ⟨entry, hs, rfl⟩ := Client.redoable?_eq_some.mp hp
        exact .prompt (.redone hw hs) hb
      | retried hw =>
        obtain ⟨entry, error, hs, rfl⟩ := Client.retryable?_eq_some.mp hp
        exact .prompt (.retried hw hs) hb
      | listed | reloaded => cases hp
    · cases hc with
      | listed hw => exact .history (.missing hw (hn rfl))
      | reloaded hw => exact .history (.reloaded hw)
      | sent | redone | retried => cases hl
  · rintro ⟨hu, hasks⟩
    cases hasks with
    | prompt hp hb =>
      cases hp with
      | typed ha =>
        have ht : Text.trim text ≠ "" := by
          intro ht
          rw [ht] at hb
          cases hb
        exact ⟨_, .sent ha ht, (Client.begin_request? now rfl c).mpr ⟨hu, .inl ⟨_, rfl, hb, rfl⟩⟩⟩
      | redone hw hs =>
        have hp := Client.redoable?_eq_some.mpr ⟨_, hs, rfl⟩
        exact ⟨_, .redone hw, (Client.begin_request? now rfl c).mpr ⟨hu, .inl ⟨_, hp, hb, rfl⟩⟩⟩
      | retried hw hs =>
        have hp := Client.retryable?_eq_some.mpr ⟨_, _, hs, rfl⟩
        exact ⟨_, .retried hw, (Client.begin_request? now rfl c).mpr ⟨hu, .inl ⟨_, hp, hb, rfl⟩⟩⟩
    | history hf =>
      cases hf with
      | reloaded hw => exact ⟨_, .reloaded hw, (Client.begin_request? now rfl c).mpr ⟨hu, .inr ⟨rfl, nofun, rfl⟩⟩⟩
      | missing hw hl => exact ⟨_, .listed hw, (Client.begin_request? now rfl c).mpr ⟨hu, .inr ⟨rfl, fun _ => hl, rfl⟩⟩⟩

/-- What a line adds to the record of the network's requests: one request or none. It is a request exactly if the
session may be used and the line asks for it: a prompt that is not blank, which is the line itself, or else is
shown in the slot and asked again or tried again, or the history. All other lines send nothing. -/
theorem line_requests (answer : Network σ) (now : Time.Instant) (text : String) (log : List Http.Request)
    (chat : Chat σ) :
    ∃ sent : Option Http.Request,
      (chat.withLog log).handleLine (recording answer) now text =
        ((chat.handleLine answer now text).1, (chat.handleLine answer now text).2.1,
          (chat.handleLine answer now text).2.2.withLog (log ++ sent.toList)) ∧
      ∀ request, sent = some request ↔
        chat.client.session.usable now = true ∧ Asks chat.client text request :=
  ⟨request? now text chat.client, handleLine_recording answer now text log chat,
    fun _ => request?_iff now text chat.client⟩

end Chat

end ChatClient
