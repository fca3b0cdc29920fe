import ChatClient.Proofs.Replies
import ChatClient.Proofs.Run

/-!
What each half of a call can do, as one list of cases. The proofs about runs go by these lists and by
the few equations before them, and do not look into the calls again.
-/
namespace ChatClient

/-- The calls that send once more what the slot shows. -/
def Call.resends : Call → Bool
  | .redo | .retry => true
  | _ => false

def Call.loads : Call → Bool
  | .load | .ensure => true
  | _ => false

theorem Call.resends_not_loads {call : Call} (h : call.resends = true) : call.loads = false := by
  cases call <;> first | rfl | cases h

namespace Session

/-- Logged in, and with a token that is still good. -/
def usable (now : Time.Instant) (s : Session) : Bool := s.isLoggedIn && s.isLive now

/-- Logged in, but with a token that is not good any more. -/
def expired (now : Time.Instant) (s : Session) : Bool := s.isLoggedIn && !s.isLive now

theorem ensureValid_eq (now : Time.Instant) (s : Session) :
    s.ensureValid now = (s.usable now, if s.expired now then s.logout else s) := by
  cases hl : s.isLoggedIn <;> cases hv : s.isLive now <;>
    simp [ensureValid, usable, expired, hl, hv]

theorem usable_not_expired {s : Session} (h : s.usable now = true) : s.expired now = false := by
  simp_all [usable, expired]

theorem usable_loggedIn {s : Session} (h : s.usable now = true) : s.isLoggedIn = true := by
  simp_all [usable]

/-- The user is logged in, and the token is the one that is stored. It is a credential that has not
expired. -/
structure Holds (s : Session) (now : Time.Instant) (token : String) : Prop where
  loggedIn : s.status = .authenticated
  stored : s.tokens.get? = some token
  valid : ∃ credential, Token.Credential.decode token = .ok credential ∧
    credential.validAt now = true

theorem credential?_eq {s : Session} (hs : s.tokens.get? = some token)
    (hd : Token.Credential.decode token = .ok credential) : s.credential? = .ok (some credential) := by
  simp [Session.credential?, hs, hd, Except.map]

theorem usable_iff {s : Session} : s.usable now = true ↔ ∃ token, s.Holds now token := by
  constructor
  · intro h
    have hl : s.status = .authenticated := by simpa [isLoggedIn] using usable_loggedIn h
    simp only [usable, isLive, credential?, Bool.and_eq_true] at h
    cases ht : s.tokens.get? with
    | none => simp [ht] at h
    | some token =>
      cases hd : Token.Credential.decode token with
      | error e => simp [ht, hd, Except.map] at h
      | ok credential =>
        have hv : credential.validAt now = true := by simpa [ht, hd, Except.map] using h.2
        exact ⟨token, hl, ht, credential, hd, hv⟩
  · rintro ⟨token, hl, ht, credential, hd, hv⟩
    simp [usable, isLoggedIn, hl, isLive, credential?_eq ht hd, hv]

@[simp] theorem logout_generation (s : Session) : s.logout.generation = s.generation + 1 := rfl

@[simp] theorem logout_isLoggedIn (s : Session) : s.logout.isLoggedIn = false := rfl

end Session

namespace Conversation

/-- Bringing the conversation up to the session either changes nothing or wipes it. -/
theorem sync_cases (g : Nat) (b : Bool) (c : Conversation) :
    (c.generation = g ∨ b = false) ∧ c.sync g b = c ∨
    c.generation ≠ g ∧ b = true ∧ c.sync g b = ({ c with generation := g }.reset.publish .empty) := by
  unfold sync
  split
  · left; exact ⟨by assumption, rfl⟩
  · right; simp_all

theorem sync_idle {c : Conversation} (h : c.generation = g ∨ b = false) : c.sync g b = c :=
  if_pos h

@[simp] theorem sync_sync (g : Nat) (b : Bool) (c : Conversation) :
    (c.sync g b).sync g b = c.sync g b := by
  rcases sync_cases g b c with ⟨h, he⟩ | ⟨_, _, he⟩
  · rw [he, sync_idle h]
  · rw [he]; exact sync_idle (.inl rfl)

@[simp] theorem release_generation (r : RequestId) (c : Conversation) :
    (c.release r).generation = c.generation := by
  unfold release; split <;> rfl

@[simp] theorem release_history (r : RequestId) (c : Conversation) :
    (c.release r).history = c.history := by
  unfold release; split <;> rfl

@[simp] theorem release_nextInsert (r : RequestId) (c : Conversation) :
    (c.release r).nextInsert = c.nextInsert := by
  unfold release; split <;> rfl

theorem sync_nextInsert (g : Nat) (b : Bool) (c : Conversation) :
    (c.sync g b).nextInsert = c.nextInsert := by
  unfold sync; split <;> rfl

theorem sync_generation (c : Conversation) : (c.sync g true).generation = g := by
  rcases sync_cases g true c with ⟨h, he⟩ | ⟨_, _, he⟩
  · simpa [he] using h
  · rw [he]; rfl

end Conversation

namespace Client

@[simp] theorem sync_session (c : Client) : c.sync.session = c.session := rfl

@[simp] theorem sync_nextRequest (c : Client) : c.sync.nextRequest = c.nextRequest := rfl

theorem sync_conversation (c : Client) :
    (c.conversation.generation = c.session.generation ∨ c.isLoggedIn = false) ∧
      c.sync.conversation = c.conversation ∨
    c.conversation.generation ≠ c.session.generation ∧ c.isLoggedIn = true ∧
      c.sync.conversation =
        { c.conversation with generation := c.session.generation }.reset.publish .empty :=
  Conversation.sync_cases ..

@[simp] theorem sync_sync (c : Client) : c.sync.sync = c.sync := by simp [sync]

@[simp] theorem modify_sync (f : Conversation → Conversation) (c : Client) :
    c.sync.modify f = c.modify f := by
  rw [modify, sync_sync, ← modify]

@[simp] theorem modify_session (f : Conversation → Conversation) (c : Client) :
    (c.modify f).session = c.session := rfl

@[simp] theorem modify_conversation (f : Conversation → Conversation) (c : Client) :
    (c.modify f).conversation = f c.sync.conversation := rfl

@[simp] theorem modify_nextRequest (f : Conversation → Conversation) (c : Client) :
    (c.modify f).nextRequest = c.nextRequest := rfl

theorem sync_uptodate (c : Client) :
    c.sync.conversation.generation = c.session.generation ∨ c.isLoggedIn = false := by
  rcases c.sync_conversation with ⟨h, he⟩ | ⟨_, _, he⟩
  · rwa [he]
  · rw [he]; exact .inl rfl

theorem sync_idle {c : Client}
    (h : c.conversation.generation = c.session.generation ∨ c.isLoggedIn = false) : c.sync = c := by
  have hc : c.conversation.sync c.session.generation c.session.isLoggedIn = c.conversation :=
    Conversation.sync_idle h
  rw [sync, hc]

/-- A change that leaves the generation alone leaves nothing to be brought up to the session. -/
theorem sync_modify {f : Conversation → Conversation} {c : Client}
    (hf : (f c.sync.conversation).generation = c.sync.conversation.generation) :
    (c.modify f).sync = c.modify f :=
  sync_idle (by rw [modify_conversation, hf]; exact c.sync_uptodate)

/-- Two changes of the conversation, one after the other, are one change. -/
theorem modify_modify {f g : Conversation → Conversation} {c : Client}
    (hf : ∀ d, (f d).generation = d.generation) : (c.modify f).modify g = c.modify (g ∘ f) := by
  rw [modify, sync_modify (hf _)]
  rfl

/-- The client as the check of its session leaves it. -/
def checked (now : Time.Instant) (c : Client) : Client :=
  if c.session.expired now then c.logout else c

theorem ensureValid_eq (now : Time.Instant) (c : Client) :
    c.ensureValid now = (c.session.usable now, c.checked now) := by
  rw [checked]
  cases he : c.session.expired now <;> simp [ensureValid, Session.ensureValid_eq, he, logout]

theorem checked_usable {c : Client} (h : c.session.usable now = true) : c.checked now = c := by
  simp [checked, Session.usable_not_expired h]

theorem checked_anonymous {c : Client} (h : c.isLoggedIn = false) : c.checked now = c := by
  have he : c.session.expired now = false := by
    simp_all [isLoggedIn, Session.expired]
  simp [checked, he]

theorem checked_not_usable {c : Client} (h : c.session.usable now = false) :
    (c.checked now).session.status = .anonymous := by
  rw [checked]
  split
  · rfl
  · rename_i he
    cases hs : c.session.status with
    | anonymous => rfl
    | authenticated => simp_all [Session.usable, Session.expired, Session.isLoggedIn]

@[simp] theorem checked_conversation (now : Time.Instant) (c : Client) :
    (c.checked now).conversation = c.conversation := by
  unfold checked; split <;> rfl

@[simp] theorem checked_nextRequest (now : Time.Instant) (c : Client) :
    (c.checked now).nextRequest = c.nextRequest := by
  unfold checked; split <;> rfl

/-- The text that a call would send as a prompt. -/
def prompt? (c : Client) : Call → Option String
  | .send text => some text
  | .redo => c.current.redoable?
  | .retry => c.current.retryable?
  | _ => none

theorem loads_prompt (c : Client) {call : Call} (h : call.loads = true) : c.prompt? call = none := by
  cases call <;> first | rfl | cases h

/-- A call that sends again looks at the slot first. -/
def opened (call : Call) (c : Client) : Client := if call.resends then c.sync else c

/-- The client that has sent a prompt and waits for its answer. -/
def asking (now : Time.Instant) (text : String) (c : Client) : Client :=
  { c.modify (·.publish (.pending c.nextRequest (.asked text now))) with
    nextRequest := c.nextRequest + 1 }

/-- The first half of a call: what it comes to, and what it leaves. -/
inductive Begins (now : Time.Instant) (c : Client) : Call → Begun Ticket Outcome → Client → Prop
  | login : Begins now c (.login email password)
      (.waiting (c.session.loginRequest email password) .login) c
  | register : Begins now c (.register r) (.waiting (c.session.registerRequest r) .register) c
  | missing (hr : call.resends = true) (hp : c.prompt? call = none) :
      Begins now c call (.done (.entry (.error .nothingToResend))) c.sync
  | blank (hp : c.prompt? call = some text) (hb : Text.isBlank text = true) :
      Begins now c call (.done (.entry (.error .emptyPrompt))) (c.opened call)
  | unusable (hp : c.prompt? call = some text) (hb : Text.isBlank text = false)
      (hu : c.session.usable now = false) :
      Begins now c call (.done (.entry (.error .unauthorized))) ((c.opened call).checked now)
  | asked (hp : c.prompt? call = some text) (hb : Text.isBlank text = false)
      (hu : c.session.usable now = true) :
      Begins now c call
        (.waiting (c.session.authorize (.postText "/client/use-api" text))
          (.prompt ⟨c.session.generation, c.nextRequest, .asked text now⟩))
        (c.asking now text)
  | shut (hl : call.loads = true) (hu : c.session.usable now = false) :
      Begins now c call (.done (.entries (.error .notAuthenticated))) (c.checked now)
  | loading (hl : call.loads = true) (hu : c.session.usable now = true)
      (hc : call = .ensure → c.sync.conversation.loaded = false) :
      Begins now c call
        (.waiting (c.session.authorize (.get "/client"))
          (.history ⟨c.session.generation, c.sync.conversation.nextInsert⟩))
        c.sync
  | cached (hu : c.session.usable now = true) (hc : c.sync.conversation.loaded = true) :
      Begins now c .ensure (.done (.entries (.ok c.history))) c.sync

theorem beginSend_begins (call : Call) (hp : c.prompt? call = some text) (ho : c.opened call = d) :
    Begins now c call ((d.beginSend now text).1.map .prompt .entry) (d.beginSend now text).2 := by
  have hd : d.session = c.session ∧ d.nextRequest = c.nextRequest ∧ d.sync = c.sync := by
    subst ho; unfold opened; split <;> simp
  obtain ⟨hs, hn, hc⟩ := hd
  cases hb : Text.isBlank text with
  | true =>
    have hblank : Begins now c call _ _ := .blank hp hb
    simpa [beginSend, hb, Begun.map, ho] using hblank
  | false =>
    cases hu : c.session.usable now with
    | false =>
      simpa [beginSend, hb, ensureValid_eq, hs, hu, Begun.map, ho] using Begins.unusable hp hb hu
    | true =>
      have ha : c.asking now text = d.asking now text := by
        rw [asking, asking, ← modify_sync, ← modify_sync _ d, hc, hn]
      have hk : d.checked now = d := checked_usable (hs ▸ hu)
      have hb' := Begins.asked hp hb hu
      rw [ha] at hb'
      simpa [beginSend, hb, ensureValid_eq, hs, hu, hk, hn, Begun.map, asking] using hb'

theorem beginLoad_begins (call : Call) (hl : call.loads = true)
    (hc : call = .ensure → c.sync.conversation.loaded = false ∨ c.session.usable now = false) :
    Begins now c call ((c.beginLoad now).1.map .history .entries) (c.beginLoad now).2 := by
  cases hu : c.session.usable now with
  | false => simpa [beginLoad, ensureValid_eq, hu, Begun.map] using Begins.shut hl hu
  | true =>
    simpa [beginLoad, ensureValid_eq, hu, Begun.map, checked_usable hu] using
      Begins.loading hl hu (fun he => by simpa [hu] using hc he)

theorem begin_begins (now : Time.Instant) (call : Call) (c : Client) :
    Begins now c call (c.begin now call).1 (c.begin now call).2 := by
  have resent (call : Call) (hr : call.resends = true) :
      Begins now c call ((c.resend now (c.prompt? call)).1.map .prompt .entry)
        (c.resend now (c.prompt? call)).2 := by
    cases hp : c.prompt? call with
    | none => exact .missing hr hp
    | some text => exact beginSend_begins call hp (by simp [opened, hr])
  have hs (hu : c.session.usable now = true) : c.sync.checked now = c.sync :=
    checked_usable (by simpa using hu)
  cases call with
  | login => exact .login
  | register => exact .register
  | send text => exact beginSend_begins _ rfl rfl
  | redo => exact resent .redo rfl
  | retry => exact resent .retry rfl
  | load => exact beginLoad_begins .load rfl (by simp)
  | ensure =>
    cases hu : c.session.usable now with
    | false =>
      have hshut : Begins now c .ensure _ _ := .shut rfl hu
      simpa [begin, beginEnsure, ensureValid_eq, hu, Begun.map] using hshut
    | true =>
      cases hc : c.sync.conversation.loaded with
      | true =>
        simpa [begin, beginEnsure, ensureValid_eq, hu, checked_usable hu, hc, Begun.map, history]
          using Begins.cached hu hc
      | false =>
        have hload : Begins now c .ensure _ _ := .loading rfl hu fun _ => hc
        simpa [begin, beginEnsure, beginLoad, ensureValid_eq, hu, checked_usable hu, hs hu, hc, Begun.map]
          using hload

/-- No two of the cases overlap. -/
theorem Begins.unique {c d d' : Client} (h : Begins now c call o d) (h' : Begins now c call o' d') :
    o = o' ∧ d = d' := by
  cases call <;> cases h <;> cases h' <;> simp_all [prompt?, Call.resends, Call.loads]

/-- The client that has got an answer to the prompt that it shows. -/
def answered (ticket : PromptTicket) (answer : String) (c : Client) : Client :=
  c.modify fun conversation =>
    (conversation.insert { ticket.asked with answer }).publish
      (.resolved { ticket.asked with answer } .fresh)

/-- The second half of a call: what it comes to with a reply, and what it leaves. -/
inductive Finishes (c : Client) : Ticket → Http.Reply → Outcome → Client → Prop
  | loggedIn (hi : Session.issued reply = .ok credential)
      (hs : c.session.tokens.set credential.raw = (.ok (), tokens)) :
      Finishes c .login reply (.auth (.ok ()))
        { c with session := { c.session with tokens }.transition .authenticated }
  | rejected (hf : c.finishLogin reply = (.error e, c.withTokens tokens)) :
      Finishes c .login reply (.auth (.error e)) (c.withTokens tokens)
  | registered : Finishes c .register reply (.auth (Session.registered reply)) c
  | cancelled (hg : c.session.generation ≠ t.generation) :
      Finishes c (.prompt t) reply (.entry (.error .cancelled)) (c.modify (·.release t.request))
  | superseded (hg : c.session.generation = t.generation)
      (hs : c.sync.conversation.current.awaits t.request = false) :
      Finishes c (.prompt t) reply (.entry (.error .superseded)) (c.sync.logoutIf reply.refuses)
  | answered (hg : c.session.generation = t.generation)
      (hs : c.sync.conversation.current.awaits t.request = true) (ha : answerOf reply = .ok answer) :
      Finishes c (.prompt t) reply (.entry (.ok { t.asked with answer })) (c.answered t answer)
  | failed (hg : c.session.generation = t.generation)
      (hs : c.sync.conversation.current.awaits t.request = true) (ha : answerOf reply = .error e) :
      Finishes c (.prompt t) reply (.entry (.error e))
        ((c.modify (·.publish (.failed t.asked e))).logoutIf reply.refuses)
  | dropped (hg : c.session.generation ≠ t.generation) :
      Finishes c (.history t) reply (.entries (.error .cancelled)) c
  | fetched (hg : c.session.generation = t.generation) (hf : fetchedOf reply = .ok fetched) :
      Finishes c (.history t) reply (.entries (.ok (c.sync.conversation.merge t.mark fetched)))
        (c.modify (·.setFetched t.mark fetched))
  | unfetched (hg : c.session.generation = t.generation) (hf : fetchedOf reply = .error e) :
      Finishes c (.history t) reply (.entries (.error e))
        ((c.modify Conversation.dropHistory).logoutIf reply.refuses)

theorem finishLogin_finishes (reply : Http.Reply) (c : Client) :
    Finishes c .login reply (.auth (c.finishLogin reply).1) (c.finishLogin reply).2 := by
  cases hi : Session.issued reply with
  | error e =>
    have hf : c.finishLogin reply = (.error e, c.withTokens c.session.tokens) := by
      simp [finishLogin, Session.finishLogin, hi, withTokens]
    rw [hf]; exact .rejected hf
  | ok credential =>
    rcases hs : c.session.tokens.set credential.raw with ⟨_ | ⟨⟩, tokens⟩
    · rename_i e
      have hf : c.finishLogin reply = (.error (.storage e), c.withTokens tokens) := by
        simp [finishLogin, Session.finishLogin, hi, hs, withTokens]
      rw [hf]; exact .rejected hf
    · simpa [finishLogin, Session.finishLogin, hi, hs] using Finishes.loggedIn hi hs

theorem answered_not_refused (ha : answerOf reply = .ok answer) : reply.refuses = false := by
  rw [← (answerOf_answers reply).refuses, ha]

theorem fetched_not_refused (hf : fetchedOf reply = .ok fetched) : reply.refuses = false := by
  rw [← (fetchedOf_fetches reply).refuses, hf]

theorem finish_finishes (ticket : Ticket) (reply : Http.Reply) (c : Client) :
    Finishes c ticket reply (c.finish ticket reply).1 (c.finish ticket reply).2 := by
  cases ticket with
  | login => exact finishLogin_finishes reply c
  | register => exact .registered
  | prompt t =>
    have hr := (answerOf_answers reply).refuses
    by_cases hg : c.session.generation = t.generation
    · cases hs : c.sync.conversation.current.awaits t.request with
      | false =>
        have hf : Finishes c (.prompt t) reply _ _ := .superseded hg hs
        rw [← hr] at hf
        simp only [finish, finishSend, hg, ↓reduceIte, Conversation.settle, hs]
        exact hf
      | true =>
        cases ha : answerOf reply with
        | error e =>
          have hf := Finishes.failed hg hs ha
          rw [← hr, ha] at hf
          cases e <;> simpa [finish, finishSend, hg, Conversation.settle, hs, ha, modify] using hf
        | ok answer =>
          simpa [finish, finishSend, hg, Conversation.settle, hs, ha, logoutIf, answered, modify] using
            Finishes.answered hg hs ha
    · simpa [finish, finishSend, hg] using Finishes.cancelled hg
  | history t =>
    have hr := (fetchedOf_fetches reply).refuses
    by_cases hg : c.session.generation = t.generation
    · cases hf : fetchedOf reply with
      | error e =>
        have hu := Finishes.unfetched hg hf
        rw [← hr, hf] at hu
        cases e <;> simpa [finish, finishLoad, hg, hf] using hu
      | ok fetched =>
        simpa [finish, finishLoad, hg, hf, modify, Conversation.setFetched] using
          Finishes.fetched hg hf
    · simpa [finish, finishLoad, hg] using Finishes.dropped hg

theorem Finishes.unique {c d d' : Client} (h : Finishes c ticket reply o d)
    (h' : Finishes c ticket reply o' d') : o = o' ∧ d = d' := by
  cases h <;> cases h' <;> simp_all [finishLogin, Session.finishLogin]

/-- The list of cases says exactly what the end of a call does. -/
theorem Finishes.finish_eq {c d : Client} (h : Finishes c ticket reply o d) :
    c.finish ticket reply = (o, d) := by
  obtain ⟨rfl, rfl⟩ := h.unique (finish_finishes ticket reply c)
  rfl

end Client

end ChatClient
