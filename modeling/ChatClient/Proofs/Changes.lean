import ChatClient.Proofs.Steps

/-!
What one event can do to the conversation, as one list of cases with the guard of each. Every invariant
of the conversation is proved along this list.
-/
namespace ChatClient

open Client (Begins Finishes)

/-- What can become of the conversation by one event, and which request is the next one then. -/
inductive World.Changes (w : World) : Conversation → RequestId → Prop
  | same : Changes w w.client.conversation w.client.nextRequest
  | synced : Changes w w.client.sync.conversation w.client.nextRequest
  | asked (hb : Text.isBlank text = false) (hu : w.client.session.usable w.now = true) :
      Changes w (w.client.sync.conversation.publish
        (.pending w.client.nextRequest (.asked text w.now))) (w.client.nextRequest + 1)
  | released (hk : w.inFlight n = some (.prompt t))
      (hg : w.client.session.generation ≠ t.generation) :
      Changes w (w.client.sync.conversation.release t.request) w.client.nextRequest
  | answered (hk : w.inFlight n = some (.prompt t)) (hg : w.client.session.generation = t.generation)
      (hs : w.client.sync.conversation.current.awaits t.request = true)
      (ha : answerOf reply = .ok answer) :
      Changes w ((w.client.sync.conversation.insert { t.asked with answer }).publish
        (.resolved { t.asked with answer } .fresh)) w.client.nextRequest
  | failed (hk : w.inFlight n = some (.prompt t)) (hg : w.client.session.generation = t.generation)
      (hs : w.client.sync.conversation.current.awaits t.request = true)
      (ha : answerOf reply = .error e) :
      Changes w (w.client.sync.conversation.publish (.failed t.asked e)) w.client.nextRequest
  | fetched (hk : w.inFlight n = some (.history t)) (hg : w.client.session.generation = t.generation)
      (hf : fetchedOf reply = .ok fetched) :
      Changes w (w.client.sync.conversation.setFetched t.mark fetched) w.client.nextRequest
  | unfetched (hk : w.inFlight n = some (.history t))
      (hg : w.client.session.generation = t.generation) :
      Changes w w.client.sync.conversation.dropHistory w.client.nextRequest
  | selected (hm : entry ∈ w.client.history) :
      Changes w (w.client.sync.conversation.publish (.resolved entry .history)) w.client.nextRequest
  | deleted : Changes w { w.client.sync.conversation with
      history := w.client.sync.conversation.history.erase entry } w.client.nextRequest
  | emptied : Changes w (w.client.sync.conversation.publish .empty) w.client.nextRequest
  | cleared : Changes w (w.client.sync.conversation.reset.publish .empty) w.client.nextRequest

theorem Slot.awaits_iff {s : Slot} : s.awaits r = true ↔ ∃ entry, s = .pending r entry := by
  cases s <;> simp [awaits]

namespace Client

@[simp] theorem logoutIf_conversation (refused : Bool) (c : Client) :
    (c.logoutIf refused).conversation = c.conversation := by
  cases refused <;> rfl

@[simp] theorem logoutIf_nextRequest (refused : Bool) (c : Client) :
    (c.logoutIf refused).nextRequest = c.nextRequest := by
  cases refused <;> rfl

@[simp] theorem opened_nextRequest (call : Call) (c : Client) :
    (c.opened call).nextRequest = c.nextRequest := by
  unfold opened; split <;> rfl

theorem opened_conversation (call : Call) (c : Client) :
    (c.opened call).conversation = c.conversation ∨
      (c.opened call).conversation = c.sync.conversation := by
  unfold opened; split <;> simp

/-- A slot that waits has not just been emptied for a new session. -/
theorem sync_awaits {c : Client} (h : c.sync.conversation.current.awaits r = true) :
    c.sync.conversation = c.conversation := by
  rcases c.sync_conversation with ⟨_, he⟩ | ⟨_, _, he⟩
  · exact he
  · rw [he] at h; cases h

end Client

namespace World

theorem Steps.changes {w w' : World} (h : Steps w e o w') :
    Changes w w'.client.conversation w'.client.nextRequest := by
  have hopened (call : Call) :
      Changes w (w.client.opened call).conversation (w.client.opened call).nextRequest := by
    rw [Client.opened_nextRequest]
    rcases w.client.opened_conversation call with he | he <;> rw [he]
    · exact .same
    · exact .synced
  cases h with
  | done hb =>
    cases hb with
    | blank => exact hopened _
    | unusable => simpa using hopened _
    | shut => simpa using Changes.same
    | missing | cached => exact .synced
  | sent hb =>
    cases hb with
    | login | register => exact .same
    | asked hp hb hu => exact .asked hb hu
    | loading => exact .synced
  | finished hk hf =>
    cases hf with
    | loggedIn | rejected | registered | dropped => exact .same
    | cancelled hg => exact .released hk hg
    | superseded => simpa using Changes.synced
    | answered hg hs ha => exact .answered hk hg hs ha
    | failed hg hs ha => simpa using Changes.failed hk hg hs ha
    | fetched hg hf => exact .fetched hk hg hf
    | unfetched hg hf => simpa using Changes.unfetched hk hg
  | looked | missed | kept => exact .synced
  | selected hm => exact .selected hm
  | deleted => exact .deleted
  | newQuestion => exact .emptied
  | cleared => exact .cleared
  | checked => simpa using Changes.same
  | _ => exact .same

theorem Changes.generation {w : World} (h : Changes w d k) :
    d.generation = w.client.conversation.generation ∨
      d.generation = w.client.session.generation := by
  have hs : w.client.sync.conversation.generation = w.client.conversation.generation ∨
      w.client.sync.conversation.generation = w.client.session.generation := by
    rcases w.client.sync_conversation with ⟨_, he⟩ | ⟨_, _, he⟩
    · exact .inl (congrArg _ he)
    · exact .inr (congrArg _ he)
  cases h with
  | same => exact .inl rfl
  | released => simpa using hs
  | _ => exact hs

/-- The slot waits for what it has waited for before, in the same session, or for a request just sent in
the session that is on. -/
theorem Changes.pending {w : World} (h : Changes w d k) (hp : d.current = .pending r entry) :
    (w.client.conversation.current = .pending r entry ∧
        d.generation = w.client.conversation.generation) ∨
      r = w.client.nextRequest ∧ k = w.client.nextRequest + 1 ∧
        d.generation = w.client.session.generation := by
  have hs (hp : w.client.sync.conversation.current = .pending r entry) :
      w.client.conversation.current = .pending r entry ∧
        w.client.sync.conversation.generation = w.client.conversation.generation := by
    have he := Client.sync_awaits (Slot.awaits_iff.mpr ⟨entry, hp⟩)
    exact ⟨he ▸ hp, congrArg _ he⟩
  cases h with
  | same => exact .inl ⟨hp, rfl⟩
  | asked _ hu =>
    have hl : w.client.isLoggedIn = true := Session.usable_loggedIn hu
    exact .inr ⟨(Slot.pending.inj hp).1.symm, rfl, w.client.sync_uptodate.resolve_right (by simp [hl])⟩
  | released =>
    rw [Conversation.release_generation]
    unfold Conversation.release at hp
    split at hp
    · cases hp
    · exact .inl (hs hp)
  | synced | fetched | unfetched | deleted => exact .inl (hs hp)
  | _ => cases hp

theorem Changes.awaits {w : World} (h : Changes w d k) (ha : d.current.awaits r = true) :
    (w.client.conversation.current.awaits r = true ∧
        d.generation = w.client.conversation.generation) ∨
      r = w.client.nextRequest ∧ k = w.client.nextRequest + 1 ∧
        d.generation = w.client.session.generation := by
  obtain ⟨entry, hp⟩ := Slot.awaits_iff.mp ha
  exact (h.pending hp).imp_left fun ⟨hb, hg⟩ => ⟨Slot.awaits_iff.mpr ⟨entry, hb⟩, hg⟩

theorem Changes.nextInsert_le {w : World} (h : Changes w d k) :
    w.client.conversation.nextInsert ≤ d.nextInsert := by
  have hs : w.client.sync.conversation.nextInsert = w.client.conversation.nextInsert :=
    Conversation.sync_nextInsert ..
  cases h with
  | same => exact Nat.le_refl _
  | released => simp [hs]
  | answered => exact hs ▸ Nat.le_succ _
  | _ => exact Nat.le_of_eq hs.symm

end World

end ChatClient
