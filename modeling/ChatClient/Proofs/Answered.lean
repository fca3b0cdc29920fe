import ChatClient.Proofs.Changes

/-!
What a conversation holds, at every moment of a run. The history has answered entries only, the slot
shows an answer exactly when it is resolved, and the answers of this session are numbered in the order
in which they came.
-/
namespace ChatClient

/-- A prompt worth sending, without an answer yet. -/
structure Entry.Open (e : Entry) : Prop where
  answer : e.answer = ""
  prompt : Text.isBlank e.prompt = false

/-- The errors that a reply can bring. The others are those of a call that sends nothing, or whose slot
or session is gone. -/
def SendError.ofReply : SendError → Bool
  | .unauthorized | .network _ | .emptyAnswer => true
  | .emptyPrompt | .superseded | .cancelled | .nothingToResend => false

def Slot.Sound : Slot → Prop
  | .empty => True
  | .pending _ entry => entry.Open
  | .resolved entry _ => entry.answer ≠ ""
  | .failed entry error => entry.Open ∧ error.ofReply = true

structure Conversation.Sound (c : Conversation) : Prop where
  history : ∀ e ∈ c.history, e.answer ≠ ""
  current : c.current.Sound
  inserted : ∀ p ∈ c.inserted, p.2.answer ≠ ""
  /-- The newest answer comes first and has the greatest number. -/
  ordered : c.inserted.Pairwise fun p q => q.1 < p.1
  below : ∀ p ∈ c.inserted, p.1 < c.nextInsert
  watched : c.watched.value = c.current

theorem Answers.sound : Answers reply result →
    match result with
    | .ok text => text ≠ ""
    | .error e => e.ofReply = true := by
  intro h
  cases h with
  | answer _ hb => exact hb
  | _ => rfl

theorem Fetches.sound (h : Fetches reply (.ok fetched)) : ∀ e ∈ fetched, e.answer ≠ "" := by
  cases h
  simp [Entry.isPending]

namespace Conversation

theorem kept_mem {c : Conversation} (h : e ∈ c.kept mark fetched) : e ∈ c.history := by
  simp only [kept, List.mem_filter, Bool.and_eq_true, List.contains_iff_mem] at h
  exact h.2.1

namespace Sound

variable {c : Conversation}

theorem start (g : Nat) : (Conversation.start g).Sound := by
  constructor <;> simp [Conversation.start, Slot.Sound]

theorem publish (h : c.Sound) (hs : slot.Sound) : (c.publish slot).Sound :=
  { h with current := hs, watched := rfl }

theorem reset (h : c.Sound) : c.reset.Sound where
  history := by simp [Conversation.reset]
  current := h.current
  inserted := by simp [Conversation.reset]
  ordered := .nil
  below := by simp [Conversation.reset]
  watched := h.watched

theorem sync (h : c.Sound) (g : Nat) (loggedIn : Bool) : (c.sync g loggedIn).Sound := by
  have hg : Sound { c with generation := g } := { h with }
  unfold Conversation.sync
  split
  · exact h
  · exact hg.reset.publish trivial

theorem insert (h : c.Sound) (ha : e.answer ≠ "") : (c.insert e).Sound where
  history := by simpa [Conversation.insert, ha] using h.history
  current := h.current
  inserted := by simpa [Conversation.insert, ha] using h.inserted
  ordered := List.pairwise_cons.mpr ⟨h.below, h.ordered⟩
  below p hp := by
    rcases List.mem_cons.mp hp with rfl | hp
    · exact Nat.lt_succ_self _
    · exact Nat.lt_succ_of_lt (h.below p hp)
  watched := h.watched

/-- Any history of answered entries may take the place of the old one. -/
theorem withHistory (h : c.Sound) {entries : List Entry} (ha : ∀ e ∈ entries, e.answer ≠ "")
    (loaded : Bool) : Sound { c with history := entries, loaded } :=
  { h with history := ha }

theorem setFetched (h : c.Sound) (hf : ∀ e ∈ fetched, e.answer ≠ "") (mark : Nat) :
    (c.setFetched mark fetched).Sound := by
  refine h.withHistory (fun e he => ?_) true
  rcases List.mem_append.mp he with hk | hk
  · exact h.history e (kept_mem hk)
  · exact hf e hk

theorem release (h : c.Sound) (r : RequestId) : (c.release r).Sound := by
  unfold Conversation.release
  split
  · exact h.publish trivial
  · exact h

end Sound

end Conversation

theorem Client.Begins.ticket_asked {c c' : Client}
    (h : Begins now c call (.waiting request (.prompt t)) c') : t.asked.Open := by
  cases h with
  | asked _ hb _ => exact ⟨rfl, hb⟩

namespace World

/-- What each call that waits for an answer has asked. -/
def Asking (w : World) : Prop := ∀ n t, w.inFlight n = some (.prompt t) → t.asked.Open

theorem Asking.step {w w' : World} (ha : w.Asking) (h : Steps w e o w') : w'.Asking := by
  intro n t ht
  rcases h.flight ht with hk | ⟨_, _, _, hb⟩
  · exact ha n t hk
  · exact hb.ticket_asked

theorem Changes.sound {w : World} (h : Changes w d k) (hc : w.client.conversation.Sound)
    (ha : w.Asking) : d.Sound := by
  have hs : w.client.sync.conversation.Sound := hc.sync ..
  cases h with
  | same => exact hc
  | synced => exact hs
  | asked hb _ => exact hs.publish ⟨rfl, hb⟩
  | released => exact hs.release _
  | answered _ _ _ h =>
    have hn := (h ▸ answerOf_answers _).sound
    exact (hs.insert hn).publish hn
  | failed hk _ _ h => exact hs.publish ⟨ha _ _ hk, (h ▸ answerOf_answers _).sound⟩
  | fetched _ _ h => exact hs.setFetched (h ▸ fetchedOf_fetches _).sound _
  | unfetched => exact hs.withHistory (by simp) false
  | selected hm => exact hs.publish (hs.history _ hm)
  | deleted => exact hs.withHistory (fun e he => hs.history e (List.mem_of_mem_erase he)) _
  | emptied => exact hs.publish trivial
  | cleared => exact hs.reset.publish trivial

/-- Whatever happens to a client, in whatever order: its history is answered, what it shows fits its
kind, the answers of the session are numbered upwards, and who watches the slot sees what is stored. -/
theorem reachable_sound {w : World} (h : Reachable w) : w.client.conversation.Sound := by
  suffices w.client.conversation.Sound ∧ w.Asking from this.1
  apply h.invariant
  · intro tokens now
    exact ⟨.start _, by simp [Asking, start]⟩
  · intro v e o v' ⟨hc, ha⟩ hs
    exact ⟨hs.changes.sound hc ha, ha.step hs⟩

/-- One prompt has been answered, the next one could not be sent. -/
def interrupted : World :=
  (start (.memory (some ".eyJleHAiOjl9.") 0) ⟨0, 0⟩).after
    [.begin 0 (.send "Why?"), .reply 0 (.ok ⟨200, "Because."⟩),
      .begin 1 (.send "Since when?"), .reply 1 (.error (.request "timed out"))]

theorem interrupted_sound :
    interrupted.client.conversation.history = [⟨"Why?", "Because.", ⟨0, 0⟩⟩] ∧
      interrupted.client.conversation.Sound :=
  ⟨by decide +kernel, reachable_sound (.after (.start ..) _)⟩

end World

end ChatClient
