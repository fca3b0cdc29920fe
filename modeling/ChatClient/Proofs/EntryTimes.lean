import ChatClient.Proofs.Changes
import ChatClient.Proofs.JsonRecords
import ChatClient.Proofs.Timestamps

/-!
The times of the entries that a client holds. Each comes from the clock or out of a text that the backend has
sent, so that it is one that a text names, and can be written and read again.
-/
namespace ChatClient

namespace EntryDraft

/-- The time is one that a text names, if it has come. -/
def Timed (d : EntryDraft) : Prop := ∀ i, d.createdAt = some i → i.Valid

variable {d d' : EntryDraft}

theorem Timed.readPrompt (hd : d.Timed) (h : d.readPrompt input = some (d', rest)) : d'.Timed := by
  obtain ⟨_, -, h⟩ := Option.bind_eq_some_iff.mp h
  cases h
  exact hd

theorem Timed.readAnswer (hd : d.Timed) (h : d.readAnswer input = some (d', rest)) : d'.Timed := by
  obtain ⟨_, -, h⟩ := Option.bind_eq_some_iff.mp h
  cases h
  exact hd

theorem readCreatedAt_timed (h : d.readCreatedAt input = some (d', rest)) : d'.Timed := by
  obtain ⟨⟨s, _⟩, -, h⟩ := Option.bind_eq_some_iff.mp h
  obtain ⟨i, hi, h⟩ := Option.bind_eq_some_iff.mp h
  cases h
  rintro _ ⟨⟩
  exact Time.Instant.valid_iff_text.mpr ⟨s, hi⟩

theorem Timed.readMember (hd : d.Timed) (h : readMember answerNames d key input = some (d', rest)) :
    d'.Timed := by
  unfold EntryDraft.readMember at h
  split at h
  · split at h
    · cases h
    · exact hd.readPrompt h
  split at h
  · split at h
    · cases h
    · exact hd.readAnswer h
  split at h
  · split at h
    · cases h
    · exact readCreatedAt_timed h
  · obtain ⟨_, -, he⟩ := Option.map_eq_some_iff.mp h
    cases he
    exact hd

theorem reader_timed (h : (reader answerNames).read input = some (d, rest)) : d.Timed := by
  refine Json.RecordReader.read_keeps (P := Timed) (fun _ hi => by cases hi)
    (fun _ _ _ _ _ hd => hd.readMember) ?_ h
  intro read hr s input s' rest hs hread
  simp only [reader, List.mem_cons, List.not_mem_nil, or_false] at hr
  rcases hr with rfl | rfl | rfl
  · exact hs.readPrompt hread
  · exact hs.readAnswer hread
  · exact readCreatedAt_timed hread

end EntryDraft

theorem Entry.readPast_valid (h : readPast input = some (e, rest)) : e.createdAt.Valid := by
  obtain ⟨⟨d, _⟩, hd, h⟩ := Option.bind_eq_some_iff.mp h
  obtain ⟨_, hc, h⟩ := Option.bind_eq_some_iff.mp h
  obtain ⟨prompt, -, hc⟩ := Option.bind_eq_some_iff.mp hc
  obtain ⟨answer, -, hc⟩ := Option.bind_eq_some_iff.mp hc
  obtain ⟨createdAt, ht, hc⟩ := Option.bind_eq_some_iff.mp hc
  cases hc
  cases h
  exact EntryDraft.reader_timed hd createdAt ht

theorem Entry.parsePast?_valid (h : parsePast? s = some entries) : ∀ e ∈ entries, e.createdAt.Valid :=
  Json.document?_holds (fun _ _ _ hl => Json.readList_all (fun _ _ _ => readPast_valid) hl) h

theorem fetchedOf_valid (h : fetchedOf reply = .ok fetched) : ∀ e ∈ fetched, e.createdAt.Valid := by
  have hf := fetchedOf_fetches reply
  rw [h] at hf
  cases hf with
  | history _ hp => exact fun e he => Entry.parsePast?_valid hp e (List.mem_filter.mp he).1

namespace Conversation

/-- The times of all entries in the history, among the inserted answers and in the slot are ones that texts
name. -/
structure Timed (c : Conversation) : Prop where
  history : ∀ e ∈ c.history, e.createdAt.Valid
  inserted : ∀ m ∈ c.inserted, m.2.createdAt.Valid
  current : ∀ e, c.current.entry? = some e → e.createdAt.Valid

namespace Timed

variable {c : Conversation}

theorem start (generation : Nat) : (Conversation.start generation).Timed :=
  ⟨by simp [Conversation.start], by simp [Conversation.start], by simp [Conversation.start, Slot.entry?]⟩

theorem publish (h : c.Timed) (hs : ∀ e, slot.entry? = some e → e.createdAt.Valid) : (c.publish slot).Timed :=
  ⟨h.history, h.inserted, hs⟩

theorem emptied (h : c.Timed) : (c.publish .empty).Timed :=
  h.publish fun _ he => by cases he

theorem reset (h : c.Timed) : c.reset.Timed :=
  ⟨by simp [Conversation.reset], by simp [Conversation.reset], h.current⟩

theorem sync (h : c.Timed) (generation : Nat) (loggedIn : Bool) : (c.sync generation loggedIn).Timed := by
  unfold Conversation.sync
  split
  · exact h
  · have hc : { c with generation }.Timed := ⟨h.history, h.inserted, h.current⟩
    exact hc.reset.emptied

theorem insert (h : c.Timed) (he : e.createdAt.Valid) : (c.insert e).Timed :=
  ⟨List.forall_mem_cons.mpr ⟨he, h.history⟩, List.forall_mem_cons.mpr ⟨he, h.inserted⟩, h.current⟩

theorem setFetched (h : c.Timed) (hf : ∀ e ∈ fetched, e.createdAt.Valid) (mark : Nat) :
    (c.setFetched mark fetched).Timed := by
  refine ⟨fun e he => ?_, h.inserted, h.current⟩
  rcases List.mem_append.mp he with hk | hin
  · obtain ⟨m, hm, rfl⟩ := List.mem_map.mp (List.mem_filter.mp hk).1
    exact h.inserted m (List.mem_filter.mp hm).1
  · exact hf e hin

theorem release (h : c.Timed) (request : RequestId) : (c.release request).Timed := by
  unfold Conversation.release
  split
  · exact h.emptied
  · exact h

end Timed

end Conversation

namespace World

/-- The clock shows a time that a text names, and so do all entries that the client holds and those of the
prompts in flight. -/
structure Timed (w : World) : Prop where
  now : w.now.Valid
  conversation : w.client.conversation.Timed
  asked : ∀ n t, w.inFlight n = some (.prompt t) → t.asked.createdAt.Valid

theorem Changes.timed {w : World} (h : Changes w d k) (hw : w.Timed) : d.Timed := by
  have hs : w.client.sync.conversation.Timed := hw.conversation.sync _ _
  cases h with
  | same => exact hw.conversation
  | synced => exact hs
  | asked => exact hs.publish (by rintro _ ⟨⟩; exact hw.now)
  | released => exact hs.release _
  | @answered _ t _ answer hk =>
    have ha : { t.asked with answer }.createdAt.Valid := hw.asked _ _ hk
    exact (hs.insert ha).publish (by rintro _ ⟨⟩; exact ha)
  | failed hk => exact hs.publish (by rintro _ ⟨⟩; exact hw.asked _ _ hk)
  | fetched _ _ hf => exact hs.setFetched (fetchedOf_valid hf) _
  | unfetched => exact ⟨by simp [Conversation.dropHistory], hs.inserted, hs.current⟩
  | selected hm => exact hs.publish (by rintro _ ⟨⟩; exact hs.history _ hm)
  | deleted => exact ⟨fun e he => hs.history e (List.mem_of_mem_erase he), hs.inserted, hs.current⟩
  | emptied => exact hs.emptied
  | cleared => exact hs.reset.emptied

/-- Whether an event sets the clock to a time that no text names. -/
def mistimes (_ : World) : Event → Bool
  | .tick t => !decide t.Valid
  | _ => false

theorem Steps.timed {w w' : World} (h : Steps w e o w') (he : w.mistimes e = false) (hw : w.Timed) :
    w'.Timed := by
  refine ⟨?_, h.changes.timed hw, fun n t ht => ?_⟩
  · cases h with
    | tick => simpa [mistimes] using he
    | _ => exact hw.now
  · rcases h.flight ht with hk | ⟨call, request, -, hb⟩
    · exact hw.asked n t hk
    · generalize w'.client = c at hb
      cases hb with
      | asked => exact hw.now

theorem Timed.after {w : World} (hw : w.Timed) (he : w.times mistimes es = 0) : (w.after es).Timed := by
  induction es generalizing w with
  | nil => exact hw
  | cons e es ih =>
    obtain ⟨he, hes⟩ := times_cons_eq_zero.mp he
    exact ih ((step_steps e w).timed he hw) hes

theorem start_timed (tokens : Token.Store) {now : Time.Instant} (hn : now.Valid) : (start tokens now).Timed where
  now := hn
  conversation := .start _
  asked := fun n t ht => by cases ht

/-- Whatever the backend sends, the entries that a client shows have times that texts name, as long as its clock
shows no others. -/
theorem shown_entries_timed (tokens : Token.Store) {now : Time.Instant} (hn : now.Valid)
    (he : (start tokens now).times mistimes es = 0) :
    let c := ((start tokens now).after es).client
    (∀ e ∈ c.history, e.createdAt.Valid) ∧ ∀ e, c.current.entry? = some e → e.createdAt.Valid := by
  intro c
  have hc : c.sync.conversation.Timed := ((start_timed tokens hn).after he).conversation.sync _ _
  exact ⟨hc.history, hc.current⟩

end World

end ChatClient
