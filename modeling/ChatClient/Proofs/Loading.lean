import ChatClient.Proofs.Answered
import ChatClient.Proofs.Ledger
import Mathlib.Data.List.TakeWhile

/-!
How a load of the history ends. The numbers of the answers tell it which of them have come since it was
begun. These are just the entries that the run has answered meanwhile, whatever else has happened.
-/
namespace ChatClient

open Client (Begins Finishes)

namespace Conversation

theorem answersFrom_insert {c : Conversation} (h : mark ≤ c.nextInsert) (e : Entry) :
    (c.insert e).answersFrom mark = e :: c.answersFrom mark := by
  simp [answersFrom, insert, h]

/-- No answer has a number yet that is still to be given. -/
theorem Sound.answersFrom_nextInsert {c : Conversation} (h : c.Sound) :
    c.answersFrom c.nextInsert = [] := by
  simp only [answersFrom, List.map_eq_nil_iff, List.filter_eq_nil_iff, decide_eq_true_eq, Nat.not_le]
  exact h.below

theorem kept_eq (mark : Nat) (fetched : List Entry) (c : Conversation) :
    c.kept mark fetched =
      (c.answersFrom mark).filter fun e => e ∈ c.history ∧ e ∉ fetched := by
  simp [kept, answersFrom]

end Conversation

namespace Effect

/-- The entries answered since the last clearing, newest first. -/
def uncleared (fs : List Effect) : List Entry := (fs.takeWhile (· ≠ .cleared)).filterMap answered?

theorem uncleared_append {fs : List Effect} (h : .cleared ∉ fs) (gs : List Effect) :
    uncleared (fs ++ gs) = fs.filterMap answered? ++ uncleared gs := by
  have hp : ∀ f ∈ fs, decide (f ≠ cleared) = true := by
    intro f hf
    have hne : f ≠ .cleared := fun he => h (he ▸ hf)
    simpa using hne
  rw [uncleared, List.takeWhile_append_of_pos hp, List.filterMap_append, uncleared]

theorem uncleared_eq {fs : List Effect} (h : .cleared ∉ fs) :
    uncleared fs = fs.filterMap answered? := by
  simpa [uncleared] using uncleared_append h []

/-- Of the answers from a number on, those that come later are just the entries answered, and a clearing
takes the earlier ones away. -/
theorem answersFrom_foldr {c : Conversation} (h : mark ≤ c.nextInsert) (fs : List Effect) :
    mark ≤ (fs.foldr apply c).nextInsert ∧
      (fs.foldr apply c).answersFrom mark =
        uncleared fs ++ if .cleared ∈ fs then [] else c.answersFrom mark := by
  induction fs with
  | nil => exact ⟨h, rfl⟩
  | cons f fs ih =>
    obtain ⟨hm, ha⟩ := ih
    rw [List.foldr_cons]
    cases f with
    | answered e =>
      refine ⟨Nat.le_succ_of_le hm, ?_⟩
      rw [apply, Conversation.answersFrom_insert hm, ha]
      simp [uncleared, answered?]
    | cleared => exact ⟨hm, by simp [apply, Conversation.reset, Conversation.answersFrom, uncleared]⟩
    | _ =>
      refine ⟨hm, ?_⟩
      simp only [uncleared, List.takeWhile_cons, List.mem_cons, reduceCtorEq, false_or]
      exact ha

end Effect

theorem Event.clear_of_effect {w : World} (h : Event.effect w e o = .cleared) : e = .clear := by
  unfold Event.effect at h
  split at h
  · cases h
  · split at h <;> cases h
  · split at h <;> cases h
  · cases h
  · rfl
  · cases h

namespace World

theorem uncleared_effects {w : World} (h : ∀ e ∈ es, e ≠ .clear) : .cleared ∉ w.effects es := by
  induction es generalizing w with
  | nil => simp [effects]
  | cons e es ih =>
    have he : w.effect e ≠ .cleared := fun hc => h e (by simp) (Event.clear_of_effect hc)
    simpa [effects, Ne.symm he] using ih fun e' he' => h e' (by simp [he'])

/-- The entries that a run has answered and not cleared since, newest first. -/
def uncleared (w : World) (es : List Event) : List Entry := Effect.uncleared (w.effects es)

/-- A load of the history waits for its reply, in the session in which it was begun. -/
structure Loading (n : CallName) (t : HistoryTicket) (w : World) : Prop where
  kept : w.inFlight n = some (.history t)
  session : w.client.session.generation = t.generation

/-- A load that has been sent waits, and no answer has come since. -/
theorem loading_of_sent {w v : World} (hw : Reachable w) (hl : call.loads = true)
    (hb : w.step (.begin n call) = (.sent request, v)) :
    ∃ t, Loading n t v ∧ t.mark ≤ v.client.ledger.nextInsert ∧
      v.client.ledger.answersFrom t.mark = [] := by
  have hs := step_steps (.begin n call) w
  rw [hb] at hs
  clear hb
  cases hs with
  | sent hb =>
    cases hb with
    | login | register => cases hl
    | asked hp => rw [w.client.loads_prompt hl] at hp; cases hp
    | loading =>
      have hc := Client.ledger_sync w.client
      have hs : w.client.sync.conversation.Sound := (reachable_sound hw).sync ..
      refine ⟨⟨w.client.session.generation, w.client.sync.conversation.nextInsert⟩,
        ⟨Function.update_self .., rfl⟩, ?_, ?_⟩
      · have hm : w.client.ledger.nextInsert = w.client.sync.ledger.nextInsert := by rw [hc]
        exact Nat.le_of_eq hm
      · exact (congrArg (Conversation.answersFrom _) hc).trans hs.answersFrom_nextInsert

/-- After a run that leaves the session, the load still waits, and the answers from its number on are
those that the run has brought. -/
theorem loading_after {w v : World} (hw : Reachable w) (hl : call.loads = true)
    (hb : w.step (.begin n call) = (.sent request, v)) (hn : ∀ e ∈ es, e.name? ≠ some n)
    (ht : v.times turns es = 0) :
    ∃ t, Loading n t (v.after es) ∧
      (v.after es).client.ledger.answersFrom t.mark = v.uncleared es := by
  obtain ⟨t, hv, hm, ha⟩ := loading_of_sent hw hl hb
  refine ⟨t, ⟨(after_keeps hn).trans hv.kept, ?_⟩, ?_⟩
  · rw [after_generation, ht]
    exact hv.session
  · rw [after_ledger ht, (Effect.answersFrom_foldr hm _).2, ha]
    simp [uncleared]

theorem Loading.ends {w : World} (h : Loading n t w) (hf : fetchedOf reply = .ok fetched) :
    w.step (.reply n reply) =
      (.ended (.entries (.ok (w.client.ledger.merge t.mark fetched))),
        (w.withClient (w.client.modify (·.setFetched t.mark fetched))).keep n none) := by
  obtain ⟨outcome, c, hs, he⟩ := step_reply h.kept reply
  rw [hs]
  cases he with
  | dropped hg => exact absurd h.session hg
  | unfetched _ hf' => rw [hf] at hf'; cases hf'
  | fetched _ hf' =>
    cases hf.symm.trans hf'
    rfl

/-- What a load comes to that ends with a list, and what it leaves: the answers that have come
meanwhile and are still in the history, and the list after them. -/
theorem load_ends {w v : World} (hw : Reachable w) (hl : call.loads = true)
    (hb : w.step (.begin n call) = (.sent request, v)) (hn : ∀ e ∈ es, e.name? ≠ some n)
    (ht : v.times turns es = 0) (hf : fetchedOf reply = .ok fetched) :
    let merged := (v.uncleared es).filter
      (fun e => e ∈ (v.after es).client.history ∧ e ∉ fetched) ++ fetched
    ∃ u, (v.after es).step (.reply n reply) = (.ended (.entries (.ok merged)), u) ∧
      u.client.history = merged ∧ u.client.current = (v.after es).client.current ∧
      u.client.session = (v.after es).client.session := by
  intro merged
  obtain ⟨t, hv, ha⟩ := loading_after hw hl hb hn ht
  have hm : (v.after es).client.ledger.merge t.mark fetched = merged := by
    rw [Conversation.merge, Conversation.kept_eq, ha]
    rfl
  rw [hv.ends hf, hm]
  refine ⟨_, rfl, ?_, ?_, rfl⟩
  · rw [keep_client, withClient_client, Client.history, Client.sync_modify rfl]
    exact hm
  · rw [keep_client, withClient_client, Client.current, Client.sync_modify rfl]
    rfl

theorem load_sent (n : CallName) {w : World} (hu : w.client.session.usable w.now = true) :
    ∃ request, w.step (.begin n .load) = (.sent request, (w.step (.begin n .load)).2) :=
  ⟨w.client.session.authorize (.get "/client"), by
    simp [step, Client.begin, Client.beginLoad, Client.ensureValid_eq, hu, Client.checked_usable hu,
      Begun.map]⟩

/-- A load that ends with a list leaves just that list in the history, without the records that have no
answer, and before it the entries that have been answered since the load was begun, newest first: those
that the history still has and the list has not. This is also what the call comes to. The slot and the
session stay as they are. -/
theorem load_merges {w v : World} (hw : Reachable w) (hl : call.loads = true)
    (hb : w.step (.begin n call) = (.sent request, v)) (hn : ∀ e ∈ es, e.name? ≠ some n)
    (ht : v.times turns es = 0) (hc : ∀ e ∈ es, e ≠ .clear)
    (hs : 200 ≤ r.status ∧ r.status < 300) (hp : Entry.parsePast? r.body = some records) :
    let fetched := records.filter (·.answer ≠ "")
    let merged := (v.answers es).filter
      (fun e => e ∈ (v.after es).client.history ∧ e ∉ fetched) ++ fetched
    ∃ u, (v.after es).step (.reply n (.ok r)) = (.ended (.entries (.ok merged)), u) ∧
      u.client.history = merged ∧ u.client.current = (v.after es).client.current ∧
      u.client.session = (v.after es).client.session := by
  have ha : v.answers es = v.uncleared es :=
    (Effect.uncleared_eq (uncleared_effects hc)).symm
  have hf : records.filter (·.answer ≠ "") = records.filter (!·.isPending) := by
    simp [Entry.isPending]
  simp only [ha, hf]
  exact load_ends hw hl hb hn ht (fetchedOf_history hs hp)

/-- Somebody is logged in, and has not asked anything yet. -/
def signedIn : World := start (.memory (some ".eyJleHAiOjl9.") 0) ⟨0, 0⟩

/-- Of two answers that come during a load one is deleted again. Of the two records that the load brings
one has no answer. -/
theorem later_answer_before_list :
    let es := [.begin 1 (.send "Why?"), .reply 1 (.ok ⟨200, "Because."⟩), .tick ⟨1, 0⟩,
      .begin 1 (.send "Since when?"), .reply 1 (.ok ⟨200, "Always."⟩),
      .delete ⟨"Why?", "Because.", ⟨0, 0⟩⟩]
    let body := "[[\"How?\", \"So.\", \"1970-01-01T00:00:00Z\"], [\"Who?\", \"\", \"1970-01-01T00:00:00Z\"]]"
    let merged := [⟨"Since when?", "Always.", ⟨1, 0⟩⟩, ⟨"How?", "So.", ⟨0, 0⟩⟩]
    ∃ u, ((signedIn.step (.begin 0 .load)).2.after es).step (.reply 0 (.ok ⟨200, body⟩)) =
        (.ended (.entries (.ok merged)), u) ∧ u.client.history = merged := by
  intro es body merged
  obtain ⟨request, hb⟩ := load_sent 0 (w := signedIn) (by decide +kernel)
  have hn : ∀ e ∈ es, e.name? ≠ some 0 := by simp [es, Event.name?]
  have hc : ∀ e ∈ es, e ≠ .clear := by simp [es]
  have ht : (signedIn.step (.begin 0 .load)).2.times turns es = 0 := by decide +kernel
  have hp : Entry.parsePast? body = some [⟨"How?", "So.", ⟨0, 0⟩⟩, ⟨"Who?", "", ⟨0, 0⟩⟩] := by
    decide +kernel
  obtain ⟨u, hu, hh, _⟩ := load_merges (.start ..) rfl hb hn ht hc (r := ⟨200, body⟩) (by decide) hp
  have hm : u.client.history = merged := hh.trans (by decide +kernel)
  rw [← hh, hm] at hu
  exact ⟨u, hu, hm⟩

end World

end ChatClient
