import ChatClient.Proofs.Overlaps
import ChatClient.Proofs.Settling

/-!
Two replies that come one after the other, the list of a load and the answer to a prompt. The answer goes
to the front of the history whether the load has ended or not, since the load keeps the answers that have
come meanwhile. So the order in which the two replies come makes no difference, unless the load brings the
answer itself, or the same answer has been given before.
-/
namespace ChatClient

open Client (Begins Finishes)

namespace Conversation

variable {c : Conversation} {e : Entry}

/-- An answer is in front of a merged history whether it comes before the merging or after it, exactly if
the fetched list does not have it, and an equal answer that came during the load has not been deleted. -/
theorem merge_insert_iff (hm : mark ≤ c.nextInsert) (fetched : List Entry) :
    (c.insert e).merge mark fetched = e :: c.merge mark fetched ↔
      e ∉ fetched ∧ (e ∈ c.answersFrom mark → e ∈ c.history) := by
  have hins : (c.insert e).history = e :: c.history := rfl
  rw [merge, merge, kept_eq, kept_eq, answersFrom_insert hm, hins]
  by_cases hf : e ∈ fetched
  · -- The list has the answer already, so that it is not kept besides.
    have hk : (e :: c.answersFrom mark).filter (fun x => x ∈ e :: c.history ∧ x ∉ fetched) =
        (c.answersFrom mark).filter (fun x => x ∈ c.history ∧ x ∉ fetched) := by
      rw [List.filter_cons_of_neg (by simp [hf])]
      refine List.filter_congr fun x _ => ?_
      by_cases hx : x = e
      · simp [hx, hf]
      · simp [hx]
    rw [hk]
    refine iff_of_false (fun h => ?_) (fun h => h.1 hf)
    have hl := congrArg List.length h
    simp at hl
  · rw [List.filter_cons_of_pos (by simp [hf]), List.cons_append, List.cons.injEq,
      List.append_cancel_right_eq]
    simp only [true_and, hf, not_false_eq_true]
    constructor
    · intro h ha
      have hk : e ∈ (c.answersFrom mark).filter (fun x => x ∈ e :: c.history ∧ x ∉ fetched) := by
        simp [ha, hf]
      rw [h] at hk
      simpa [ha, hf] using hk
    · intro h
      refine List.filter_congr fun x hx => ?_
      by_cases he : x = e
      · subst he
        simp [h hx]
      · simp [he]

/-- The whole conversation is the same then. -/
theorem insert_setFetched (hm : mark ≤ c.nextInsert) (hf : e ∉ fetched)
    (ha : e ∈ c.answersFrom mark → e ∈ c.history) :
    (c.insert e).setFetched mark fetched = (c.setFetched mark fetched).insert e := by
  have hh := (merge_insert_iff hm fetched).mpr ⟨hf, ha⟩
  rw [setFetched, hh]
  rfl

end Conversation

namespace Client

theorem modify_congr {f g : Conversation → Conversation} {c : Client}
    (h : f c.sync.conversation = g c.sync.conversation) : c.modify f = c.modify g := by
  rw [modify, modify, h]

theorem answered_setFetched {c : Client} {t : PromptTicket}
    (hm : mark ≤ c.sync.conversation.nextInsert) (hf : { t.asked with answer } ∉ fetched)
    (ha : { t.asked with answer } ∈ c.sync.conversation.answersFrom mark →
      { t.asked with answer } ∈ c.history) :
    (c.answered t answer).modify (·.setFetched mark fetched) =
      (c.modify (·.setFetched mark fetched)).answered t answer := by
  have hc := Conversation.insert_setFetched hm hf ha
  rw [answered, answered, modify_modify, modify_modify]
  · exact modify_congr (congrArg (Conversation.publish _) hc)
  · exact fun _ => rfl
  · exact fun _ => rfl

theorem current_modify {f : Conversation → Conversation} {c : Client}
    (hf : ∀ d, (f d).generation = d.generation) :
    (c.modify f).current = (f c.sync.conversation).current := by
  rw [current, sync_modify (hf _), modify_conversation]

/-- A list that comes leaves the session and the slot as they are, and it does not matter whether an answer
comes before it or after it. A list for an earlier session is dropped either way. -/
theorem finish_list {c : Client} {t : HistoryTicket} {p : PromptTicket}
    (hs : 200 ≤ r.status ∧ r.status < 300) (hp : Entry.parsePast? r.body = some records)
    (hm : t.mark ≤ c.sync.conversation.nextInsert) (hf : { p.asked with answer } ∉ records)
    (ha : { p.asked with answer } ∈ c.sync.conversation.answersFrom t.mark →
      { p.asked with answer } ∈ c.history) :
    (c.finish (.history t) (.ok r)).2.session = c.session ∧
      (c.finish (.history t) (.ok r)).2.current = c.current ∧
      ((c.answered p answer).finish (.history t) (.ok r)).2 =
        (c.finish (.history t) (.ok r)).2.answered p answer := by
  by_cases hg : c.session.generation = t.generation
  · have hload (d : Client) (h : d.session = c.session) : (d.finish (.history t) (.ok r)).2 =
        d.modify (·.setFetched t.mark (records.filter (!·.isPending))) := by
      rw [(Finishes.fetched (h ▸ hg) (fetchedOf_history hs hp)).finish_eq]
    rw [hload c rfl, hload (c.answered p answer) rfl]
    refine ⟨rfl, current_modify fun _ => rfl, answered_setFetched hm ?_ ha⟩
    exact fun h => hf ((List.mem_filter.mp h).1)
  · have hdrop (d : Client) (h : d.session = c.session) : (d.finish (.history t) (.ok r)).2 = d := by
      rw [(Finishes.dropped (h ▸ hg)).finish_eq]
    rw [hdrop c rfl, hdrop (c.answered p answer) rfl]
    exact ⟨rfl, rfl, rfl⟩

end Client

namespace World

/-- Two calls that end one after the other leave what their ends make of the client. -/
theorem after_replies {w : World} (hm : w.inFlight m = some s) (hn : w.inFlight n = some t)
    (hne : m ≠ n) :
    w.after [.reply m r, .reply n r'] =
      ((w.withClient ((w.client.finish s r).2.finish t r').2).keep m none).keep n none := by
  simp [after, step, hm, hn, Ne.symm hne, keep, withClient]

theorem keep_comm (hne : m ≠ n) (s t : Option Ticket) (w : World) :
    (w.keep m s).keep n t = (w.keep n t).keep m s := by
  simp [keep, Function.update_comm hne]

/-- The slot waits for a prompt of the session that is on. -/
theorem Reachable.awaited {w : World} (hw : Reachable w) (hl : w.client.isLoggedIn = true)
    (hm : w.inFlight m = some (.prompt p)) (hc : w.client.current.awaits p.request = true) :
    w.client.session.generation = p.generation := by
  rw [Client.current] at hc
  have he := Client.sync_awaits hc
  rw [he] at hc
  have hg : w.client.conversation.generation = w.client.session.generation :=
    (he ▸ w.client.sync_uptodate).resolve_right (by simp [hl])
  exact hg.symm.trans (hw.placed.shown m p hm hc)

/-- Somebody is logged in, a load waits for its list, and the prompt that the slot shows waits for its
answer. Once both replies are there, nothing tells in which order they have come: the prompt is answered,
and the two worlds are the same. Only the list must not have the answered entry, and none of the answers of
the session may equal it. -/
theorem independent_replies_commute {w : World} (hw : Reachable w) (hl : w.client.isLoggedIn = true)
    (hn : w.inFlight n = some (.history t)) (hm : w.inFlight m = some (.prompt p))
    (hc : w.client.current.awaits p.request = true)
    (hr : 200 ≤ r.status ∧ r.status < 300) (hp : Entry.parsePast? r.body = some records)
    (hs : 200 ≤ s.status ∧ s.status < 300) (hb : s.body ≠ "")
    (hf : { p.asked with answer := s.body } ∉ records)
    (ha : { p.asked with answer := s.body } ∉ w.client.ledger.inserted.map (·.2)) :
    let list := Event.reply n (.ok r)
    let answer := Event.reply m (.ok s)
    let entry := { p.asked with answer := s.body }
    w.after [list, answer] = w.after [answer, list] ∧
      (w.after [list, answer]).client.current = .resolved entry .fresh ∧
      (w.step answer).1 = .ended (.entry (.ok entry)) ∧
      ((w.step list).2.step answer).1 = .ended (.entry (.ok entry)) := by
  intro list answer entry
  have hne : n ≠ m := by
    rintro rfl
    rw [hn] at hm
    cases hm
  have hg := hw.awaited hl hm hc
  have hmark : t.mark ≤ w.client.sync.conversation.nextInsert := by
    have hle := hw.placed.marked n t hn
    rwa [← Conversation.sync_nextInsert] at hle
  have hnew : entry ∈ w.client.sync.conversation.answersFrom t.mark → entry ∈ w.client.history := by
    intro he
    obtain ⟨q, hq, he⟩ := List.mem_map.mp he
    exact absurd (List.mem_map.mpr ⟨q, (List.mem_filter.mp hq).1, he⟩) ha
  obtain ⟨hsess, hcur, hswap⟩ := Client.finish_list (p := p) hr hp hmark hf hnew
  have hsend (c : Client) (h : c.session = w.client.session) (h' : c.current = w.client.current) :
      c.finish (.prompt p) (.ok s) = (.entry (.ok entry), c.answered p s.body) := by
    refine (Client.Finishes.answered (h ▸ hg) ?_ (answerOf_answer hs hb)).finish_eq
    exact (congrArg (·.awaits p.request) h').trans hc
  refine ⟨?_, ?_, ?_, ?_⟩
  · rw [after_replies hn hm hne, after_replies hm hn hne.symm, keep_comm hne,
      hsend w.client rfl rfl, hsend _ hsess hcur, hswap]
  · rw [after_replies hn hm hne, hsend _ hsess hcur]
    exact Client.current_modify fun _ => rfl
  · simp [answer, step, hm, hsend w.client rfl rfl]
  · simp [answer, list, step, hn, hm, Ne.symm hne, hsend _ hsess hcur]

theorem Loading.keeps {w : World} (h : Loading n t w) (hn : e.name? ≠ some n) :
    (w.step e).2.inFlight n = some (.history t) :=
  ((step_steps e w).keeps hn).trans h.kept

theorem Waits.awaited {w : World} (h : Waits n t true w) :
    w.client.current.awaits t.request = true := by
  rw [Client.current, h.idle, h.held rfl]
  simp [Slot.awaits]

/-- One question has been answered, and the next one is asked during a load. -/
theorem list_and_answer_commute :
    let u := signedIn.after [.begin 0 (.send "Why?"), .reply 0 (.ok ⟨200, "Because."⟩)]
    let v := (u.step (.begin 1 .load)).2
    let w := (v.step (.begin 2 (.send "Since when?"))).2
    let list := Event.reply 1 (.ok ⟨200, "[[\"Why?\", \"Because.\", \"1970-01-01T00:00:00Z\"]]"⟩)
    let answer := Event.reply 2 (.ok ⟨200, "Always."⟩)
    w.after [list, answer] = w.after [answer, list] ∧
      (w.after [list, answer]).client.history = [⟨"Since when?", "Always.", ⟨0, 0⟩⟩, why] := by
  intro u v w list answer
  have hu : Reachable u := .after (.start ..) _
  have hv : Reachable v := hu.step _
  obtain ⟨request, hb⟩ := load_sent 1 (w := u) (by decide +kernel)
  obtain ⟨t, hload, _⟩ := loading_of_sent hu rfl hb
  have hasks : v.client.prompt? (.send "Since when?") = some "Since when?" := rfl
  obtain ⟨request', hb'⟩ := sent_of_usable 2 hasks (by decide +kernel) (by decide +kernel)
  obtain ⟨p, hp, hwaits⟩ := waits_of_sent hasks hb'
  have hn := Loading.keeps (w := v) (e := .begin 2 (.send "Since when?")) hload (by simp [Event.name?])
  have hl : w.client.isLoggedIn = true := by decide +kernel
  have hlist : Entry.parsePast? "[[\"Why?\", \"Because.\", \"1970-01-01T00:00:00Z\"]]" =
      some [why] := by decide +kernel
  have hf : { p.asked with answer := "Always." } ∉ [why] := by
    rw [hp]
    decide
  have ha : { p.asked with answer := "Always." } ∉ w.client.ledger.inserted.map (·.2) := by
    rw [hp]
    decide +kernel
  obtain ⟨hcomm, _⟩ := independent_replies_commute (hv.step (.begin 2 (.send "Since when?"))) hl hn
    hwaits.kept hwaits.awaited (r := ⟨200, _⟩) (by decide) hlist (s := ⟨200, "Always."⟩) (by decide)
    (by decide) hf ha
  exact ⟨hcomm, by decide +kernel⟩

end World

end ChatClient
