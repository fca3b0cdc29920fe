import ChatClient.Proofs.Loading

/-!
What loads of the history do to an entry when they overlap. A load that ends takes over its own list, and
of the answers that have come since it was begun those that the history still has. So it does not bring
back what another load has dropped meanwhile, but it does bring back what has been deleted if the backend
still lists it.
-/
namespace ChatClient

namespace Effect

variable {c : Conversation} {f : Effect} {fs : List Effect}

/-- What an effect says of an entry: that the history has it now, that it has it no more, or nothing. A
load that comes without the entry says nothing if the entry has been answered since it was begun. -/
def fate (e : Entry) (c : Conversation) : Effect → Option Bool
  | .answered entry => if entry = e then some true else none
  | .fetched mark entries =>
    if e ∈ entries then some true else if e ∈ c.answersFrom mark then none else some false
  | .unfetched | .cleared => some false
  | .nothing | .deleted _ => none

/-- The last thing that is said of an entry. The last effect comes first. -/
def lastFate (e : Entry) (c : Conversation) : List Effect → Option Bool
  | [] => none
  | f :: fs => (f.fate e (fs.foldr apply c)).or (lastFate e c fs)

theorem mem_apply (hf : f ≠ .deleted e) :
    decide (e ∈ (f.apply c).history) = (f.fate e c).getD (decide (e ∈ c.history)) := by
  cases f with
  | nothing => rfl
  | answered entry =>
    by_cases he : entry = e
    · simp [apply, Conversation.insert, fate, he]
    · simp [apply, Conversation.insert, fate, he, Ne.symm he]
  | fetched mark entries =>
    by_cases he : e ∈ entries
    · simp [apply, Conversation.setFetched, Conversation.merge, fate, he]
    · by_cases ha : e ∈ c.answersFrom mark <;>
        simp [apply, Conversation.setFetched, Conversation.merge, Conversation.kept_eq, fate, he, ha]
  | unfetched | cleared => simp [apply, Conversation.dropHistory, Conversation.reset, fate]
  | deleted entry =>
    have hne : e ≠ entry := fun he => hf (he ▸ rfl)
    simp [apply, fate, List.mem_erase_of_ne hne]

/-- The last thing said of an entry decides, as long as it is not deleted. -/
theorem mem_foldr (hd : .deleted e ∉ fs) :
    decide (e ∈ (fs.foldr apply c).history) = (lastFate e c fs).getD (decide (e ∈ c.history)) := by
  induction fs with
  | nil => rfl
  | cons f fs ih =>
    simp only [List.mem_cons, not_or] at hd
    rw [List.foldr_cons, mem_apply (Ne.symm hd.1), ih hd.2, lastFate]
    cases f.fate e (fs.foldr apply c) <;> rfl

theorem mem_of_apply (h : e ∈ (f.apply c).history) :
    e ∈ c.history ∨ f.answered? = some e ∨ ∃ entries, f.fetched? = some entries ∧ e ∈ entries := by
  cases f with
  | nothing => exact .inl h
  | answered entry =>
    rcases List.mem_cons.mp h with rfl | h
    · exact .inr (.inl rfl)
    · exact .inl h
  | fetched mark entries =>
    rcases List.mem_append.mp h with h | h
    · exact .inl (Conversation.kept_mem h)
    · exact .inr (.inr ⟨entries, rfl, h⟩)
  | unfetched | cleared => cases h
  | deleted entry => exact .inl (List.mem_of_mem_erase h)

/-- What comes into the history is answered, or a load has brought it. -/
theorem mem_of_foldr (h : e ∈ (fs.foldr apply c).history) :
    e ∈ c.history ∨ e ∈ fs.filterMap answered? ∨ ∃ l ∈ fs.filterMap fetched?, e ∈ l := by
  induction fs with
  | nil => exact .inl h
  | cons f fs ih =>
    simp only [List.mem_filterMap, List.mem_cons, exists_eq_or_imp]
    rcases mem_of_apply h with h | h | ⟨l, hl, he⟩
    · rcases ih h with h | h | ⟨l, hl, he⟩
      · exact .inl h
      · exact .inr (.inl (.inr (List.mem_filterMap.mp h)))
      · exact .inr (.inr ⟨l, .inr (List.mem_filterMap.mp hl), he⟩)
    · exact .inr (.inl (.inl h))
    · exact .inr (.inr ⟨l, .inl hl, he⟩)

end Effect

namespace World

/-- The last thing that the events of a run say of an entry. -/
def fate (e : Entry) (w : World) (es : List Event) : Option Bool :=
  Effect.lastFate e w.client.ledger (w.effects es)

theorem Reachable.history_answered {w : World} (hw : Reachable w) (h : e ∈ w.client.history) :
    e.answer ≠ "" :=
  ((reachable_sound hw).sync _ _).history e h

/-- After a load the history has what the load brings, and what it has had before of the answers that have
come since the load was begun. -/
theorem mem_after_load {w v : World} (hw : Reachable w) (hl : call.loads = true)
    (hb : w.step (.begin n call) = (.sent request, v)) (hn : ∀ e ∈ es, e.name? ≠ some n)
    (ht : v.times turns es = 0) (hs : 200 ≤ r.status ∧ r.status < 300)
    (hp : Entry.parsePast? r.body = some records) (he : e.answer ≠ "") :
    ∃ u, (v.after es).step (.reply n (.ok r)) = (.ended (.entries (.ok u.client.history)), u) ∧
      (e ∈ u.client.history ↔
        e ∈ records ∨ e ∈ v.uncleared es ∧ e ∈ (v.after es).client.history) := by
  obtain ⟨u, hu, hh, _⟩ := load_ends hw hl hb hn ht (fetchedOf_history hs hp)
  refine ⟨u, hh ▸ hu, ?_⟩
  have hf : e ∈ records.filter (!·.isPending) ↔ e ∈ records := by simp [Entry.isPending, he]
  rw [hh, List.mem_append, List.mem_filter, decide_eq_true_iff, hf]
  by_cases hr : e ∈ records <;> simp [hr]

theorem ended_of_answered {w : World} (h : w.effect (.reply n reply) = .answered e) :
    w.step (.reply n reply) = (.ended (.entry (.ok e)), (w.step (.reply n reply)).2) := by
  refine Prod.ext ?_ rfl
  unfold effect Event.effect at h
  split at h
  case h_1 ho =>
    cases h
    exact ho
  case h_2 | h_3 => split at h <;> cases h
  all_goals cases h

theorem flag_of_mem {w : World} (h : e ∈ w.client.history) :
    w.step (.delete e) = (.flag true, (w.step (.delete e)).2) := by
  rw [(Steps.deleted h).step_eq]

/-- A prompt with its answer. -/
def why : Entry := ⟨"Why?", "Because.", ⟨0, 0⟩⟩

/-- An entry that has been answered during a load is in the history after it exactly if the load brings
it, or if it has not been dropped meanwhile: what the loads that have ended between the answer and the end
of this one say of it last is not that the history has it no more. -/
theorem answer_kept_iff {w v x : World} (hw : Reachable w) (hl : call.loads = true)
    (hb : w.step (.begin n call) = (.sent request, v))
    (ha : (v.after es).step (.reply m reply) = (.ended (.entry (.ok e)), x))
    (hn : ∀ ev ∈ es ++ .reply m reply :: es', ev.name? ≠ some n)
    (ht : v.times turns (es ++ .reply m reply :: es') = 0)
    (hd : .deleted e ∉ x.effects es') (hc : ∀ ev ∈ es', ev ≠ .clear)
    (hs : 200 ≤ r.status ∧ r.status < 300) (hp : Entry.parsePast? r.body = some records) :
    ∃ u, (x.after es').step (.reply n (.ok r)) = (.ended (.entries (.ok u.client.history)), u) ∧
      (e ∈ u.client.history ↔ e ∈ records ∨ x.fate e es' ≠ some false) := by
  obtain ⟨ht₁, ht₂⟩ := times_through ha es' ht
  -- The answer itself is the first thing that is known of the entry.
  have hx : x.client.ledger = (Effect.answered e).apply (v.after es).client.ledger := by
    have hs := step_steps (.reply m reply) (v.after es)
    rw [ha] at hs
    exact hs.ledger ht₁
  have hin : e ∈ x.client.history := by
    rw [← Client.ledger_history, hx]
    exact List.mem_cons_self
  have hr : Reachable x := ((hw.next hb).after es).next ha
  have hmem : e ∈ (x.after es').client.history ↔ x.fate e es' ≠ some false := by
    rw [← Client.ledger_history, after_ledger ht₂, ← decide_eq_true_iff (p := _ ∈ _),
      Effect.mem_foldr hd, ← fate]
    rcases x.fate e es' with _ | _ | _ <;> simp [hin]
  have hu : e ∈ v.uncleared (es ++ .reply m reply :: es') := by
    rw [uncleared, effects_through ha, Effect.uncleared_append (uncleared_effects hc)]
    exact List.mem_append_right _ (by simp [Event.effect, Effect.uncleared, Effect.answered?])
  obtain ⟨u, hu', hh⟩ := mem_after_load hw hl hb hn ht hs hp (hr.history_answered hin)
  rw [after_through ha] at hu' hh
  exact ⟨u, hu', by simp [hh, hu, hmem]⟩

/-- Another load, begun before the answer, has come without it meanwhile. -/
theorem answer_kept_after_earlier_load :
    let v := (signedIn.step (.begin 0 .load)).2
    let answer := .reply 2 (.ok ⟨200, "Because."⟩)
    let x := ((v.after [.begin 1 .load, .begin 2 (.send "Why?")]).step answer).2
    ∃ u, (x.after [.reply 1 (.ok ⟨200, "[]"⟩)]).step (.reply 0 (.ok ⟨200, "[]"⟩)) =
        (.ended (.entries (.ok u.client.history)), u) ∧ why ∈ u.client.history := by
  intro v answer x
  let es : List Event := [.begin 1 .load, .begin 2 (.send "Why?")]
  let es' : List Event := [.reply 1 (.ok ⟨200, "[]"⟩)]
  obtain ⟨request, hb⟩ := load_sent 0 (w := signedIn) (by decide +kernel)
  have ha : (v.after es).step answer = (.ended (.entry (.ok why)), x) :=
    ended_of_answered (by decide +kernel)
  have hn : ∀ ev ∈ es ++ answer :: es', ev.name? ≠ some 0 := by simp [es, answer, es', Event.name?]
  have ht : v.times turns (es ++ answer :: es') = 0 := by decide +kernel
  have hd : .deleted why ∉ x.effects es' := by decide +kernel
  have hc : ∀ ev ∈ es', ev ≠ .clear := by simp [es']
  have hp : Entry.parsePast? "[]" = some [] := by decide +kernel
  obtain ⟨u, hu, hh⟩ :=
    answer_kept_iff (.start ..) rfl hb ha hn ht hd hc (r := ⟨200, "[]"⟩) (by decide) hp
  exact ⟨u, hu, hh.mpr (.inr (by decide +kernel))⟩

/-- A load that fails empties the history, and the one that was begun before it takes the answer for
deleted, although nobody has deleted it. -/
theorem answer_lost_after_failed_load :
    let v := (signedIn.step (.begin 0 .load)).2
    let answer := .reply 1 (.ok ⟨200, "Because."⟩)
    let x := ((v.after [.begin 1 (.send "Why?")]).step answer).2
    let es' := [.begin 2 .load, .reply 2 (.error (.request "timed out"))]
    (∃ request, signedIn.step (.begin 0 .load) = (.sent request, v)) ∧
    (v.after [.begin 1 (.send "Why?")]).step answer = (.ended (.entry (.ok why)), x) ∧
    v.times turns ([.begin 1 (.send "Why?")] ++ answer :: es') = 0 ∧
    (∀ ev ∈ es', ev ≠ .delete why ∧ ev ≠ .clear) ∧
    ∃ u, (x.after es').step (.reply 0 (.ok ⟨200, "[]"⟩)) = (.ended (.entries (.ok [])), u) ∧
      why ∉ u.client.history := by
  intro v answer x es'
  let es : List Event := [.begin 1 (.send "Why?")]
  obtain ⟨request, hb⟩ := load_sent 0 (w := signedIn) (by decide +kernel)
  have ha : (v.after es).step answer = (.ended (.entry (.ok why)), x) :=
    ended_of_answered (by decide +kernel)
  have hn : ∀ ev ∈ es ++ answer :: es', ev.name? ≠ some 0 := by simp [es, answer, es', Event.name?]
  have ht : v.times turns (es ++ answer :: es') = 0 := by decide +kernel
  have hp : Entry.parsePast? "[]" = some [] := by decide +kernel
  obtain ⟨u, hu, hh, _⟩ :=
    load_ends (.start ..) rfl hb hn ht (fetchedOf_history (r := ⟨200, "[]"⟩) (by decide) hp)
  have hm : u.client.history = [] := hh.trans (by decide +kernel)
  rw [← hh, hm, after_through ha] at hu
  exact ⟨⟨request, hb⟩, ha, ht, by simp [es'], u, hu, by simp [hm]⟩

/-- An entry that has been deleted during a load is in the history after it exactly if the load brings it,
or if it has been answered since the load was begun and is in the history again when the load ends. Then
another load has brought it meanwhile. -/
theorem deleted_back_iff {w v x : World} (hw : Reachable w) (hl : call.loads = true)
    (hb : w.step (.begin n call) = (.sent request, v))
    (hd : (v.after es).step (.delete e) = (.flag true, x)) (hg : e ∉ x.client.history)
    (hn : ∀ ev ∈ es ++ .delete e :: es', ev.name? ≠ some n)
    (ht : v.times turns (es ++ .delete e :: es') = 0) (ha : e ∉ x.answers es')
    (hs : 200 ≤ r.status ∧ r.status < 300) (hp : Entry.parsePast? r.body = some records) :
    ∃ u, (x.after es').step (.reply n (.ok r)) = (.ended (.entries (.ok u.client.history)), u) ∧
      (e ∈ u.client.history ↔ e ∈ records ∨
        e ∈ v.uncleared (es ++ .delete e :: es') ∧ e ∈ (x.after es').client.history) ∧
      (e ∈ (x.after es').client.history → ∃ l ∈ x.fetches es', e ∈ l) := by
  have hv : Reachable (v.after es) := (hw.next hb).after es
  have hin : e ∈ (v.after es).client.history := by
    have hs := step_steps (.delete e) (v.after es)
    rw [hd] at hs
    generalize v.after es = y at hs
    cases hs with
    | deleted hm => exact hm
  obtain ⟨u, hu, hh⟩ := mem_after_load hw hl hb hn ht hs hp (hv.history_answered hin)
  rw [after_through hd] at hu hh
  refine ⟨u, hu, hh, fun hback => ?_⟩
  rw [← Client.ledger_history, after_ledger (times_through hd es' ht).2] at hback
  rcases Effect.mem_of_foldr hback with h | h | h
  · exact absurd h hg
  · exact absurd h ha
  · exact h

/-- An answer that has come and been deleted during a load stays away, although another list has come
meanwhile. -/
theorem deleted_stays_away :
    let v := (signedIn.step (.begin 0 .load)).2
    let x := ((v.after [.begin 1 (.send "Why?"), .reply 1 (.ok ⟨200, "Because."⟩)]).step
      (.delete why)).2
    let list := "[[\"How?\", \"So.\", \"1970-01-01T00:00:00Z\"]]"
    ∃ u, (x.after [.begin 1 .load, .reply 1 (.ok ⟨200, list⟩)]).step (.reply 0 (.ok ⟨200, list⟩)) =
        (.ended (.entries (.ok u.client.history)), u) ∧ why ∉ u.client.history := by
  intro v x list
  let es : List Event := [.begin 1 (.send "Why?"), .reply 1 (.ok ⟨200, "Because."⟩)]
  let es' : List Event := [.begin 1 .load, .reply 1 (.ok ⟨200, list⟩)]
  obtain ⟨request, hb⟩ := load_sent 0 (w := signedIn) (by decide +kernel)
  have hd : (v.after es).step (.delete why) = (.flag true, x) := flag_of_mem (by decide +kernel)
  have hg : why ∉ x.client.history := by decide +kernel
  have hn : ∀ ev ∈ es ++ .delete why :: es', ev.name? ≠ some 0 := by simp [es, es', Event.name?]
  have ht : v.times turns (es ++ .delete why :: es') = 0 := by decide +kernel
  have ha : why ∉ x.answers es' := by decide +kernel
  have hp : Entry.parsePast? list = some [⟨"How?", "So.", ⟨0, 0⟩⟩] := by decide +kernel
  obtain ⟨u, hu, hh, _⟩ :=
    deleted_back_iff (.start ..) rfl hb hd hg hn ht ha (r := ⟨200, list⟩) (by decide) hp
  exact ⟨u, hu, mt hh.mp (by decide +kernel)⟩

/-- What the backend still lists comes back. -/
theorem deleted_comes_back :
    let w := signedIn.after [.begin 1 (.send "Why?"), .reply 1 (.ok ⟨200, "Because."⟩)]
    let v := (w.step (.begin 0 .load)).2
    let x := (v.step (.delete why)).2
    let list := "[[\"Why?\", \"Because.\", \"1970-01-01T00:00:00Z\"]]"
    (∃ request, w.step (.begin 0 .load) = (.sent request, v)) ∧
    v.step (.delete why) = (.flag true, x) ∧ x.client.history = [] ∧ v.times turns [.delete why] = 0 ∧
    ∃ u, x.step (.reply 0 (.ok ⟨200, list⟩)) = (.ended (.entries (.ok [why])), u) ∧
      why ∈ u.client.history := by
  intro w v x list
  obtain ⟨request, hb⟩ := load_sent 0 (w := w) (by decide +kernel)
  have hd : v.step (.delete why) = (.flag true, x) := flag_of_mem (by decide +kernel)
  have hn : ∀ ev ∈ [Event.delete why], ev.name? ≠ some 0 := by simp [Event.name?]
  have ht : v.times turns [.delete why] = 0 := by decide +kernel
  have hp : Entry.parsePast? list = some [why] := by decide +kernel
  obtain ⟨u, hu, hh, _⟩ := load_ends (.after (.start ..) _) rfl hb hn ht
    (fetchedOf_history (r := ⟨200, list⟩) (by decide) hp)
  have hm : u.client.history = [why] := hh.trans (by decide +kernel)
  rw [← hh, hm, after, after] at hu
  exact ⟨⟨request, hb⟩, hd, by decide +kernel, ht, u, hu, by simp [hm]⟩

end World

end ChatClient
