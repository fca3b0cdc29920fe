import ChatClient.Proofs.Overlaps

/-!
When the history holds an entry twice. A load does not bring that about: of the answers that have come
meanwhile it leaves out those that its own list has. A prompt does: its answer goes to the front of the
history, whether a load has brought it already or not.
-/
namespace ChatClient

theorem Conversation.merge_nodup {c : Conversation} (hi : (c.inserted.map (·.2)).Nodup)
    (hf : fetched.Nodup) (mark : Nat) : (c.merge mark fetched).Nodup := by
  have ha : (c.answersFrom mark).Nodup := hi.sublist (List.filter_sublist.map _)
  rw [merge, kept_eq, List.nodup_append]
  refine ⟨ha.filter _, hf, ?_⟩
  rintro e he _ hf rfl
  simp [hf] at he

namespace Effect

variable {c : Conversation} {f : Effect}

/-- Whether an effect answers with an entry that the history has already. -/
def repeats (c : Conversation) : Effect → Bool
  | .answered entry => entry ∈ c.history
  | _ => false

theorem answered_of_repeats (h : f.repeats c = true) : ∃ e, f = .answered e ∧ e ∈ c.history := by
  cases f with
  | answered entry => exact ⟨entry, rfl, of_decide_eq_true h⟩
  | _ => cases h

/-- The answers of a conversation are some of those that have been given. -/
theorem inserted_apply (f : Effect) (c : Conversation) :
    ((f.apply c).inserted.map (·.2)).Sublist (f.answered?.toList ++ c.inserted.map (·.2)) := by
  cases f with
  | cleared => exact List.nil_sublist _
  | _ => exact List.Sublist.refl _

/-- Only an answer that is there already makes an entry come twice. -/
theorem nodup_apply (hc : c.history.Nodup) (hi : (c.inserted.map (·.2)).Nodup)
    (hf : ∀ l, f.fetched? = some l → l.Nodup) :
    (f.apply c).history.Nodup ↔ f.repeats c = false := by
  cases f with
  | nothing => exact iff_of_true hc rfl
  | answered entry => simp [apply, Conversation.insert, repeats, hc]
  | fetched mark entries => exact iff_of_true (Conversation.merge_nodup hi (hf _ rfl) mark) rfl
  | unfetched | cleared => exact iff_of_true List.nodup_nil rfl
  | deleted entry => exact iff_of_true (hc.erase entry) rfl

end Effect

namespace World

/-- A session has just begun: the client has been started, or a login has been accepted. -/
inductive Opening : World → Prop
  | start (tokens : Token.Store) (now : Time.Instant) : Opening (.start tokens now)
  | login {v w : World} (hv : Reachable v) (hk : v.inFlight n = some .login)
      (hs : v.step (.reply n reply) = (.ended (.auth (.ok ())), w)) : Opening w

/-- Whether an event answers with an entry that the history has already. -/
def repeats (w : World) (e : Event) : Bool := (w.effect e).repeats w.client.ledger

/-- Nothing has been written down yet when a session begins. -/
theorem Opening.wiped {w : World} (h : Opening w) : w.client.ledger = w.client.ledger.reset := by
  cases h with
  | start tokens now =>
    have hs : (World.start tokens now).client.sync = (World.start tokens now).client :=
      Client.sync_idle (.inl rfl)
    rw [Client.ledger, hs]
    rfl
  | login hv hk hs =>
    obtain ⟨hl, hg, hd⟩ := login_accepted hk hs
    have hlt := hv.coherent.synced
    rcases w.client.sync_conversation with ⟨h | h, _⟩ | ⟨_, _, he⟩
    · rw [hd] at h; omega
    · rw [hl] at h; cases h
    · rw [Client.ledger, he]
      rfl

theorem Opening.ledger {w : World} (h : Opening w) :
    w.client.history = [] ∧ w.client.ledger.inserted = [] :=
  ⟨congrArg Conversation.history h.wiped, congrArg Conversation.inserted h.wiped⟩

theorem fetches_cons (w : World) (e : Event) (es : List Event) :
    w.fetches (e :: es) = (w.step e).2.fetches es ++ (w.effect e).fetched?.toList := by
  rw [fetches, effects, List.filterMap_append, fetches]
  cases h : (w.effect e).fetched? <;> simp [h]

theorem answers_cons (w : World) (e : Event) (es : List Event) :
    w.answers (e :: es) = (w.step e).2.answers es ++ (w.effect e).answered?.toList := by
  rw [answers, effects, List.filterMap_append, answers]
  cases h : (w.effect e).answered? <;> simp [h]

/-- Along a run that gives no answer twice, the history is free of doubles as long as no answer is there
already. -/
theorem nodup_iff {w : World} (ht : w.times turns es = 0) (hc : w.client.history.Nodup)
    (ha : (w.answers es ++ w.client.ledger.inserted.map (·.2)).Nodup)
    (hf : ∀ l ∈ w.fetches es, l.Nodup) :
    (∀ pre, pre <+: es → (w.after pre).client.history.Nodup) ↔ w.times repeats es = 0 := by
  induction es generalizing w with
  | nil => simpa [after, times] using hc
  | cons e es ih =>
    obtain ⟨he, hes⟩ := times_cons_eq_zero.mp ht
    rw [answers_cons, List.append_assoc] at ha
    rw [fetches_cons] at hf
    have hl : (w.step e).2.client.ledger = (w.effect e).apply w.client.ledger :=
      (step_steps e w).ledger he
    have hi : (w.client.ledger.inserted.map (·.2)).Nodup :=
      ha.sublist ((List.sublist_append_right ..).trans (List.sublist_append_right ..))
    have hstep : (w.step e).2.client.history.Nodup ↔ w.repeats e = false := by
      rw [← Client.ledger_history, hl]
      exact Effect.nodup_apply hc hi fun l h => hf l (by simp [h])
    rw [along_cons fun v => v.client.history.Nodup, times_cons_eq_zero, ← hstep]
    by_cases hn : (w.step e).2.client.history.Nodup
    · have ha' := ha.sublist ((Effect.inserted_apply (w.effect e) w.client.ledger).append_left _)
      rw [← hl] at ha'
      simp only [hc, hn, true_and]
      exact ih hes hn ha' fun l h => hf l (List.mem_append_left _ h)
    · exact iff_of_false (fun h => hn (h.2 [] List.nil_prefix)) (fun h => hn h.1)

/-- In a session that gives no answer twice, and whose loads bring lists without doubles, the history never
has an entry twice exactly if no answer is in the history already when it comes. Such an answer has been
brought by a load before. -/
theorem history_nodup_iff {w : World} (hw : Opening w) (ht : w.times turns es = 0)
    (ha : (w.answers es).Nodup) (hf : ∀ l ∈ w.fetches es, l.Nodup) :
    ((∀ pre, pre <+: es → (w.after pre).client.history.Nodup) ↔ w.times repeats es = 0) ∧
    ∀ pre e, pre ++ [e] <+: es → (w.after pre).repeats e = true →
      ∃ entry, (w.after pre).effect e = .answered entry ∧ ∃ l ∈ w.fetches pre, entry ∈ l := by
  obtain ⟨hh, hi⟩ := hw.ledger
  refine ⟨nodup_iff ht (by simp [hh]) (by simpa [hi] using ha) hf, fun pre e hp hr => ?_⟩
  obtain ⟨post, rfl⟩ := hp
  rw [List.append_assoc, List.singleton_append] at ht ha
  obtain ⟨entry, he, hm⟩ := Effect.answered_of_repeats hr
  refine ⟨entry, he, ?_⟩
  have hpre : w.times turns pre = 0 := by rw [times_append] at ht; omega
  rw [after_ledger hpre] at hm
  rcases Effect.mem_of_foldr hm with h | h | h
  · rw [Client.ledger_history, hh] at h
    cases h
  · -- It has been answered twice.
    rw [answers, effects_append, effects, List.filterMap_append, List.nodup_append] at ha
    refine absurd rfl (ha.2.2 entry ?_ entry h)
    simp [he, Effect.answered?]
  · exact h

/-- The answer has come before the load that brings it. -/
theorem answer_before_list_single :
    let list := "[[\"Why?\", \"Because.\", \"1970-01-01T00:00:00Z\"]]"
    let es := [.begin 0 .load, .begin 1 (.send "Why?"), .reply 1 (.ok ⟨200, "Because."⟩),
      .reply 0 (.ok ⟨200, list⟩)]
    (∀ pre, pre <+: es → (signedIn.after pre).client.history.Nodup) ∧
      (signedIn.after es).client.history = [why] := by
  intro list es
  have ht : signedIn.times turns es = 0 := by decide +kernel
  have ha : (signedIn.answers es).Nodup := by decide +kernel
  have hf : ∀ l ∈ signedIn.fetches es, l.Nodup := by decide +kernel
  obtain ⟨h, _⟩ := history_nodup_iff (.start ..) ht ha hf
  exact ⟨h.mpr (by decide +kernel), by decide +kernel⟩

/-- The load has brought it before the prompt ends. -/
theorem answer_after_list_doubled :
    let list := "[[\"Why?\", \"Because.\", \"1970-01-01T00:00:00Z\"]]"
    let es := [.begin 0 (.send "Why?"), .begin 1 .load, .reply 1 (.ok ⟨200, list⟩),
      .reply 0 (.ok ⟨200, "Because."⟩)]
    Opening signedIn ∧ signedIn.times turns es = 0 ∧ signedIn.answers es = [why] ∧
      signedIn.fetches es = [[why]] ∧ (signedIn.after es).client.history = [why, why] ∧
      ¬∀ pre, pre <+: es → (signedIn.after pre).client.history.Nodup := by
  intro list es
  have hh : (signedIn.after es).client.history = [why, why] := by decide +kernel
  refine ⟨.start .., by decide +kernel, by decide +kernel, by decide +kernel, hh, fun h => ?_⟩
  have hn := h es List.prefix_rfl
  simp [hh] at hn

end World

end ChatClient
