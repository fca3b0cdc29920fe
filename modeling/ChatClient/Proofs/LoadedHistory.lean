import ChatClient.Proofs.Loading

/-!
The history of a session that has loaded it. Until the session changes, a load fails, or everything is
cleared, who makes sure of the history gets it without a request, and it is just what the outcomes tell:
the list of the last load, with the entries answered since in front and without those deleted since.
-/
namespace ChatClient

open Client (Begins Finishes)

namespace Effect

def unloads : Effect → Bool
  | .unfetched | .cleared => true
  | _ => false

/-- As long as nothing unloads it, a history is loaded as soon as a list has come. -/
theorem loaded_foldr {fs : List Effect} (h : ∀ f ∈ fs, f.unloads = false) (c : Conversation) :
    (fs.foldr apply c).loaded = (c.loaded || !(fs.filterMap fetched?).isEmpty) := by
  induction fs with
  | nil => simp
  | cons f fs ih =>
    obtain ⟨hf, hfs⟩ := List.forall_mem_cons.mp h
    rw [List.foldr_cons]
    cases f with
    | unfetched | cleared => cases hf
    | fetched => simp [apply, Conversation.setFetched, fetched?]
    | _ => exact ih hfs

end Effect

/-- The loaded history, as the outcome of one more event tells it: a load that ends with a list tells it
anew, an answer goes to the front, and the first entry equal to a deleted one is left out. -/
def Event.recount (told : Option (List Entry)) : Event → Output → Option (List Entry)
  | .reply _ _, .ended (.entries (.ok list)) => some list
  | .reply _ _, .ended (.entry (.ok entry)) => told.map (entry :: ·)
  | .delete entry, .flag true => told.map (·.erase entry)
  | _, _ => told

namespace World

/-- The loaded history as a run tells it, if there has been a load with a list before or in the run. -/
def recount (told : Option (List Entry)) (w : World) : List Event → Option (List Entry)
  | [] => told
  | e :: es => (w.step e).2.recount (e.recount told (w.step e).1) es

/-- Whether an event makes the history one that is to be loaded: a clearing, or a load that fails. -/
def unloads (w : World) (e : Event) : Bool := (w.effect e).unloads

theorem unloads_effects {w : World} (h : w.times unloads es = 0) :
    ∀ f ∈ w.effects es, f.unloads = false := by
  induction es generalizing w with
  | nil => simp [effects]
  | cons e es ih =>
    obtain ⟨he, hes⟩ := times_cons_eq_zero.mp h
    rw [effects, List.forall_mem_append]
    exact ⟨ih hes, by simpa [unloads] using he⟩

end World

/-- What has been told of a history is right once it is loaded. Before that it may
hold answers of which nothing is told. -/
def Conversation.Retold (told : Option (List Entry)) (c : Conversation) : Prop :=
  c.loaded = true → told = some c.history

theorem Conversation.Retold.sync {c : Conversation} (h : c.Retold told) (g : Nat) (b : Bool) :
    (c.sync g b).Retold told := by
  rcases sync_cases g b c with ⟨_, he⟩ | ⟨_, _, he⟩
  · rwa [he]
  · rw [he]
    intro hl
    cases hl

theorem Client.Writes.retold {c : Client} (h : c.Writes .nothing d)
    (hr : c.conversation.Retold told) : d.Retold told := by
  cases h with
  | idle => exact hr
  | made hg hf =>
    have he := hf c.sync.conversation
    intro hl
    have hs : c.sync.conversation.Retold told := hr.sync _ _
    have ht := hs ((congrArg Conversation.loaded he).symm.trans hl)
    exact ht.trans (congrArg (some ·.history) he.symm)

namespace World

theorem Steps.retold {w w' : World} (h : Steps w e o w') (hr : w.client.conversation.Retold told) :
    w'.client.conversation.Retold (e.recount told o) := by
  have hs : w.client.sync.conversation.Retold told := hr.sync _ _
  have hw := h.writes
  cases h with
  | done | sent => exact hw.retold hr
  | finished _ hf =>
    cases hf with
    | answered => exact fun hl => congrArg (Option.map _) (hs hl)
    | fetched => exact fun _ => rfl
    | unfetched =>
      rw [keep_client, withClient_client, Client.logoutIf_conversation]
      intro hl
      cases hl
    | _ => exact hw.retold hr
  | deleted => exact fun hl => congrArg (Option.map _) (hs hl)
  | cleared =>
    intro hl
    cases hl
  | _ => exact hw.retold hr

/-- What is told along a run is right whenever the history is loaded. -/
theorem retold_after {w : World} (hr : w.client.conversation.Retold told) :
    (w.after es).client.conversation.Retold (w.recount told es) := by
  induction es generalizing w told with
  | nil => exact hr
  | cons e es ih => exact ih ((step_steps e w).retold hr)

theorem after_loggedIn {w : World} (ht : w.times turns es = 0) :
    (w.after es).client.isLoggedIn = w.client.isLoggedIn := by
  induction es generalizing w with
  | nil => rfl
  | cons e es ih =>
    obtain ⟨he, hes⟩ := times_cons_eq_zero.mp ht
    have hs := step_steps e w
    have hg : (w.step e).2.client.session.generation = w.client.session.generation := by
      simpa [he] using hs.generation
    exact (ih hes).trans (hs.later.status hg)

/-- A call that ends with a history leaves it loaded, for a user who is logged in. -/
theorem Steps.loaded {w w' : World} (h : Steps w e (.ended (.entries (.ok list))) w')
    (hw : Coherent w) : w'.client.isLoggedIn = true ∧ w'.client.ledger.loaded = true := by
  cases h with
  | done hb =>
    cases hb with
    | cached hu hc =>
      refine ⟨Session.usable_loggedIn hu, ?_⟩
      rw [withClient_client, Client.ledger_sync]
      exact hc
  | finished hk hf =>
    cases hf with
    | fetched hg =>
      refine ⟨(hw.begun _ _ _ hk rfl).2 hg, ?_⟩
      rw [keep_client, withClient_client, Client.ledger, Client.sync_modify rfl]
      rfl

/-- Once a call has ended with a history, and as long as the session stays, nothing is cleared and no load
fails: as soon as the token is found good, making sure of the history brings it at once and sends nothing.
It is the history that is shown, before and after, and that the run has told. -/
theorem loaded_history_answers (tokens : Token.Store) (now : Time.Instant) (n : CallName)
    (hs : ((start tokens now).after es).step e = (.ended (.entries (.ok list)), v))
    (ht : v.times turns es' = 0) (hu : v.times unloads es' = 0)
    (hl : (v.after es').client.session.isLive (v.after es').now = true) :
    let w := v.after es'
    ∃ w', w.step (.begin n .ensure) = (.ended (.entries (.ok w.client.history)), w') ∧
      w'.client.history = w.client.history ∧
      (start tokens now).recount none (es ++ e :: es') = some w.client.history := by
  intro w
  have hr : Reachable ((start tokens now).after es) := .after (.start ..) es
  have hstep := step_steps e ((start tokens now).after es)
  rw [hs] at hstep
  obtain ⟨hin, hloaded⟩ := hstep.loaded hr.coherent
  have husable : w.client.session.usable w.now = true := by
    have hin' : w.client.isLoggedIn = true := (after_loggedIn ht).trans hin
    exact Bool.and_eq_true_iff.mpr ⟨hin', hl⟩
  have hc : w.client.sync.conversation.loaded = true := by
    have hledger : w.client.ledger.loaded = true := by
      rw [after_ledger ht, Effect.loaded_foldr (unloads_effects hu), hloaded, Bool.true_or]
    exact hledger
  -- The telling begins with the program: the call may have found a list that had come earlier.
  have htold : w.client.sync.conversation.Retold ((start tokens now).recount none (es ++ e :: es')) := by
    have h : ((start tokens now).after (es ++ e :: es')).client.conversation.Retold
        ((start tokens now).recount none (es ++ e :: es')) := retold_after fun hl => by cases hl
    rw [after_through hs] at h
    exact h.sync _ _
  refine ⟨_, (Steps.done (Begins.cached husable hc)).step_eq, ?_, htold hc⟩
  rw [withClient_client, Client.history, Client.sync_sync, Client.history]

theorem ended_of_fetched {w : World} (h : w.effect (.reply n reply) = .fetched mark entries) :
    ∃ list, w.step (.reply n reply) =
      (.ended (.entries (.ok list)), (w.step (.reply n reply)).2) := by
  unfold effect Event.effect at h
  split at h
  case h_2 list _ ho => exact ⟨list, Prod.ext ho rfl⟩
  case h_3 => split at h <;> cases h
  all_goals cases h

/-- A second load has ended after one answer and during another. What it has brought has been deleted. -/
theorem later_load_answers :
    let list := "[[\"How?\", \"So.\", \"1970-01-01T00:00:00Z\"]]"
    let first := .reply 0 (.ok ⟨200, list⟩)
    let v := ((signedIn.after [.begin 0 .load]).step first).2
    let es' := [.begin 1 (.send "Why?"), .reply 1 (.ok ⟨200, "Because."⟩), .begin 2 .load,
      .begin 3 (.send "Since when?"), .reply 3 (.ok ⟨200, "Always."⟩), .reply 2 (.ok ⟨200, list⟩),
      .delete ⟨"How?", "So.", ⟨0, 0⟩⟩]
    let since := ⟨"Since when?", "Always.", ⟨0, 0⟩⟩
    (∃ w', (v.after es').step (.begin 4 .ensure) = (.ended (.entries (.ok [since])), w')) ∧
      signedIn.recount none ([.begin 0 .load] ++ first :: es') = some [since] := by
  intro list first v es' since
  have hf : (signedIn.after [.begin 0 .load]).effect first = .fetched 0 [⟨"How?", "So.", ⟨0, 0⟩⟩] := by
    decide +kernel
  obtain ⟨_, hs⟩ := ended_of_fetched hf
  have ht : v.times turns es' = 0 := by decide +kernel
  have hu : v.times unloads es' = 0 := by decide +kernel
  have hh : (v.after es').client.history = [since] := by decide +kernel
  obtain ⟨w', hw, _, htold⟩ := loaded_history_answers _ _ 4 hs ht hu (by decide +kernel)
  rw [hh] at hw htold
  exact ⟨⟨w', hw⟩, htold⟩

end World

end ChatClient
