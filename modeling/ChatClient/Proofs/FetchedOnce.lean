import ChatClient.Proofs.Distinct
import ChatClient.Proofs.LoadedHistory
import Mathlib.Data.List.Induction

/-!
How often a session asks the backend for its history, if it is only made sure of. Once it is there it is
not asked for again. But a call that finds it missing asks for it, whether another call waits for it already
or not.
-/
namespace ChatClient

open Client (Begins Finishes)

def Output.asksHistory : Output → Bool
  | .sent request => request.method = .get && request.path = "/client"
  | _ => false

def World.asksHistory (w : World) (e : Event) : Bool := (w.step e).1.asksHistory

@[simp] theorem Http.Request.withToken_method (token : Option String) (r : Http.Request) :
    (r.withToken token).method = r.method := by
  cases token <;> rfl

@[simp] theorem Http.Request.withToken_path (token : Option String) (r : Http.Request) :
    (r.withToken token).path = r.path := by
  cases token <;> rfl

namespace World

/-- The history is asked for by a call that loads it, if the session may be used and the call does not find
it loaded. -/
theorem Steps.asksHistory_iff {w w' : World} (h : Steps w e o w') :
    o.asksHistory = true ↔ ∃ n call, e = .begin n call ∧ call.loads = true ∧
      w.client.session.usable w.now = true ∧
      (call = .ensure → w.client.ledger.loaded = false) := by
  constructor
  · intro ho
    cases h with
    | sent hb =>
      cases hb with
      | loading hl hu hc => exact ⟨_, _, rfl, hl, hu, hc⟩
      | _ =>
        simp [Output.asksHistory, Session.authorize, Session.loginRequest, Session.registerRequest,
          Http.Request.postText, Http.Request.postJson] at ho
    | _ => cases ho
  · rintro ⟨n, call, rfl, hl, hu, hc⟩
    obtain ⟨rfl, _⟩ := h.unique (.sent (.loading hl hu hc))
    simp [Output.asksHistory, Session.authorize, Http.Request.get]

/-- Who has asked for the history is logged in, as long as the session stays. -/
theorem loggedIn_of_asked {w : World} (ht : w.times turns es = 0)
    (ha : 0 < w.times asksHistory es) : w.client.isLoggedIn = true := by
  induction es generalizing w with
  | nil => cases ha
  | cons e es ih =>
    obtain ⟨he, hes⟩ := times_cons_eq_zero.mp ht
    cases hask : w.asksHistory e with
    | true =>
      obtain ⟨_, _, _, _, hu, _⟩ := (step_steps e w).asksHistory_iff.mp hask
      exact Session.usable_loggedIn hu
    | false =>
      have hone : w.times turns [e] = 0 := by simp [times, he]
      have ha' : 0 < (w.step e).2.times asksHistory es := by simpa [times, hask] using ha
      exact (after_loggedIn hone).symm.trans (ih hes ha')

/-- In a session that begins with nothing loaded, the history is loaded as soon as a list has come. -/
theorem loaded_after {w : World} (hw : Opening w) (ht : w.times turns es = 0)
    (hu : w.times unloads es = 0) : (w.after es).client.ledger.loaded = !(w.fetches es).isEmpty := by
  have hl : w.client.ledger.loaded = false := congrArg Conversation.loaded hw.wiped
  rw [after_ledger ht, Effect.loaded_foldr (unloads_effects hu), hl, Bool.false_or, fetches]

/-- Who makes sure of the history after it has been asked for, and before a list has come, asks for it
again. -/
theorem asked_again {w : World} (hw : Opening w) (ht : w.times turns (pre ++ [.begin n .ensure]) = 0)
    (hu : w.times unloads pre = 0) (ha : 0 < w.times asksHistory pre) (hf : w.fetches pre = []) :
    (w.after pre).asksHistory (.begin n .ensure) = true := by
  rw [times_append, Nat.add_eq_zero_iff, times_cons_eq_zero] at ht
  obtain ⟨htpre, hte, -⟩ := ht
  have hin : (w.after pre).client.isLoggedIn = true :=
    (after_loggedIn htpre).trans (loggedIn_of_asked htpre ha)
  -- An expired token would have ended the session.
  have husable : (w.after pre).client.session.usable (w.after pre).now = true := by
    have hin' : (w.after pre).client.session.isLoggedIn = true := hin
    simpa [turns, Client.checks, Call.loads, Session.expired, Session.usable, hin'] using hte
  have hnot : (w.after pre).client.ledger.loaded = false := by
    rw [loaded_after hw htpre hu, hf]
    rfl
  exact (step_steps _ _).asksHistory_iff.mpr ⟨n, .ensure, rfl, rfl, husable, fun _ => hnot⟩

/-- Where nobody loads the history otherwise, it is asked for only by making sure of it before a list has
come. -/
theorem asked_early {w : World} (hw : Opening w) (ht : w.times turns es = 0)
    (hu : w.times unloads es = 0) (hl : ∀ n, e ≠ .begin n .load)
    (ha : (w.after es).asksHistory e = true) :
    (∃ n, e = .begin n .ensure) ∧ w.fetches es = [] := by
  obtain ⟨n, call, rfl, hloads, _, hnot⟩ := (step_steps _ _).asksHistory_iff.mp ha
  cases call with
  | ensure =>
    have hloaded := loaded_after hw ht hu
    rw [hnot rfl] at hloaded
    exact ⟨⟨n, rfl⟩, by simpa using hloaded⟩
  | load => exact absurd rfl (hl n)
  | _ => cases hloads

/-- A session makes sure of its history, never loads it otherwise, and no load fails and nothing is cleared.
Then the history is asked for once at most exactly if nobody makes sure of it between the first time that it
is asked for and the first list that comes. -/
theorem history_asked_once_iff {w : World} (hw : Opening w) (ht : w.times turns es = 0)
    (hu : w.times unloads es = 0) (hl : ∀ n, .begin n .load ∉ es) :
    w.times asksHistory es ≤ 1 ↔ ∀ pre n, pre ++ [.begin n .ensure] <+: es →
      0 < w.times asksHistory pre → w.fetches pre ≠ [] := by
  constructor
  · rintro hle pre n ⟨post, rfl⟩ ha hf
    rw [times_append, Nat.add_eq_zero_iff] at ht hu
    have hupre : w.times unloads pre = 0 := by
      rw [times_append, Nat.add_eq_zero_iff] at hu
      exact hu.1.1
    have hask := asked_again hw ht.1 hupre ha hf
    rw [List.append_assoc, List.singleton_append, times_append, times, if_pos hask] at hle
    omega
  · -- From the end of the run, since the condition is about all that comes before a call.
    intro h
    induction es using List.reverseRecOn with
    | nil => exact Nat.zero_le _
    | append_singleton es e ih =>
      have hle := h es
      rw [times_append, Nat.add_eq_zero_iff] at ht hu
      rw [times_append]
      cases hask : (w.after es).asksHistory e with
      | false =>
        have hes := ih ht.1 hu.1 (fun n hm => hl n (List.mem_append_left _ hm))
          fun pre n hp => h pre n (hp.trans (List.prefix_append ..))
        simpa [times, hask] using hes
      | true =>
        have hload (n : CallName) : e ≠ .begin n .load := by
          rintro rfl
          exact hl n (List.mem_append_right _ (List.mem_singleton_self _))
        obtain ⟨⟨n, rfl⟩, hnone⟩ := asked_early hw ht.1 hu.1 hload hask
        have hzero : w.times asksHistory es = 0 := by
          by_contra hne
          exact hle n List.prefix_rfl (Nat.pos_of_ne_zero hne) hnone
        simp [times, hask, hzero]

/-- The second call comes when the first list is there. -/
theorem later_call_asks_nothing :
    signedIn.times asksHistory
      [.begin 0 .ensure, .reply 0 (.ok ⟨200, "[]"⟩), .begin 1 .ensure] ≤ 1 := by
  let es : List Event := [.begin 0 .ensure, .reply 0 (.ok ⟨200, "[]"⟩), .begin 1 .ensure]
  have ht : signedIn.times turns es = 0 := by decide +kernel
  have hu : signedIn.times unloads es = 0 := by decide +kernel
  refine (history_asked_once_iff (.start ..) ht hu (by simp [es])).mpr fun pre n hp ha => ?_
  obtain ⟨post, hp⟩ := hp
  rcases pre with _ | ⟨e₀, _ | ⟨e₁, _ | ⟨e₂, pre⟩⟩⟩
  · cases ha
  · simp [es] at hp
  · simp only [es, List.cons_append, List.nil_append, List.cons.injEq] at hp
    obtain ⟨rfl, rfl, _⟩ := hp
    decide +kernel
  · simp [es] at hp

/-- Both calls come before the first list is there. -/
theorem overlapping_calls_ask_twice :
    let es := [.begin 0 .ensure, .begin 1 .ensure, .reply 0 (.ok ⟨200, "[]"⟩),
      .reply 1 (.ok ⟨200, "[]"⟩)]
    Opening signedIn ∧ signedIn.times turns es = 0 ∧ signedIn.times unloads es = 0 ∧
      (∀ n, .begin n .load ∉ es) ∧ signedIn.times asksHistory es = 2 := by
  intro es
  exact ⟨.start .., by decide +kernel, by decide +kernel, by simp [es], by decide +kernel⟩

end World

end ChatClient
