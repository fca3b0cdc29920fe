import ChatClient.Proofs.Calls

/-!
What one event can do to a world, as one list of cases.
-/
namespace ChatClient

open Client (Begins Finishes)

/-- The calls of the conversation hold the generation in which they were begun. -/
def Ticket.generation? : Ticket → Option Nat
  | .prompt t => some t.generation
  | .history t => some t.generation
  | _ => none

/-- What can become of a world by one event, and what is learnt from it. -/
inductive World.Steps (w : World) : Event → Output → World → Prop
  | tick : Steps w (.tick t) .nothing { w with now := t }
  | outside : Steps w (.outside tokens) .nothing (w.withClient (w.client.withTokens tokens))
  | done (hb : Begins w.now w.client call (.done outcome) c) :
      Steps w (.begin name call) (.ended outcome) (w.withClient c)
  | sent (hb : Begins w.now w.client call (.waiting request ticket) c) :
      Steps w (.begin name call) (.sent request) ((w.withClient c).keep name (some ticket))
  | finished (hk : w.inFlight name = some ticket) (hf : Finishes w.client ticket reply outcome c) :
      Steps w (.reply name reply) (.ended outcome) ((w.withClient c).keep name none)
  | unknown (hk : w.inFlight name = none) : Steps w (.reply name reply) .nothing w
  | abandoned : Steps w (.abandon name) .nothing (w.keep name none)
  | looked : Steps w .look (.view w.client.current w.client.history) (w.withClient w.client.sync)
  | selected (hm : entry ∈ w.client.history) :
      Steps w (.select entry) (.flag true)
        (w.withClient (w.client.modify (·.publish (.resolved entry .history))))
  | missed (hm : entry ∉ w.client.history) :
      Steps w (.select entry) (.flag false) (w.withClient w.client.sync)
  | deleted (hm : entry ∈ w.client.history) :
      Steps w (.delete entry) (.flag true)
        (w.withClient (w.client.modify fun c => { c with history := c.history.erase entry }))
  | kept (hm : entry ∉ w.client.history) :
      Steps w (.delete entry) (.flag false) (w.withClient w.client.sync)
  | newQuestion : Steps w .newQuestion .nothing (w.withClient (w.client.modify (·.publish .empty)))
  | cleared : Steps w .clear .nothing (w.withClient (w.client.modify (·.reset.publish .empty)))
  | loggedOut : Steps w .logout .nothing (w.withClient w.client.logout)
  | forgotten : Steps w .forgetToken .nothing (w.withClient w.client.forgetToken)
  | checked : Steps w .ensureValid (.flag (w.client.session.usable w.now))
      (w.withClient (w.client.checked w.now))

namespace World

@[simp] theorem withClient_client (c : Client) (w : World) : (w.withClient c).client = c := rfl

@[simp] theorem withClient_inFlight (c : Client) (w : World) :
    (w.withClient c).inFlight = w.inFlight := rfl

@[simp] theorem keep_client (n : CallName) (t : Option Ticket) (w : World) :
    (w.keep n t).client = w.client := rfl

@[simp] theorem keep_inFlight (n : CallName) (t : Option Ticket) (w : World) :
    (w.keep n t).inFlight = Function.update w.inFlight n t := rfl

theorem step_steps (e : Event) (w : World) : Steps w e (w.step e).1 (w.step e).2 := by
  cases e with
  | tick => exact .tick
  | outside => exact .outside
  | begin name call =>
    have hb := Client.begin_begins w.now call w.client
    rcases he : w.client.begin w.now call with ⟨_ | _, c⟩ <;> rw [he] at hb <;> simp only [step, he]
    · exact .done hb
    · exact .sent hb
  | reply name reply =>
    cases hk : w.inFlight name with
    | none => simpa [step, hk] using Steps.unknown hk
    | some ticket =>
      simpa [step, hk] using Steps.finished hk (Client.finish_finishes ticket reply w.client)
  | abandon => exact .abandoned
  | look => exact .looked
  | select entry =>
    by_cases hm : entry ∈ w.client.history
    · have hc : entry ∈ w.client.sync.conversation.history := hm
      simpa [step, Client.select, Conversation.select, hc, Client.modify] using Steps.selected hm
    · have hc : entry ∉ w.client.sync.conversation.history := hm
      simp only [step, Client.select, Conversation.select, List.contains_iff_mem, hc]
      exact .missed hm
  | delete entry =>
    by_cases hm : entry ∈ w.client.history
    · have hc : entry ∈ w.client.sync.conversation.history := hm
      simpa [step, Client.delete, Conversation.delete, hc, Client.modify] using Steps.deleted hm
    · have hc : entry ∉ w.client.sync.conversation.history := hm
      simp only [step, Client.delete, Conversation.delete, List.contains_iff_mem, hc]
      exact .kept hm
  | newQuestion => exact .newQuestion
  | clear => exact .cleared
  | logout => exact .loggedOut
  | forgetToken => exact .forgotten
  | ensureValid =>
    simpa [step, Client.ensureValid_eq] using Steps.checked (w := w)

/-- What holds at the start and is kept by every event holds always. -/
theorem Reachable.invariant {P : World → Prop} {w : World} (h : Reachable w)
    (hstart : ∀ tokens now, P (.start tokens now))
    (hstep : ∀ v e o v', P v → Steps v e o v' → P v') : P w := by
  induction h with
  | start tokens now => exact hstart tokens now
  | step e _ ih => exact hstep _ e _ _ ih (step_steps e _)

theorem Steps.unique {w v v' : World} (h : Steps w e o v) (h' : Steps w e o' v') :
    o = o' ∧ v = v' := by
  cases h with
  | done hb =>
    cases h' with
    | done hb' => obtain ⟨h, rfl⟩ := hb.unique hb'; cases h; exact ⟨rfl, rfl⟩
    | sent hb' => cases (hb.unique hb').1
  | sent hb =>
    cases h' with
    | done hb' => cases (hb.unique hb').1
    | sent hb' => obtain ⟨h, rfl⟩ := hb.unique hb'; cases h; exact ⟨rfl, rfl⟩
  | finished hk hf =>
    cases h' with
    | finished hk' hf' =>
      cases hk.symm.trans hk'
      obtain ⟨rfl, rfl⟩ := hf.unique hf'
      exact ⟨rfl, rfl⟩
    | unknown hk' => cases hk.symm.trans hk'
  | unknown hk =>
    cases h' with
    | finished hk' _ => cases hk.symm.trans hk'
    | unknown => exact ⟨rfl, rfl⟩
  | selected hm | missed hm | deleted hm | kept hm =>
    cases h' <;> first | exact ⟨rfl, rfl⟩ | contradiction
  | _ => cases h'; exact ⟨rfl, rfl⟩

/-- The list of cases says exactly what a step does. -/
theorem Steps.step_eq {w w' : World} (h : Steps w e o w') : w.step e = (o, w') := by
  obtain ⟨rfl, rfl⟩ := h.unique (step_steps e w)
  rfl

theorem step_reply {w : World} (hk : w.inFlight n = some ticket) (reply : Http.Reply) :
    ∃ outcome c, w.step (.reply n reply) = (.ended outcome, (w.withClient c).keep n none) ∧
      Finishes w.client ticket reply outcome c :=
  ⟨_, _, by simp [step, hk], Client.finish_finishes ticket reply w.client⟩

/-- What is in flight was there before, or has just been sent. -/
theorem Steps.flight {w w' : World} (h : Steps w e o w') (ht : w'.inFlight n = some t) :
    w.inFlight n = some t ∨
    ∃ call request, e = .begin n call ∧ Begins w.now w.client call (.waiting request t) w'.client := by
  cases h with
  | @sent call request ticket c name hb =>
    by_cases hn : n = name
    · subst hn
      simp only [keep_inFlight, Function.update_self, Option.some.injEq] at ht
      subst ht
      exact .inr ⟨call, request, rfl, hb⟩
    · exact .inl (by simpa [hn] using ht)
  | @finished name | @abandoned name =>
    by_cases hn : n = name
    · simp [hn] at ht
    · exact .inl (by simpa [hn] using ht)
  | _ => exact .inl ht

theorem Steps.keeps {w w' : World} (h : Steps w e o w') (hn : e.name? ≠ some n) :
    w'.inFlight n = w.inFlight n := by
  cases h with
  | @sent _ _ _ _ m | @finished m | @abandoned m =>
    have hm : n ≠ m := fun he => hn (he ▸ rfl)
    simp [hm]
  | _ => rfl

theorem after_keeps {w : World} (hn : ∀ e ∈ es, e.name? ≠ some n) :
    (w.after es).inFlight n = w.inFlight n := by
  induction es generalizing w with
  | nil => rfl
  | cons e es ih =>
    rw [after, ih fun e' he => hn e' (by simp [he])]
    exact (step_steps e w).keeps (hn e (by simp))

/-- A login that was begun waits for its reply, whatever happens meanwhile. -/
theorem login_waits (w : World) (email password : String) (hn : ∀ e ∈ es, e.name? ≠ some n) :
    ((w.step (.begin n (.login email password))).2.after es).inFlight n = some .login := by
  rw [after_keeps hn]
  simp [step, Client.begin]

end World

end ChatClient
