import ChatClient.Proofs.AlikeCalls
import ChatClient.Proofs.Generations

/-!
Runs of two clients side by side. An event that happens to both keeps them alike, and so does the end of
a call of an earlier session in one of them only.
-/
namespace ChatClient

open Client (Begins Finishes)

/-- Whether an event looks at what the conversation shows. -/
def Event.reads : Event → Bool
  | .look | .select _ | .delete _ => true
  | .begin _ call => call.resends
  | _ => false

/-- A call begun before the session of a generation. -/
def Ticket.Before (first : Nat) (t : Ticket) : Prop := ∃ g, t.generation? = some g ∧ g < first

/-- An event that can happen to both worlds. A reply to a call of an earlier session cannot, as there
need not be such a call in the other world. -/
def Event.Shared (first : Nat) (v w : World) : Event → Prop
  | .reply name _ => ∀ t, v.inFlight name = some t ∨ w.inFlight name = some t → ¬t.Before first
  | _ => True

/-- The end of a call of an earlier session. -/
def Event.Late (first : Nat) (w : World) : Event → Prop
  | .reply name _ | .abandon name => ∃ t, w.inFlight name = some t ∧ t.Before first
  | _ => False

inductive Output.Alike (a b : Base) : Output → Output → Prop
  | nothing : Output.Alike a b .nothing .nothing
  | flag : Output.Alike a b (.flag found) (.flag found)
  | view (hs : s.Alike a b t) : Output.Alike a b (.view s history) (.view t history)
  | sent : Output.Alike a b (.sent request) (.sent request)
  | ended : Output.Alike a b (.ended outcome) (.ended outcome)

theorem Output.Alike.view_iff :
    Output.Alike a b (.view s history) (.view t history') ↔ history' = history ∧ s.Alike a b t := by
  constructor
  · intro h
    cases h with
    | view hs => exact ⟨rfl, hs⟩
  · rintro ⟨rfl, hs⟩
    exact .view hs

/-- A call of an earlier session, whose request no later one has. -/
structure Ticket.Past (first : Nat) (a : Base) (t : Ticket) : Prop where
  before : t.Before first
  request : ∀ p, t = .prompt p → p.request < a.request

/-- What waits under one name in two worlds: the same call, or calls of earlier sessions, if any. -/
inductive Waiting (first : Nat) (a b : Base) : Option Ticket → Option Ticket → Prop
  | alike (h : s.Alike a b t) (hn : ¬s.Before first) : Waiting first a b (some s) (some t)
  | past (hs : ∀ t, s = some t → t.Past first a) (hs' : ∀ t, s' = some t → t.Past first b) :
      Waiting first a b s s'

theorem Waiting.update {f f' : CallName → Option Ticket} (h : ∀ m, Waiting first a b (f m) (f' m))
    (hn : Waiting first a b s s') (m : CallName) :
    Waiting first a b (Function.update f n s m) (Function.update f' n s' m) := by
  by_cases he : m = n
  · subst he
    simpa using hn
  · simpa [he] using h m

theorem Waiting.symm (h : Waiting first a b s s') : Waiting first b a s' s := by
  cases h with
  | alike h hn => exact .alike h.symm (by rwa [Ticket.Before, h.generation])
  | past hs hs' => exact .past hs' hs

theorem Waiting.none : Waiting first a b none none := .past (by simp) (by simp)

namespace Client

/-- A client that goes on with the same session and has got nothing from it into its conversation. -/
structure Idles (g : Nat) (c c' : Client) : Prop where
  session : c'.session = c.session
  request : c'.nextRequest = c.nextRequest
  since : (c'.since g).Wiped ∧ (c'.since g).nextInsert = (c.since g).nextInsert

theorem Idles.of_quiet {c : Client} {f : Conversation → Conversation}
    (hon : c.isLoggedIn = true → c.session.generation = g) (hq : Conversation.Quiet f)
    (hw : (c.since g).Wiped) : Idles g c (c.modify f) :=
  ⟨rfl, rfl, since_quiet hon hq hw⟩

theorem Alike.idles {a b : Base} {c c' d d' : Client} (h : c.Alike a b g d) (hc : Idles g c c')
    (hd : Idles g d d') : c'.Alike a b g d' where
  session := by rw [hc.session, hd.session]; exact h.session
  request := by rw [hc.request, hd.request]; exact h.request
  since := .of_wiped hc.since.1 hd.since.1
    (by rw [hc.since.2, hd.since.2]; exact h.since.nextInsert)
  on hl := by
    rw [isLoggedIn, hc.session] at hl
    rw [hc.session]
    exact h.on hl

end Client

namespace World

structure Alike (first : Nat) (a b : Base) (g : Nat) (v w : World) : Prop where
  now : w.now = v.now
  client : v.client.Alike a b g w.client
  first_le : first ≤ v.client.session.generation
  flight : ∀ n, Waiting first a b (v.inFlight n) (w.inFlight n)

theorem Alike.symm {v w : World} (h : v.Alike first a b g w) : w.Alike first b a g v :=
  ⟨h.now.symm, h.client.symm, h.client.session.generation ▸ h.first_le, fun n => (h.flight n).symm⟩

theorem shared_unknown {v w : World} (h : Waiting first a b (v.inFlight n) (w.inFlight n))
    (hs : Event.Shared first v w (.reply n reply)) (hv : v.inFlight n = none) :
    w.inFlight n = none := by
  cases hw : w.inFlight n with
  | none => rfl
  | some t =>
    rw [hv, hw] at h
    cases h with
    | past _ hp => exact absurd (hp t rfl).before (hs t (.inr hw))

theorem shared_alike {v w : World} (h : Waiting first a b (v.inFlight n) (w.inFlight n))
    (hs : Event.Shared first v w (.reply n reply)) (hv : v.inFlight n = some s) :
    ∃ t, w.inFlight n = some t ∧ s.Alike a b t := by
  rw [hv] at h
  generalize hw : w.inFlight n = t at h
  cases h with
  | alike ha => exact ⟨_, rfl, ha⟩
  | past hp _ => exact absurd (hp s rfl).before (hs s (.inl hv))

theorem begun_not_before {c c' : Client} (hb : Begins t₀ c call (.waiting request t) c')
    (hl : first ≤ c'.session.generation) : ¬t.Before first := by
  rintro ⟨g, hg, hlt⟩
  have := (hb.ticket_generation hg).1
  omega

/-- What happens to one world can happen to one that is alike, with the same output. -/
theorem Alike.steps {v v' w : World} (h : v.Alike first a b g w) (hv : Coherent v) (hw : Coherent w)
    (hs : Steps v e o v') (he : e.Shared first v w)
    (hr : e.reads = true → ¬v.client.Behind g ∧ ¬w.client.Behind g) :
    ∃ o' w', Steps w e o' w' ∧ o.Alike a b o' ∧ v'.Alike first a b (v'.client.era g) w' := by
  have hl : first ≤ v'.client.session.generation :=
    Nat.le_trans h.first_le hs.later.generation
  have hseen (hr' : e.reads = true) := h.client.seen (hr hr').1 (hr hr').2
  cases hs with
  | tick => exact ⟨_, _, .tick, .nothing, rfl, h.client.at_era, hl, h.flight⟩
  | outside =>
    exact ⟨_, _, .outside, .nothing, h.now, (h.client.withTokens _).at_era, hl, h.flight⟩
  | done hb =>
    obtain ⟨_, d, hb', hd, hc⟩ := h.client.begins hb fun hr' => (hseen hr').2
    cases hd
    rw [← h.now] at hb'
    exact ⟨_, _, .done hb', .ended, h.now, hc.at_era, hl, h.flight⟩
  | sent hb =>
    obtain ⟨_, d, hb', hd, hc⟩ := h.client.begins hb fun hr' => (hseen hr').2
    cases hd with
    | waiting ht =>
      rw [← h.now] at hb'
      exact ⟨_, _, .sent hb', .sent, h.now, hc.at_era, hl,
        Waiting.update h.flight (.alike ht (begun_not_before hb hl))⟩
  | finished hk hf =>
    obtain ⟨t, hk', ht⟩ := shared_alike (h.flight _) he hk
    obtain ⟨d, hf', hc⟩ := h.client.finishes ht hv.synced hw.synced
      (fun g' hg hy => (hv.begun _ _ g' hk hg).2 hy) hf
    exact ⟨_, _, .finished hk' hf', .ended, h.now, hc, hl, Waiting.update h.flight .none⟩
  | unknown hk =>
    exact ⟨_, _, .unknown (shared_unknown (h.flight _) he hk), .nothing, h.now, h.client.at_era, hl,
      h.flight⟩
  | abandoned =>
    exact ⟨_, _, .abandoned, .nothing, h.now, h.client.at_era, hl, Waiting.update h.flight .none⟩
  | looked =>
    refine ⟨_, _, .looked, ?_, h.now, h.client.sync.at_era, hl, h.flight⟩
    rw [(hseen rfl).1]
    exact .view (hseen rfl).2
  | selected hm =>
    have hm' := hm
    rw [← (hseen rfl).1] at hm'
    have hf := And.intro (Client.fresh_of_mem (hr rfl).1 hm) (Client.fresh_of_mem (hr rfl).2 hm')
    refine ⟨_, _, .selected hm', .flag, h.now, (?_ : Client.Alike ..).at_era, hl, h.flight⟩
    exact h.client.modify hf (fun _ => rfl) (fun _ => rfl) (h.client.since.publish (.shown rfl))
  | missed hm =>
    rw [← (hseen rfl).1] at hm
    exact ⟨_, _, .missed hm, .flag, h.now, h.client.sync.at_era, hl, h.flight⟩
  | @deleted entry hm =>
    have hm' := hm
    rw [← (hseen rfl).1] at hm'
    have hc := h.client.quiet (.deleted entry) (.deleted entry) (h.client.since.erase entry)
    exact ⟨_, _, .deleted hm', .flag, h.now, hc.at_era, hl, h.flight⟩
  | kept hm =>
    rw [← (hseen rfl).1] at hm
    exact ⟨_, _, .kept hm, .flag, h.now, h.client.sync.at_era, hl, h.flight⟩
  | newQuestion =>
    have hc := h.client.quiet .emptied .emptied (h.client.since.publish (.shown rfl))
    exact ⟨_, _, .newQuestion, .nothing, h.now, hc.at_era, hl, h.flight⟩
  | cleared =>
    have hc := h.client.quiet .cleared .cleared (h.client.since.reset.publish (.shown rfl))
    exact ⟨_, _, .cleared, .nothing, h.now, hc.at_era, hl, h.flight⟩
  | loggedOut =>
    exact ⟨_, _, .loggedOut, .nothing, h.now, h.client.logout.at_era, hl, h.flight⟩
  | forgotten =>
    exact ⟨_, _, .forgotten, .nothing, h.now, h.client.forgetToken.at_era, hl, h.flight⟩
  | checked =>
    refine ⟨_, _, .checked, ?_, h.now, ?_, hl, h.flight⟩
    · rw [h.client.session.usable, h.now]
      exact .flag
    · rw [h.now]
      exact (h.client.checked _).at_era

/-- While nobody is logged in, what looks at the conversation brings nothing into it. -/
theorem Steps.reads {w w' : World} (h : Steps w e o w') (hr : e.reads = true)
    (hl : w.client.isLoggedIn = false) (hw : (w.client.since g).Wiped) :
    w'.now = w.now ∧ w'.inFlight = w.inFlight ∧ Client.Idles g w.client w'.client := by
  have hon : w.client.isLoggedIn = true → w.client.session.generation = g := by simp [hl]
  have hsync : Client.Idles g w.client w.client.sync := .of_quiet hon .nothing hw
  cases h with
  | @done call _ _ _ hb =>
    cases hb with
    | missing => exact ⟨rfl, rfl, hsync⟩
    | blank =>
      have ho : w.client.opened call = w.client.sync := if_pos hr
      exact ⟨rfl, rfl, ho ▸ hsync⟩
    | unusable =>
      have ho : (w.client.opened call).checked w.now = w.client.sync := by
        rw [show w.client.opened call = w.client.sync from if_pos hr]
        exact Client.checked_anonymous hl
      exact ⟨rfl, rfl, ho ▸ hsync⟩
    | shut hs => rw [Call.resends_not_loads hr] at hs; cases hs
    | cached => cases hr
  | sent hb =>
    cases hb with
    | login | register => cases hr
    | asked _ _ hu | loading _ hu => simp [Session.usable_loggedIn hu, Client.isLoggedIn] at hl
  | looked | missed | kept => exact ⟨rfl, rfl, hsync⟩
  | selected hm =>
    refine ⟨rfl, rfl, rfl, rfl, ?_⟩
    by_cases hf : w.client.Fresh g
    · rw [Client.history, Client.sync_since hon hf, hw.history] at hm
      cases hm
    · exact Client.since_modify_stale hf (fun _ => rfl) (fun _ => rfl)
  | deleted => exact ⟨rfl, rfl, .of_quiet hon (.deleted _) hw⟩
  | _ => cases hr

/-- What one world does while it is behind may differ from what the other does, but nothing of it
reaches the next session. -/
theorem Alike.behind {v w : World} (h : v.Alike first a b g w) (hr : e.reads = true)
    (hb : v.client.Behind g ∨ w.client.Behind g) :
    (v.step e).2.Alike first a b ((v.step e).2.client.era g) (w.step e).2 := by
  have hf : ¬(v.client.Fresh g ∧ w.client.Fresh g) := by
    rintro ⟨hv, hw⟩
    exact hb.elim (·.1 hv) (·.1 hw)
  obtain ⟨hv, hw⟩ := h.client.wiped hf
  have hl : v.client.isLoggedIn = false := by
    by_contra hl
    exact hf (h.client.fresh (by simpa using hl))
  obtain ⟨hvn, hvf, hvc⟩ := (step_steps e v).reads hr hl hv
  obtain ⟨hwn, hwf, hwc⟩ := (step_steps e w).reads hr (h.client.loggedIn.trans hl) hw
  refine ⟨?_, (h.client.idles hvc hwc).at_era, ?_, ?_⟩
  · rw [hvn, hwn, h.now]
  · rw [hvc.session]
    exact h.first_le
  · rw [hvf, hwf]
    exact h.flight

theorem Alike.both {v w : World} (h : v.Alike first a b g w) (hv : Coherent v) (hw : Coherent w)
    (he : e.Shared first v w) :
    (v.step e).2.Alike first a b ((v.step e).2.client.era g) (w.step e).2 := by
  -- An event that looks at what is old may go one way here and another there, so only the states
  -- are compared then; all other events go the same way.
  by_cases hb : e.reads = true ∧ (v.client.Behind g ∨ w.client.Behind g)
  · exact h.behind hb.1 hb.2
  · obtain ⟨o, w', hs, _, ha⟩ := h.steps hv hw (step_steps e v) he fun hr => by
      simpa [hr, not_or] using hb
    rwa [hs.step_eq]

theorem waiting_past {v w : World} (h : ∀ m, Waiting first a b (v.inFlight m) (w.inFlight m))
    (hk : v.inFlight n = some t) (hb : t.Before first) :
    t.Past first a ∧ ∀ m, Waiting first a b (Function.update v.inFlight n none m) (w.inFlight m) := by
  have hn := h n
  rw [hk] at hn
  generalize hw : w.inFlight n = s' at hn
  cases hn with
  | alike _ hn => exact absurd hb hn
  | past hp hp' =>
    refine ⟨hp t rfl, fun m => ?_⟩
    by_cases he : m = n
    · subst he
      rw [Function.update_self, hw]
      exact .past (by simp) hp'
    · simpa [he] using h m

/-- The end of a call of an earlier session changes nothing that the session could tell. -/
theorem Alike.late {v w : World} (h : v.Alike first a b g w) (he : e.Late first v) :
    (v.step e).2.Alike first a b g w := by
  cases e with
  | reply n reply =>
    obtain ⟨t, hk, hb⟩ := he
    obtain ⟨hp, hf⟩ := waiting_past h.flight hk hb
    obtain ⟨outcome, c, hs, hc⟩ := step_reply hk reply
    obtain ⟨g', hg, hlt⟩ := hb
    have hle := h.first_le
    rw [hs]
    cases hc with
    | loggedIn | rejected | registered => cases hg
    | cancelled =>
      have hr := h.client.since.release_past (hp.request _ rfl)
      exact ⟨h.now, .of_sync (h.client.quiet (.released _) .nothing hr), h.first_le, hf⟩
    | dropped => exact ⟨h.now, h.client, h.first_le, hf⟩
    | superseded hy | answered hy | failed hy | fetched hy | unfetched hy =>
      cases hg
      omega
  | abandon n =>
    obtain ⟨t, hk, hb⟩ := he
    exact ⟨h.now, h.client, h.first_le, (waiting_past h.flight hk hb).2⟩
  | _ => exact he.elim

end World

end ChatClient
