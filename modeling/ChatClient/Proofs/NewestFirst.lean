import ChatClient.Proofs.Loading

/-!
In which order the history stands. In front is what the prompts of the session have brought, the one asked
last first, in whatever order the answers have come. After that comes what the last load has brought, in
the order in which it was brought. Nothing ever sorts the history. It is enough that a prompt settles only
as long as no other one has been asked after it.

To say which prompt was asked when, a chronicle is kept beside a run.
-/
namespace ChatClient

open Client (Begins Finishes)

/-- What is noted about a run: how many events there have been, which of them has begun each call, and
since the conversation was wiped the answers that have come, newest first, each with the event that has
asked for it; the list of the last load, the answers that have come after that load, and whether an entry
has been deleted after it. -/
structure Chronicle where
  events : Nat
  begun : CallName → Nat
  answers : List (Nat × Entry)
  listed : List Entry
  recent : List Entry
  deleted : Bool

namespace Chronicle

def start : Chronicle := ⟨0, fun _ => 0, [], [], [], false⟩

/-- A load has ended, with a list or without one. -/
def loaded (entries : List Entry) (c : Chronicle) : Chronicle :=
  { c with listed := entries, recent := [], deleted := false }

def wiped (c : Chronicle) : Chronicle := { c.loaded [] with answers := [] }

/-- Notes an effect, in a call begun with the event of the number `asked`. -/
def tell (asked : Nat) (c : Chronicle) : Effect → Chronicle
  | .answered entry => { c with answers := (asked, entry) :: c.answers, recent := entry :: c.recent }
  | .fetched _ entries => c.loaded entries
  | .unfetched => c.loaded []
  | .deleted _ => { c with deleted := true }
  | .cleared => c.wiped
  | .nothing => c

/-- Which event has begun each call, after one more event. -/
def mark (c : Chronicle) : Event → Output → CallName → Nat
  | .begin name _, .sent _ => Function.update c.begun name c.events
  | _, _ => c.begun

/-- The number of the event that has begun the call that an event is about. -/
def asked (c : Chronicle) (e : Event) : Nat := e.name?.elim 0 c.begun

/-- What is still noted in the next world. A conversation of another generation has been wiped. -/
def carried (w w' : World) (c : Chronicle) : Chronicle :=
  if w'.client.conversation.generation = w.client.conversation.generation then c else c.wiped

def next (w : World) (e : Event) (o : Output) (w' : World) (c : Chronicle) : Chronicle :=
  { (c.carried w w').tell (c.asked e) (e.effect w o) with
    events := c.events + 1
    begun := c.mark e o }

@[simp] theorem mark_begin (c : Chronicle) (n : CallName) (call : Call) (request : Http.Request) :
    c.mark (.begin n call) (.sent request) n = c.events := by
  simp [mark]

@[simp] theorem next_begun (w : World) (e : Event) (o : Output) (w' : World) (c : Chronicle) :
    (c.next w e o w').begun = c.mark e o := rfl

end Chronicle

namespace World

def chronicleFrom (c : Chronicle) (w : World) : List Event → Chronicle
  | [] => c
  | e :: es => (w.step e).2.chronicleFrom (c.next w e (w.step e).1 (w.step e).2) es

/-- What is noted along a run. -/
def chronicle (w : World) (es : List Event) : Chronicle := w.chronicleFrom .start es

end World

/-! What is written down in the conversation itself, whoever looks at it. -/

/-- What is left of what is written down, once the conversation belongs to a session. -/
def Conversation.heldIn (g : Nat) (c : Conversation) : Conversation :=
  if g = c.generation then c.ledger else c.ledger.reset

namespace Client

theorem sync_held (c : Client) :
    c.sync.conversation.ledger = c.conversation.heldIn c.sync.conversation.generation := by
  rcases c.sync_conversation with ⟨_, he⟩ | ⟨hg, _, he⟩
  · rw [he, Conversation.heldIn, if_pos rfl]
  · rw [he]
    exact (if_neg (Ne.symm hg)).symm

theorem Writes.held {c d : Client} (h : c.Writes f d.conversation) :
    d.conversation.ledger = f.apply (c.conversation.heldIn d.conversation.generation) := by
  generalize d.conversation = e at h
  cases h with
  | idle => exact (if_pos rfl).symm
  | made hg hf => rw [modify_conversation, hf, Effect.ledger_apply, hg, sync_held]

theorem Begins.ticket_prompt {c c' : Client} (h : Begins now c call (.waiting request (.prompt t)) c') :
    c.prompt? call = some t.asked.prompt := by
  cases h with
  | asked hp => exact hp

end Client

namespace World

/-- An answer comes to a prompt that the slot has waited for, and leaves the slot waiting for nothing. -/
theorem Steps.answers {w w' : World} (h : Steps w e o w') (hf : e.effect w o = .answered entry) :
    ∃ n reply t, e = .reply n reply ∧ w.inFlight n = some (.prompt t) ∧
      w.client.conversation.current.awaits t.request = true ∧ entry.prompt = t.asked.prompt ∧
      ∀ r, w'.client.conversation.current.awaits r = false := by
  cases h with
  | @finished name ticket reply outcome c hk hf' =>
    cases hf' with
    | answered hg hs ha =>
      cases hf
      exact ⟨name, reply, _, rfl, hk, Client.sync_awaits hs ▸ hs, rfl, fun _ => rfl⟩
    | fetched _ hd => simp [Event.effect, hk, hd] at hf
    | unfetched _ hd =>
      simp only [Event.effect, (hd ▸ fetchedOf_fetches _).not_dropped, ↓reduceIte] at hf
      cases hf
    | _ => cases hf
  | _ => cases hf

end World

namespace Chronicle

/-- A chronicle tells what a conversation has written down. -/
structure Tells (c : Chronicle) (d : Conversation) : Prop where
  inserted : d.inserted.map (·.2) = c.answers.map (·.2)
  history : ∃ own rest, d.history = own ++ rest ∧ own.Sublist (c.answers.map (·.2)) ∧
    rest.Sublist c.listed ∧ (c.deleted = false → c.recent <+: own ∧ rest = c.listed)

variable {c : Chronicle} {d : Conversation}

theorem wiped_tells (c : Chronicle) (d : Conversation) : c.wiped.Tells d.reset where
  inserted := rfl
  history := ⟨[], [], rfl, .slnil, .slnil, fun _ => ⟨List.prefix_rfl, rfl⟩⟩

theorem Tells.answered (h : c.Tells d) (k : Nat) (entry : Entry) :
    (c.tell k (.answered entry)).Tells (d.insert entry) where
  inserted := congrArg (entry :: ·) h.inserted
  history := by
    obtain ⟨own, rest, he, ho, hr, hw⟩ := h.history
    refine ⟨entry :: own, rest, ?_, ho.cons_cons entry, hr, fun hd => ?_⟩
    · exact congrArg (entry :: ·) he
    · obtain ⟨hrecent, hrest⟩ := hw hd
      exact ⟨(List.prefix_cons_inj entry).mpr hrecent, hrest⟩

theorem Tells.deleted (h : c.Tells d) (k : Nat) (entry : Entry) :
    (c.tell k (.deleted entry)).Tells { d with history := d.history.erase entry } where
  inserted := h.inserted
  history := by
    obtain ⟨own, rest, he, ho, hr, _⟩ := h.history
    by_cases hm : entry ∈ own
    · exact ⟨own.erase entry, rest, by rw [he, List.erase_append_left _ hm],
        List.erase_sublist.trans ho, hr, by simp [tell]⟩
    · exact ⟨own, rest.erase entry, by rw [he, List.erase_append_right _ hm],
        ho, List.erase_sublist.trans hr, by simp [tell]⟩

/-- A load leaves of the session's own entries some, and puts them before its list. -/
theorem Tells.fetched (h : c.Tells d) (mark : Nat) (entries : List Entry) :
    (c.loaded entries).Tells (d.setFetched mark entries) where
  inserted := h.inserted
  history := by
    refine ⟨d.kept mark entries, entries, rfl, ?_, List.Sublist.refl _, fun _ => ⟨List.nil_prefix, rfl⟩⟩
    rw [Conversation.kept_eq]
    have hs : (d.answersFrom mark).Sublist (d.inserted.map (·.2)) := List.filter_sublist.map _
    exact List.filter_sublist.trans (h.inserted ▸ hs)

theorem Tells.unfetched (h : c.Tells d) : (c.loaded []).Tells d.dropHistory where
  inserted := h.inserted
  history := ⟨[], [], rfl, List.nil_sublist _, .slnil, fun _ => ⟨List.prefix_rfl, rfl⟩⟩

theorem Tells.tell (h : c.Tells d) (k : Nat) (f : Effect) : (c.tell k f).Tells (f.apply d) := by
  cases f with
  | nothing => exact h
  | answered entry => exact h.answered k entry
  | fetched mark entries => exact h.fetched mark entries
  | unfetched => exact h.unfetched
  | deleted entry => exact h.deleted k entry
  | cleared => exact c.wiped_tells d

theorem Tells.carried {w : World} (h : c.Tells w.client.conversation) (w' : World) :
    (c.carried w w').Tells
      (w.client.conversation.heldIn w'.client.conversation.generation) := by
  unfold Chronicle.carried Conversation.heldIn
  split
  · exact ⟨h.inserted, h.history⟩
  · exact c.wiped_tells _

theorem Tells.next {w w' : World} (h : c.Tells w.client.conversation)
    (hs : World.Steps w e o w') : (c.next w e o w').Tells w'.client.conversation := by
  have hw := (h.carried w').tell (c.asked e) (e.effect w o)
  rw [← hs.writes.held] at hw
  exact ⟨hw.inserted, hw.history⟩

theorem carried_answers (w w' : World) (c : Chronicle) :
    (c.carried w w').answers.Sublist c.answers := by
  unfold Chronicle.carried
  split
  · exact List.Sublist.refl _
  · exact List.nil_sublist _

theorem tell_answers (k : Nat) (f : Effect) (c : Chronicle) :
    (c.tell k f).answers.Sublist (f.answered?.toList.map (k, ·) ++ c.answers) := by
  cases f with
  | cleared => exact List.nil_sublist _
  | _ => exact List.Sublist.refl _

theorem next_answers (w : World) (e : Event) (o : Output) (w' : World) (c : Chronicle) :
    (c.next w e o w').answers.Sublist
      ((e.effect w o).answered?.toList.map (c.asked e, ·) ++ c.answers) :=
  (tell_answers ..).trans ((List.Sublist.refl _).append (c.carried_answers w w'))

theorem mem_next {w w' : World} (h : p ∈ (c.next w e o w').answers) :
    p ∈ c.answers ∨ ∃ entry, e.effect w o = .answered entry ∧ p = (c.asked e, entry) := by
  rcases List.mem_append.mp ((c.next_answers w e o w').subset h) with hp | hp
  · cases hf : e.effect w o with
    | answered entry =>
      rw [hf] at hp
      exact .inr ⟨entry, rfl, by simpa [Effect.answered?] using hp⟩
    | _ => simp [hf, Effect.answered?] at hp
  · exact .inl hp

end Chronicle

namespace World

/-- A run has begun, with the event of a number, a call that asks a question. -/
def Asks (u : World) (es : List Event) (k : Nat) (text : String) : Prop :=
  ∃ n call, es[k]? = some (.begin n call) ∧ (u.after (es.take k)).client.prompt? call = some text

variable {u : World}

theorem Asks.lt (h : Asks u es k text) : k < es.length := by
  obtain ⟨n, call, hk, _⟩ := h
  exact (List.getElem?_eq_some_iff.mp hk).1

theorem Asks.append (h : Asks u es k text) (es' : List Event) : Asks u (es ++ es') k text := by
  have hlt := h.lt
  obtain ⟨n, call, hk, hp⟩ := h
  refine ⟨n, call, ?_, ?_⟩
  · rw [List.getElem?_append_left hlt, hk]
  · rwa [List.take_append_of_le_length (Nat.le_of_lt hlt)]

theorem asks_last (n : CallName) (hp : (u.after es).client.prompt? call = some text) :
    Asks u (es ++ [.begin n call]) es.length text :=
  ⟨n, call, by simp, by simpa using hp⟩

/-- A prompt in flight is the one that was there before, begun when it was, or it is begun just now. -/
theorem Steps.asking {w w' : World} (h : Steps w e o w') (c : Chronicle)
    (ht : w'.inFlight n = some (.prompt t)) :
    w.inFlight n = some (.prompt t) ∧ c.mark e o n = c.begun n ∨
    ∃ call request, e = .begin n call ∧ o = .sent request ∧
      Begins w.now w.client call (.waiting request (.prompt t)) w'.client := by
  cases h with
  | @sent call request ticket d name hb =>
    by_cases hn : n = name
    · subst hn
      simp only [keep_inFlight, Function.update_self, Option.some.injEq] at ht
      subst ht
      exact .inr ⟨call, request, rfl, rfl, hb⟩
    · exact .inl (by simpa [hn, Chronicle.mark] using ht)
  | @finished name | @abandoned name =>
    by_cases hn : n = name
    · simp [hn] at ht
    · exact .inl ⟨by simpa [hn] using ht, rfl⟩
  | _ => exact .inl ⟨ht, rfl⟩

/-- A chronicle is right about a run: also about the prompts in flight, of which the one that the slot
waits for has been asked after all that are answered. -/
structure Told (u : World) (es : List Event) (c : Chronicle) : Prop where
  events : c.events = es.length
  tells : c.Tells (u.after es).client.conversation
  ordered : c.answers.Pairwise fun p q => q.1 < p.1
  asked : ∀ p ∈ c.answers, Asks u es p.1 p.2.prompt
  begun : ∀ n t, (u.after es).inFlight n = some (.prompt t) → Asks u es (c.begun n) t.asked.prompt
  shown : ∀ n t, (u.after es).inFlight n = some (.prompt t) →
    (u.after es).client.conversation.current.awaits t.request = true →
    ∀ p ∈ c.answers, p.1 < c.begun n

theorem Told.start (tokens : Token.Store) (now : Time.Instant) :
    Told (.start tokens now) [] .start where
  events := rfl
  tells := ⟨rfl, [], [], rfl, .slnil, .slnil, fun _ => ⟨List.prefix_rfl, rfl⟩⟩
  ordered := .nil
  asked := by simp [Chronicle.start]
  begun := by simp [after, World.start]
  shown := by simp [after, World.start]

/-- The answers noted after one more event, if it is an answer: the new one has been asked for last. -/
theorem Told.answered {w' : World} (h : Told u es c) (hs : Steps (u.after es) e o w')
    (hf : e.effect (u.after es) o = .answered entry) :
    Asks u es (c.asked e) entry.prompt ∧ (∀ p ∈ c.answers, p.1 < c.asked e) ∧
      ∀ r, w'.client.conversation.current.awaits r = false := by
  obtain ⟨n, reply, t, rfl, hk, ha, hp, hr⟩ := hs.answers hf
  exact ⟨hp ▸ h.begun n t hk, h.shown n t hk ha, hr⟩

theorem Steps.after_snoc {w' : World} (h : Steps (u.after es) e o w') :
    u.after (es ++ [e]) = w' := by
  rw [after_append, after, h.step_eq, after]

theorem Told.step {w' : World} (h : Told u es c) (hc : Coherent (u.after es))
    (hs : Steps (u.after es) e o w') : Told u (es ++ [e]) (c.next (u.after es) e o w') where
  events := by
    rw [List.length_append, ← h.events]
    rfl
  tells := by
    rw [hs.after_snoc]
    exact h.tells.next hs
  ordered := by
    refine List.Pairwise.sublist (c.next_answers ..) ?_
    cases hf : e.effect (u.after es) o with
    | answered entry => exact List.pairwise_cons.mpr ⟨(h.answered hs hf).2.1, h.ordered⟩
    | _ => exact h.ordered
  asked p hp := by
    rcases Chronicle.mem_next hp with hq | ⟨entry, hf, rfl⟩
    · exact (h.asked p hq).append [e]
    · exact (h.answered hs hf).1.append [e]
  begun n t ht := by
    rw [hs.after_snoc] at ht
    rw [Chronicle.next_begun]
    rcases hs.asking c ht with ⟨hk, hm⟩ | ⟨call, request, rfl, rfl, hb⟩
    · rw [hm]
      exact (h.begun n t hk).append [e]
    · rw [Chronicle.mark_begin, h.events]
      exact asks_last n hb.ticket_prompt
  shown n t ht ha p hp := by
    rw [hs.after_snoc] at ht ha
    rw [Chronicle.next_begun]
    rcases Chronicle.mem_next hp with hq | ⟨entry, hf, _⟩
    · rcases hs.asking c ht with ⟨hk, hm⟩ | ⟨call, request, rfl, rfl, hb⟩
      · rw [hm]
        -- The slot has waited for this prompt before: a request just sent has a new number.
        rcases hs.changes.awaits ha with ⟨hb, _⟩ | ⟨hr, _, _⟩
        · exact h.shown n t hk hb p hq
        · exact absurd hr (Nat.ne_of_lt (hc.requests n t hk))
      · -- All that is answered has been asked for earlier than now.
        rw [Chronicle.mark_begin, h.events]
        exact (h.asked p hq).lt
    · rw [(h.answered hs hf).2.2] at ha
      cases ha

theorem Told.run (h : Told u es c) (hu : Reachable u) (es' : List Event) :
    Told u (es ++ es') ((u.after es).chronicleFrom c es') := by
  induction es' generalizing es c with
  | nil => simpa [chronicleFrom] using h
  | cons e es' ih =>
    have hs := step_steps e (u.after es)
    have hrun := ih (h.step (hu.after es).coherent hs)
    rwa [hs.after_snoc, List.append_assoc, List.singleton_append] at hrun

theorem chronicleFrom_snoc (c : Chronicle) (w : World) (es : List Event) (e : Event) :
    w.chronicleFrom c (es ++ [e]) =
      (w.chronicleFrom c es).next (w.after es) e ((w.after es).step e).1 ((w.after es).step e).2 := by
  induction es generalizing c w with
  | nil => rfl
  | cons e' es ih => exact ih ..

/-- Whenever somebody looks, the history has two parts, and nothing ever sorts it. The first part is some of
the answers that have come since the conversation was wiped, and stands in falling order of the moments in
which their prompts were asked, in whatever order the answers came. The second part is some of the list
that the last load has brought, in the order in which it was brought; there is none if the conversation has
been cleared since, or the load has failed. What has not been deleted is all there: the list, and in front
the answers that have come after it. -/
theorem history_newest_first (tokens : Token.Store) (now : Time.Instant) (es : List Event) :
    let u := start tokens now
    let c := u.chronicle (es ++ [.look])
    ∃ (own : List (Nat × Entry)) (rest : List Entry),
      (u.after es).client.history = own.map (·.2) ++ rest ∧
      own.Sublist c.answers ∧ own.Pairwise (fun p q => q.1 < p.1) ∧
      (∀ p ∈ own, Asks u es p.1 p.2.prompt) ∧ rest.Sublist c.listed ∧
      (c.deleted = false → c.recent <+: own.map (·.2) ∧ rest = c.listed) := by
  intro u c
  have hu : Reachable u := .start ..
  have hbefore : Told u es (u.chronicle es) := (Told.start tokens now).run hu es
  have hlooks := hbefore.step (hu.after es).coherent (step_steps .look (u.after es))
  have hc : c = (u.chronicle es).next (u.after es) .look _ _ := chronicleFrom_snoc ..
  rw [← hc] at hlooks
  obtain ⟨own, rest, hh, ho, hr, hw⟩ := hlooks.tells.history
  obtain ⟨own, hown, rfl⟩ := List.sublist_map_iff.mp ho
  refine ⟨own, rest, ?_, hown, hlooks.ordered.sublist hown, fun p hp => ?_, hr, hw⟩
  · rwa [after_append] at hh
  · rcases Chronicle.mem_next (hc ▸ hown.subset hp) with hq | ⟨entry, hf, _⟩
    · exact hbefore.asked p hq
    · cases hf

/-- A load is begun before the first answer comes, and ends after it. The second prompt goes unanswered. -/
example :
    let es := [.begin 0 (.send "Why?"), .begin 1 .load, .reply 0 (.ok ⟨200, "Because."⟩),
      .begin 2 (.send "Who?"), .begin 0 (.send "Since when?"),
      .reply 1 (.ok ⟨200, "[[\"How?\", \"So.\", \"1970-01-01T00:00:00Z\"]]"⟩),
      .reply 0 (.ok ⟨200, "Always."⟩), .reply 2 (.ok ⟨200, "Me."⟩)]
    (signedIn.chronicle es).answers =
        [(4, ⟨"Since when?", "Always.", ⟨0, 0⟩⟩), (0, ⟨"Why?", "Because.", ⟨0, 0⟩⟩)] ∧
      (signedIn.after es).client.history =
        [⟨"Since when?", "Always.", ⟨0, 0⟩⟩, ⟨"Why?", "Because.", ⟨0, 0⟩⟩, ⟨"How?", "So.", ⟨0, 0⟩⟩] := by
  decide +kernel

end World

end ChatClient
