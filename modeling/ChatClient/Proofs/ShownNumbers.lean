import ChatClient.Proofs.HistoryLines
import ChatClient.Proofs.ListedEntries
import ChatClient.Proofs.Loading
import ChatClient.Proofs.Settling
import ChatClient.Proofs.Texts

/-!
The numbers that a list shows, given back to the command that selects. Each of them reads as the place that it
was shown for, and leads to the entry there. What is selected takes the slot from any prompt that is waited
for, whatever the backend answers.
-/
namespace ChatClient

namespace Text

/-- A text that stays in one piece when a line is cut into words. -/
structure IsWord (s : String) : Prop where
  nonempty : s.toList ≠ []
  noBlank : ∀ c ∈ s.toList, isBlankChar c = false

theorem isWord_toString (n : Nat) : IsWord (toString n) := by
  constructor
  · rw [toList_toString]
    exact Nat.toDigits_ne_nil
  · intro c hc
    rw [toList_toString] at hc
    exact isBlankChar_of_isDigit (isDigit_toDigits n c hc)

theorem IsWord.words (h : IsWord s) : words s = [s] := by
  have hw := words_noBlank h.nonempty h.noBlank
  rwa [String.ofList_toList] at hw

theorem words_two (hs : IsWord s) (ht : IsWord t) : words (s ++ " " ++ t) = [s, t] := by
  have hspace : isBlankChar ' ' = true := by decide
  have hsplit : s ++ " " ++ t = String.ofList (s.toList ++ ' ' :: t.toList) := by
    apply String.toList_inj.mp
    simp
  rw [hsplit, words_append_blank hspace, String.ofList_toList, String.ofList_toList, hs.words, ht.words]
  rfl

/-- A number reads as what it was written for. -/
theorem number?_toString (h : n < most) : number? most (toString n) = some n := by
  have hread : digits? 10 (Nat.toDigits 10 n) = some n := by
    rw [digits?, List.isEmpty_eq_false_iff.mpr Nat.toDigits_ne_nil]
    exact digitsFrom?_toDigits n
  have hplus : ∀ cs, Nat.toDigits 10 n ≠ '+' :: cs := by
    intro cs hcs
    have hmem : '+' ∈ Nat.toDigits 10 n := hcs ▸ List.mem_cons_self
    exact absurd (isDigit_toDigits n _ hmem) (by decide)
  rw [number?, toList_toString]
  split
  · rename_i cs hcs
    exact absurd hcs (hplus cs)
  · simp [hread, h]

end Text

namespace Client

/-- The end of a prompt for which the slot does not wait leaves the slot and the history as they are. -/
theorem Finishes.passed {c d : Client} (h : Finishes c (.prompt t) reply outcome d)
    (hp : c.sync.conversation.current.awaits t.request = false) :
    outcome = .entry (.error (if c.session.generation = t.generation then .superseded else .cancelled)) ∧
      d.current = c.current ∧ d.history = c.history := by
  cases h with
  | cancelled hg =>
    have hreleased : c.sync.conversation.release t.request = c.sync.conversation := by
      rw [Conversation.release, hp, if_neg Bool.false_ne_true]
    have hsame : c.modify (·.release t.request) = c.sync := by
      rw [modify, hreleased]
    rw [if_neg hg, hsame, current, history, sync_sync]
    exact ⟨rfl, rfl, rfl⟩
  | superseded hg =>
    rw [if_pos hg, current, history, sync_logoutIf c.sync_sync, logoutIf_conversation]
    exact ⟨rfl, rfl, rfl⟩
  | answered _ hs | failed _ hs =>
    rw [hp] at hs
    cases hs

end Client

namespace World

/-- A prompt has the request, and the slot does not wait for it. -/
structure Passed (r : RequestId) (w : World) : Prop where
  sent : r < w.client.nextRequest
  displaced : w.client.conversation.current.awaits r = false

theorem Passed.step {w w' : World} (h : Passed r w) (hs : Steps w e o w') : Passed r w' where
  sent := Nat.lt_of_lt_of_le h.sent hs.later.request
  displaced := by
    -- What is waited for anew is a later request.
    by_contra ha
    rw [Bool.not_eq_false] at ha
    rcases hs.changes.awaits ha with ⟨hb, -⟩ | ⟨hr, -⟩
    · rw [h.displaced] at hb
      cases hb
    · exact Nat.ne_of_lt h.sent hr

theorem Passed.after {w : World} (h : Passed r w) (es : List Event) : Passed r (w.after es) := by
  induction es generalizing w with
  | nil => exact h
  | cons e es ih => exact ih (h.step (step_steps e w))

/-- Whatever happens before its reply comes, and whatever the reply is: the prompt has been superseded then, or
cancelled if its session has ended, and leaves the slot and the history as they are. -/
def Overtaken (n : CallName) (t : PromptTicket) (w : World) : Prop :=
  ∀ (es : List Event) (reply : Http.Reply), (∀ e ∈ es, e.name? ≠ some n) →
    let v := w.after es
    let error : SendError := if v.client.session.generation = t.generation then .superseded else .cancelled
    ∃ v', v.step (.reply n reply) = (.ended (.entry (.error error)), v') ∧
      v'.client.current = v.client.current ∧ v'.client.history = v.client.history

theorem Passed.overtaken {w : World} (h : Passed t.request w) (hk : w.inFlight n = some (.prompt t)) :
    w.Overtaken n t := by
  intro es reply hn v error
  have hkept : v.inFlight n = some (.prompt t) := (after_keeps hn).trans hk
  have hpassed : v.client.sync.conversation.current.awaits t.request = false := by
    by_contra ha
    rw [Bool.not_eq_false] at ha
    rw [Client.sync_awaits ha, (h.after es).displaced] at ha
    cases ha
  obtain ⟨outcome, c, hstep, hf⟩ := step_reply hkept reply
  obtain ⟨rfl, hslot, hhistory⟩ := hf.passed hpassed
  exact ⟨_, hstep, hslot, hhistory⟩

end World

namespace Chat

/-- A command and its argument, written with a space between them. -/
theorem command?_written {name argument : String} (hn : Text.IsWord name) (ha : Text.IsWord argument) :
    command? (":" ++ name ++ " " ++ argument) = some (name, some argument) := by
  obtain ⟨front, last, hlast⟩ : ∃ front last, argument.toList = front ++ [last] := by
    refine ⟨argument.toList.dropLast, argument.toList.getLast ha.nonempty, ?_⟩
    exact (List.dropLast_concat_getLast ha.nonempty).symm
  have hcolon : Text.isBlankChar ':' = false := by decide
  have hend : Text.isBlankChar last = false := ha.noBlank last (by simp [hlast])
  have hchars : (":" ++ name ++ " " ++ argument).toList = ':' :: (name.toList ++ ' ' :: front ++ [last]) := by
    simp [hlast]
  have htrim : Text.trim (":" ++ name ++ " " ++ argument) = ":" ++ name ++ " " ++ argument := by
    apply String.toList_inj.mp
    rw [Text.trim, hchars, Text.trimChars_between hcolon hend, String.toList_ofList]
  have hrest : String.ofList (name.toList ++ ' ' :: front ++ [last]) = name ++ " " ++ argument := by
    apply String.toList_inj.mp
    simp [hlast]
  have hlead : ":".toList = [':'] := rfl
  rw [command?, htrim, Text.afterLead?, hchars, hlead]
  simp only [List.isPrefixOf, beq_self_eq_true, Bool.and_self, if_true, List.length_singleton,
    List.drop_succ_cons, List.drop_zero, Option.map_some]
  rw [hrest, commandWords, Text.words_two hn ha]

theorem isWord_select : Text.IsWord "select" := by
  constructor
  · simp
  · intro c hc
    simp at hc
    rcases hc with rfl | rfl | rfl | rfl | rfl | rfl <;> rfl

/-- The chat shows an entry of the history, and nothing but the slot has changed. -/
structure Shows (entry : Entry) (chat chat' : Chat σ) : Prop where
  slot : chat'.client.current = .resolved entry .history
  history : chat'.client.history = chat.client.history
  session : chat'.client.session = chat.client.session
  network : chat'.network = chat.network

theorem shows_modify (entry : Entry) (chat : Chat σ) :
    chat.Shows entry { chat with client := chat.client.modify (·.publish (.resolved entry .history)) } := by
  have hs : (chat.client.modify (·.publish (.resolved entry .history))).sync =
      chat.client.modify (·.publish (.resolved entry .history)) := Client.sync_modify rfl
  refine ⟨?_, ?_, rfl, rfl⟩
  · rw [Client.current, hs]
    rfl
  · rw [Client.history, hs]
    rfl

/-- What is shown has taken the slot from all prompts in flight. -/
theorem overtaken_modify {w : World} {c : Client} (entry : Entry) (hr : World.Reachable w) (hc : w.client = c)
    (hk : w.inFlight n = some (.prompt t)) :
    (w.withClient (c.modify (·.publish (.resolved entry .history)))).Overtaken n t := by
  subst hc
  have hpassed : World.Passed t.request (w.withClient (w.client.modify (·.publish (.resolved entry .history)))) :=
    ⟨hr.coherent.requests n t hk, rfl⟩
  exact hpassed.overtaken hk

/-- However a number is written, it selects the entry at its place. -/
theorem selected_by_number (answer : Network σ) (now : Time.Instant) {chat : Chat σ}
    (hw : command? text = some ("select", some number)) (hn : Text.number? Text.limit64 number = some n)
    (h1 : 1 ≤ n) (he : chat.client.history[n - 1]? = some entry) :
    ∃ chat', chat.handleLine answer now text =
        (.continue, line (Screen.slot (.resolved entry .history)), chat') ∧
      chat.Shows entry chat' ∧
      ∀ (w : World) name ticket, World.Reachable w → w.client = chat.client →
        w.inFlight name = some (.prompt ticket) → (w.withClient chat'.client).Overtaken name ticket := by
  have hfound : chat.numbered? number = some entry := by rw [numbered?_of_number hn h1, he]
  refine ⟨_, (handleLine_command answer now chat hw).trans ?_, chat.shows_modify entry, ?_⟩
  · rw [command, select_found hfound]
  · intro w name ticket hr hc hk
    exact overtaken_modify entry hr hc hk

/-- What leads to no entry changes nothing. -/
theorem selected_by_nothing (answer : Network σ) (now : Time.Instant) {chat : Chat σ}
    (hw : command? text = some ("select", some argument)) (hno : chat.numbered? argument = none) :
    ∃ chat', chat.handleLine answer now text = (.continue, noEntry argument, chat') ∧
      chat.KeepsAllButHistory chat' ∧ chat'.client.history = chat.client.history := by
  refine ⟨_, (handleLine_command answer now chat hw).trans ?_, keepsAllButHistory_looked argument chat, ?_⟩
  · rw [command, select_missing hno]
  · simp only [Client.history, chat.looked_sync argument]

/-- The numbers that are shown are the numbers that are taken. The list is made of rows, the row of each entry
starts with a number, and with it the entry is selected: it is shown then, nothing but the slot is different, and
all prompts in flight have been overtaken. (A place in a list is always below the limit.) An argument that is not
the number of an entry changes nothing. -/
theorem shown_number_selects (answer : Network σ) (now : Time.Instant) (chat : Chat σ) :
    (∀ i entry, chat.client.history[i]? = some entry → i + 1 < Text.limit64 →
      let number := toString (i + 1)
      Screen.history chat.client.history = String.intercalate "\n" (Screen.rows chat.client.history) ∧
      (∃ rest, (Screen.rows chat.client.history)[i]? = some (Text.padLeft 3 ' ' number ++ ". " ++ rest)) ∧
      ∃ chat', chat.handleLine answer now (":select " ++ number) =
          (.continue, line (Screen.slot (.resolved entry .history)), chat') ∧
        chat.Shows entry chat' ∧
        ∀ (w : World) name ticket, World.Reachable w → w.client = chat.client →
          w.inFlight name = some (.prompt ticket) → (w.withClient chat'.client).Overtaken name ticket) ∧
    ∀ text argument, command? text = some ("select", some argument) →
      (∀ n, Text.number? Text.limit64 argument = some n → n = 0 ∨ chat.client.history.length < n) →
      ∃ chat', chat.handleLine answer now text = (.continue, noEntry argument, chat') ∧
        chat.KeepsAllButHistory chat' ∧ chat'.client.history = chat.client.history := by
  constructor
  · intro i entry hentry hlimit number
    have hrow : (Screen.rows chat.client.history)[i]? = some (Screen.historyLine (i + 1) entry) := by
      rw [Screen.rows_getElem?, hentry, Option.map_some]
    have hlead : ":select " = ":" ++ "select" ++ " " := by simp
    have hw : command? (":select " ++ number) = some ("select", some number) := by
      rw [hlead]
      exact command?_written isWord_select (Text.isWord_toString (i + 1))
    have hn : Text.number? Text.limit64 number = some (i + 1) := Text.number?_toString hlimit
    have hplace : chat.client.history[i + 1 - 1]? = some entry := by rw [Nat.add_sub_cancel, hentry]
    have hne : chat.client.history ≠ [] := List.ne_nil_of_mem (List.mem_of_getElem? hentry)
    refine ⟨Screen.history_eq hne, ⟨_, hrow.trans (congrArg some (Screen.historyLine_eq (i + 1) entry))⟩, ?_⟩
    exact selected_by_number answer now hw hn (Nat.le_add_left 1 i) hplace
  · intro text argument hw hno
    exact selected_by_nothing answer now hw (numbered?_eq_none hno)

/-- Of two rows the second is selected while a prompt is in flight. There is no third. -/
theorem second_row_selects :
    let w := World.signedIn.after [.begin 0 (.send "Why?"), .reply 0 (.ok ⟨200, "Because."⟩),
      .begin 0 (.send "How?"), .reply 0 (.ok ⟨200, "So."⟩)]
    let v := (w.step (.begin 1 (.send "Since when?"))).2
    let chat : Chat Unit := ⟨v.client, ()⟩
    let answer := replying (.ok ⟨200, "[]"⟩)
    chat.client.current.isPending = true ∧
      (∃ chat', chat.handleLine answer ⟨0, 0⟩ (":select " ++ toString (1 + 1)) =
          (.continue, line (Screen.slot (.resolved ⟨"Why?", "Because.", ⟨0, 0⟩⟩ .history)), chat') ∧
        (((v.withClient chat'.client).after [.newQuestion]).step (.reply 1 (.ok ⟨200, "Ever since."⟩))).1 =
          .ended (.entry (.error .superseded))) ∧
      ∃ chat', chat.handleLine answer ⟨0, 0⟩ ":select 3" = (.continue, noEntry "3", chat') ∧
        chat'.client.current.isPending = true := by
  intro w v chat answer
  have hp : chat.client.current.isPending = true := by decide +kernel
  have hentry : chat.client.history[1]? = some ⟨"Why?", "Because.", ⟨0, 0⟩⟩ := by decide +kernel
  have hlimit : 1 + 1 < Text.limit64 := by decide +kernel
  have hthird : command? ":select 3" = some ("select", some "3") := by decide +kernel
  have hbeyond : ∀ n, Text.number? Text.limit64 "3" = some n → n = 0 ∨ chat.client.history.length < n := by
    intro n hn
    have hthree : Text.number? Text.limit64 "3" = some 3 := by decide +kernel
    obtain rfl := Option.some.inj (hthree.symm.trans hn)
    exact .inr (by decide +kernel)
  have hr : World.Reachable v := (World.Reachable.after (.start ..) _).step _
  have hprompt : w.client.prompt? (.send "Since when?") = some "Since when?" := rfl
  obtain ⟨request, hsent⟩ := World.sent_of_usable 1 hprompt (by decide +kernel) (by decide +kernel)
  obtain ⟨ticket, -, hwaits⟩ : ∃ t : PromptTicket, t.asked = .asked "Since when?" w.now ∧ World.Waits 1 t true v :=
    World.waits_of_sent hprompt hsent
  -- No more of the run is needed, so none is looked at again.
  clear_value v
  obtain ⟨hselects, hkeeps⟩ := shown_number_selects answer ⟨0, 0⟩ chat
  refine ⟨hp, ?_, ?_⟩
  · obtain ⟨-, -, chat', hline, hshows, hovertaken⟩ := hselects 1 ⟨"Why?", "Because.", ⟨0, 0⟩⟩ hentry hlimit
    have hquiet : ∀ e ∈ [Event.newQuestion], e.name? ≠ some 1 := by simp [Event.name?]
    obtain ⟨v', hstep, -⟩ :=
      hovertaken v 1 ticket hr rfl hwaits.kept [.newQuestion] (.ok ⟨200, "Ever since."⟩) hquiet
    have hkept (x : World) : (x.after [.newQuestion]).client.session = x.client.session := rfl
    have hg : ((v.withClient chat'.client).after [.newQuestion]).client.session.generation = ticket.generation := by
      rw [hkept, World.withClient_client, hshows.session]
      exact hwaits.session
    exact ⟨chat', hline, by rw [hstep, if_pos hg]⟩
  · obtain ⟨chat', hline, hkept, -⟩ := hkeeps ":select 3" "3" hthird hbeyond
    exact ⟨chat', hline, by rw [hkept.slot, hp]⟩

/-- A prompt waits in the slot, but its session has ended, when an entry is selected. The prompt has not been
superseded: it is cancelled. -/
theorem ended_session_cancels :
    let w := World.signedIn.after [.begin 0 (.send "Why?"), .reply 0 (.ok ⟨200, "Because."⟩)]
    let w' := w.after [.begin 1 (.send "How?"), .logout]
    let ticket : PromptTicket := ⟨w.client.session.generation, w.client.nextRequest, .asked "How?" w.now⟩
    let chat : Chat Unit := ⟨w'.client, ()⟩
    let chat' := (chat.handleLine (replying (.ok ⟨200, "[]"⟩)) ⟨0, 0⟩ ":select 1").2.2
    World.Reachable w' ∧ w'.inFlight 1 = some (.prompt ticket) ∧
      chat.client.current = .pending ticket.request ticket.asked ∧
      chat'.client.current = .resolved ⟨"Why?", "Because.", ⟨0, 0⟩⟩ .history ∧
      (chat'.client.finishSend ticket (.ok ⟨200, "So."⟩)).1 = .error .cancelled := by
  intro w w' ticket chat chat'
  have hb : Client.Begins w.now w.client (.send "How?")
      (.waiting (w.client.session.authorize (.postText "/client/use-api" "How?")) (.prompt ticket))
      (w.client.asking w.now "How?") := .asked rfl (by decide +kernel) (by decide +kernel)
  have hsent : w.step (.begin 1 (.send "How?")) =
      (.sent (w.client.session.authorize (.postText "/client/use-api" "How?")),
        (w.withClient (w.client.asking w.now "How?")).keep 1 (some (.prompt ticket))) :=
    (World.Steps.sent hb).step_eq
  have hflight : w'.inFlight 1 = some (.prompt ticket) := by
    simp only [w', World.after]
    rw [hsent]
    simp [World.step]
  exact ⟨.after (.after (.start ..) _) _, hflight, by decide +kernel, by decide +kernel, by decide +kernel⟩

end Chat

end ChatClient
