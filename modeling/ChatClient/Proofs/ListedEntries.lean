import ChatClient.Proofs.Lines
import ChatClient.Proofs.Numerals
import Mathlib.Data.List.Basic

/-!
Entries that are chosen by their number in the list. The number leads to an entry, and the entry is then
looked for in the history, where the first one that equals it is found. What is deleted is therefore not
always what stands at the number: of entries that are equal, it is the first one.
-/
namespace ChatClient

/-! ### The first of equal elements -/

theorem cons_eraseIdx_eq_iff {a : α} {l : List α} (h : l[i]? = some a) :
    l = a :: l.eraseIdx i ↔ ∀ k ≤ i, l[k]? = some a := by
  induction l generalizing i with
  | nil => simp at h
  | cons b l ih =>
    cases i with
    | zero => simp_all
    | succ i =>
      have hl : l[i]? = some a := by simpa using h
      rw [List.eraseIdx_cons_succ, List.cons.injEq]
      constructor
      · rintro ⟨rfl, ht⟩ k hk
        cases k with
        | zero => rfl
        | succ k => simpa using (ih hl).mp ht k (Nat.le_of_succ_le_succ hk)
      · intro hall
        have hb : b = a := by simpa using hall 0 (Nat.zero_le _)
        subst hb
        refine ⟨rfl, (ih hl).mpr fun k hk => ?_⟩
        simpa using hall (k + 1) (Nat.succ_le_succ hk)

/-- To take out the first element that equals the one at a place is to take out that one, exactly if all are
equal from the first to that one. -/
theorem erase_eq_eraseIdx_iff [DecidableEq α] {a : α} {l : List α} (h : l[i]? = some a) :
    l.erase a = l.eraseIdx i ↔ ∀ j k, j ≤ k → k ≤ i → l[j]? = some a → l[k]? = some a := by
  induction l generalizing i with
  | nil => simp at h
  | cons b l ih =>
    cases i with
    | zero =>
      have hb : b = a := by simpa using h
      subst hb
      refine iff_of_true (by simp) fun j k _ hk _ => ?_
      rw [Nat.le_zero.mp hk]
      rfl
    | succ i =>
      have hl : l[i]? = some a := by simpa using h
      rw [List.eraseIdx_cons_succ]
      by_cases hb : b = a
      · subst hb
        rw [List.erase_cons_head, cons_eraseIdx_eq_iff hl]
        constructor
        · intro hall j k _ hk _
          cases k with
          | zero => rfl
          | succ k => simpa using hall k (Nat.le_of_succ_le_succ hk)
        · intro hall k hk
          simpa using hall 0 (k + 1) (Nat.zero_le _) (Nat.succ_le_succ hk) rfl
      · rw [List.erase_cons_tail (by simpa using hb), List.cons.injEq, and_iff_right rfl, ih hl]
        constructor
        · intro hall j k hjk hk hj
          cases j with
          | zero => exact absurd (by simpa using hj) hb
          | succ j =>
            obtain ⟨k, rfl⟩ := Nat.exists_eq_add_one_of_ne_zero (Nat.ne_of_gt (Nat.lt_of_lt_of_le j.succ_pos hjk))
            simpa using hall j k (Nat.le_of_succ_le_succ hjk) (Nat.le_of_succ_le_succ hk) (by simpa using hj)
        · intro hall j k hjk hk hj
          simpa using hall (j + 1) (k + 1) (Nat.succ_le_succ hjk) (Nat.succ_le_succ hk) (by simpa using hj)

namespace Chat

/-- The entry that a number in the list stands for. -/
def numbered? (number : String) (chat : Chat σ) : Option Entry :=
  (position? number).bind fun i => chat.client.history[i]?

/-- The client that has been asked for the entry of a number. -/
def looked (number : String) (chat : Chat σ) : Client :=
  if (position? number).isSome then chat.client.sync else chat.client

theorem listed?_eq (number : String) (chat : Chat σ) :
    listed? number chat = (chat.numbered? number, { chat with client := chat.looked number }) := by
  cases hp : position? number <;> simp [listed?, numbered?, looked, hp]

theorem looked_session (number : String) (chat : Chat σ) :
    (chat.looked number).session = chat.client.session := by
  unfold looked
  split <;> rfl

theorem looked_sync (number : String) (chat : Chat σ) : (chat.looked number).sync = chat.client.sync := by
  unfold looked
  split <;> simp

/-- The entry of a number stands in the history, which is up to the session then. -/
theorem numbered?_eq_some {chat : Chat σ} (h : chat.numbered? number = some entry) :
    chat.looked number = chat.client.sync ∧ entry ∈ chat.client.history := by
  obtain ⟨i, hp, hi⟩ := Option.bind_eq_some_iff.mp h
  exact ⟨by simp [looked, hp], List.mem_of_getElem? hi⟩

theorem select_missing {chat : Chat σ} (h : chat.numbered? number = none) :
    select number chat = (noEntry number, { chat with client := chat.looked number }) := by
  simp [select, listed?_eq, h]

theorem select_found {chat : Chat σ} (h : chat.numbered? number = some entry) :
    select number chat = (line (Screen.slot (.resolved entry .history)),
      { chat with client := chat.client.modify (·.publish (.resolved entry .history)) }) := by
  obtain ⟨hlooked, hmem⟩ := numbered?_eq_some h
  have hm : entry ∈ chat.client.sync.conversation.history := hmem
  set chosen := chat.client.modify (·.publish (.resolved entry .history))
  have hs : chat.client.sync.select entry = (true, chosen) := by
    simp [Client.select, Conversation.select, hm, chosen, Client.modify]
  have hc : chosen.sync = chosen := Client.sync_modify rfl
  have hslot : chosen.current = .resolved entry .history := by
    rw [Client.current, hc]
    rfl
  simp [select, listed?_eq, h, hlooked, hs, hc, hslot]

theorem delete_missing {chat : Chat σ} (h : chat.numbered? number = none) :
    delete number chat = (noEntry number, { chat with client := chat.looked number }) := by
  simp [delete, listed?_eq, h]

theorem delete_found {chat : Chat σ} (h : chat.numbered? number = some entry) :
    delete number chat = (line ("Removed \"" ++ Screen.snippet entry.prompt ++ "\"."),
      { chat with client := chat.client.modify fun c => { c with history := c.history.erase entry } }) := by
  obtain ⟨hlooked, hmem⟩ := numbered?_eq_some h
  have hm : entry ∈ chat.client.sync.conversation.history := hmem
  simp [delete, listed?_eq, h, hlooked, Client.delete, Conversation.delete, hm, Client.modify]

/-- What a chat is, its history apart, is the same as in another: what the network has been sent, the session,
the slot, and whatever else the conversation holds. -/
structure KeepsAllButHistory (chat chat' : Chat σ) : Prop where
  network : chat'.network = chat.network
  session : chat'.client.session = chat.client.session
  slot : chat'.client.current = chat.client.current
  conversation : chat'.client.sync = chat.client.modify fun c => { c with history := chat'.client.history }

theorem keepsAllButHistory_looked (number : String) (chat : Chat σ) :
    KeepsAllButHistory chat { chat with client := chat.looked number } := by
  have hsync := chat.looked_sync number
  refine ⟨rfl, chat.looked_session number, ?_, ?_⟩
  · simp only [Client.current, hsync]
  · simp only [Client.history, hsync]
    rfl

theorem modify_history (f : List Entry → List Entry) (c : Client) :
    (c.modify fun d => { d with history := f d.history }).sync =
        (c.modify fun d => { d with history := f d.history }) ∧
      (c.modify fun d => { d with history := f d.history }).history = f c.history := by
  have hsync : (c.modify fun d => { d with history := f d.history }).sync =
      c.modify fun d => { d with history := f d.history } := Client.sync_modify rfl
  refine ⟨hsync, ?_⟩
  rw [Client.history, hsync]
  rfl

/-- A number that is read leads to the entry that stands at its place, counted from one. -/
theorem numbered?_of_number {chat : Chat σ} (hn : Text.number? Text.limit64 number = some n) (h1 : 1 ≤ n) :
    chat.numbered? number = chat.client.history[n - 1]? := by
  obtain ⟨i, rfl⟩ := Nat.exists_eq_add_one_of_ne_zero (Nat.ne_of_gt h1)
  simp [numbered?, position?, hn]

theorem numbered?_eq_none {chat : Chat σ}
    (h : ∀ n, Text.number? Text.limit64 number = some n → n = 0 ∨ chat.client.history.length < n) :
    chat.numbered? number = none := by
  cases hn : Text.number? Text.limit64 number with
  | none => simp [numbered?, position?, hn]
  | some n =>
    rcases h n hn with rfl | hlt
    · simp [numbered?, position?, hn]
    · rw [numbered?_of_number hn (Nat.one_le_of_lt hlt)]
      exact List.getElem?_eq_none (Nat.le_sub_one_of_lt hlt)

/-- Deleting by a number leaves the chat going on, and nothing else is different than the history. The entry
that stands at the number goes out of it if no equal one stands before it, or if all from there to it are
equal; otherwise another one goes. If the number leads to no entry nothing goes. -/
theorem deleted_by_number_iff (answer : Network σ) (now : Time.Instant) (chat : Chat σ)
    (hw : command? text = some ("delete", some number)) :
    let history := chat.client.history
    let chat' := (chat.handleLine answer now text).2.2
    (chat.handleLine answer now text).1 = .continue ∧ KeepsAllButHistory chat chat' ∧
      (∀ n entry, Text.number? Text.limit64 number = some n → 1 ≤ n → history[n - 1]? = some entry →
        chat'.client.history = history.erase entry ∧
          (chat'.client.history = history.eraseIdx (n - 1) ↔
            ∀ j k, j ≤ k → k ≤ n - 1 → history[j]? = some entry → history[k]? = some entry)) ∧
      ((∀ n, Text.number? Text.limit64 number = some n → n = 0 ∨ history.length < n) →
        chat'.client.history = history) := by
  intro history chat'
  have hline : chat.handleLine answer now text = (.continue, delete number chat) :=
    handleLine_command answer now chat hw
  have hchat : chat' = (delete number chat).2 := by simp only [chat', hline]
  rw [hchat, hline]
  refine ⟨rfl, ?_⟩
  cases he : chat.numbered? number with
  | none =>
    have hsame : ({ chat with client := chat.looked number } : Chat σ).client.history = history := by
      simp only [Client.history, chat.looked_sync number, history]
    rw [delete_missing he]
    refine ⟨keepsAllButHistory_looked number chat, ?_, fun _ => hsame⟩
    intro n entry hn h1 hentry
    rw [numbered?_of_number hn h1] at he
    cases he.symm.trans hentry
  | some entry =>
    obtain ⟨hsync, herased⟩ := modify_history (·.erase entry) chat.client
    rw [delete_found he]
    refine ⟨⟨rfl, rfl, ?_, ?_⟩, ?_, ?_⟩
    · simp only [Client.current, hsync]
      rfl
    · simp only [herased, hsync]
      rfl
    · intro n other hn h1 hother
      rw [numbered?_of_number hn h1, hother] at he
      obtain rfl := Option.some.inj he
      refine ⟨herased, ?_⟩
      simp only [herased]
      exact erase_eq_eraseIdx_iff hother
    · intro hno
      cases (numbered?_eq_none hno).symm.trans he

/-- The chat whose history has just been loaded. -/
def loaded (history : List Entry) : Chat Unit :=
  { signedIn with client := signedIn.client.modify (·.setFetched 0 history) }

/-- The backend has listed one record twice in a row. -/
theorem second_of_two_deleted :
    let why : Entry := ⟨"Why?", "Because.", ⟨0, 0⟩⟩
    let how : Entry := ⟨"How?", "So.", ⟨0, 0⟩⟩
    let chat := loaded [why, how, how, why]
    command? " :delete  +3 " = some ("delete", some "+3") ∧ Text.number? Text.limit64 "+3" = some 3 ∧
      (chat.handleLine (replying (.ok ⟨200, "[]"⟩)) ⟨0, 0⟩ " :delete  +3 ").2.2.client.history =
        chat.client.history.eraseIdx 2 := by
  intro why how chat
  have hw : command? " :delete  +3 " = some ("delete", some "+3") := by decide +kernel
  have hn : Text.number? Text.limit64 "+3" = some 3 := by decide +kernel
  have hh : chat.client.history = [why, how, how, why] := by decide +kernel
  have hentry : chat.client.history[3 - 1]? = some how := by rw [hh]; rfl
  obtain ⟨-, -, hdeleted, -⟩ := deleted_by_number_iff (replying (.ok ⟨200, "[]"⟩)) ⟨0, 0⟩ chat hw
  refine ⟨hw, hn, (hdeleted 3 how hn (by decide) hentry).2.mpr ?_⟩
  intro j k hjk hk hj
  have hcases : k = 0 ∨ k = 1 ∨ k = 2 := by omega
  rcases hcases with rfl | rfl | rfl
  · rwa [Nat.le_zero.mp hjk] at hj
  · rw [hh]; rfl
  · exact hentry

/-- The last line of the list is deleted, and the first one is gone. -/
theorem first_of_two_deleted :
    let why : Entry := ⟨"Why?", "Because.", ⟨0, 0⟩⟩
    let how : Entry := ⟨"How?", "So.", ⟨0, 0⟩⟩
    let chat := loaded [why, how, why]
    chat.client.history.eraseIdx 2 = [why, how] ∧
      (chat.handleLine (replying (.ok ⟨200, "[]"⟩)) ⟨0, 0⟩ ":delete 3").2.2.client.history = [how, why] := by
  decide +kernel

end Chat

end ChatClient
