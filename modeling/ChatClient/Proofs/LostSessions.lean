import ChatClient.Proofs.ListedEntries

/-!
Chats whose session ends. A line that sends a prompt ends the chat together with the session. A line that
lists the history does not: the chat goes on with nobody logged in, when the token has expired or the
backend refuses it.
-/
namespace ChatClient.Chat

open Client (Begins Finishes)

/-- Whether a load of the history costs the session: its token is no good any more, or the history has to be
asked for, and the backend refuses the token. -/
def LosesSession (answer : Network σ) (now : Time.Instant) (chat : Chat σ) (call : Call) : Prop :=
  chat.client.session.isLive now = false ∨
    (call = .ensure → chat.client.sync.conversation.loaded = false) ∧
      (answer chat.network (chat.client.session.authorize (.get "/client"))).1.refuses = true

theorem logoutIf_isLoggedIn (refused : Bool) {c : Client} (hin : c.isLoggedIn = true) :
    (c.logoutIf refused).isLoggedIn = true ↔ refused = false := by
  cases refused
  · exact iff_of_true hin rfl
  · exact iff_of_false (by simp [Client.logoutIf, Client.logout, Client.isLoggedIn]) (by simp)

/-- A session that is not usable, with somebody logged in, has expired. -/
theorem checked_isLoggedIn {c : Client} (hin : c.isLoggedIn = true) (hu : c.session.usable now = false) :
    c.session.isLive now = false ∧ (c.checked now).isLoggedIn = false := by
  have hlive : c.session.isLive now = false := by
    simpa [Session.usable, show c.session.isLoggedIn = true from hin] using hu
  have he : c.session.expired now = true := by
    simpa [Session.expired, hlive] using show c.session.isLoggedIn = true from hin
  refine ⟨hlive, ?_⟩
  rw [Client.checked, if_pos he]
  rfl

theorem usable_isLive {s : Session} (hu : s.usable now = true) : s.isLive now = true := by
  rw [Session.usable, Bool.and_eq_true] at hu
  exact hu.2

theorem Serves.loads_loggedIn {chat chat' : Chat σ} (hin : chat.client.isLoggedIn = true)
    (hl : call.loads = true) (hs : Serves answer now chat call outcome chat') :
    chat'.client.isLoggedIn = true ↔ ¬ LosesSession answer now chat call := by
  cases hs with
  | done hb =>
    cases hb with
    | missing hr => exact absurd hl (by simp [Call.resends_not_loads hr])
    | blank hp | unusable hp => simp [chat.client.loads_prompt hl] at hp
    | shut _ hu =>
      obtain ⟨hlive, hout⟩ := checked_isLoggedIn hin hu
      exact iff_of_false (by simp [hout]) fun h => h (.inl hlive)
    | cached hu hc =>
      refine iff_of_true hin ?_
      rintro (hlive | ⟨hnot, -⟩)
      · exact absurd (usable_isLive hu) (by simp [hlive])
      · exact absurd hc (by simp [hnot rfl])
  | @replied request ticket c outcome c' hb hf =>
    cases hb with
    | login | register => cases hl
    | asked hp => simp [chat.client.loads_prompt hl] at hp
    | loading _ hu hc =>
      have hlive := usable_isLive hu
      cases hf with
      | dropped hg => exact absurd rfl hg
      | fetched _ hf =>
        have hr := Client.fetched_not_refused hf
        exact iff_of_true hin (by simp [LosesSession, hlive, hr])
      | unfetched =>
        rw [logoutIf_isLoggedIn _ (by exact hin), LosesSession, hlive]
        constructor
        · rintro hr (h | ⟨-, h⟩)
          · cases h
          · cases hr.symm.trans h
        · exact fun h => Bool.eq_false_iff.mpr fun hr => h (.inr ⟨hc, hr⟩)

theorem select_session (number : String) (chat : Chat σ) :
    (select number chat).2.client.session = chat.client.session := by
  cases h : chat.numbered? number with
  | none => rw [select_missing h, looked_session]
  | some entry => rw [select_found h, Client.modify_session]

theorem delete_session (number : String) (chat : Chat σ) :
    (delete number chat).2.client.session = chat.client.session := by
  cases h : chat.numbered? number with
  | none => rw [delete_missing h, looked_session]
  | some entry => rw [delete_found h, Client.modify_session]

/-- The lines that list the history are the commands for it. -/
theorem command?_of_loads (hc : call? text = some call) (hl : call.loads = true) :
    ∃ argument, command? text = some ("history", argument) ∨ command? text = some ("reload", argument) := by
  cases call?_eq_some.mp hc with
  | listed hw => exact ⟨_, .inl hw⟩
  | reloaded hw => exact ⟨_, .inr hw⟩
  | sent | redone | retried => cases hl

theorem Handles.lists {chat chat' : Chat σ} (h : Handles answer now chat text flow out chat')
    (hc : call? text = some call) (hl : call.loads = true) :
    ∃ result, Serves answer now chat call (.entries result) chat' := by
  obtain ⟨argument, hw⟩ := command?_of_loads hc hl
  cases h with
  | blank ht => simp [command?, ht, Text.afterLead?] at hw
  | sent hc' hl' =>
    cases hc.symm.trans hc'
    cases hl.symm.trans hl'
  | listed hc' _ hs =>
    cases hc.symm.trans hc'
    exact ⟨_, hs⟩
  | helped hw' | selected hw' | deleted hw' | renewed hw' | loggedOut hw' => simp [hw'] at hw
  | left hw' hn =>
    rw [hw'] at hw
    rcases hn with rfl | rfl <;> simp at hw
  | unknown hw' hn => simp_all [plainNames]

/-- A line that makes no call, and one that sends a prompt, leave somebody logged in if the chat goes on. -/
theorem Handles.still_loggedIn {chat chat' : Chat σ} (hin : chat.client.isLoggedIn = true)
    (h : Handles answer now chat text .continue out chat')
    (hno : ∀ call, call? text = some call → call.loads = false) : chat'.client.isLoggedIn = true := by
  generalize hf : Flow.continue = flow at h
  cases h with
  | blank | helped | renewed | unknown => exact hin
  | sent =>
    unfold sessionFlow at hf
    split at hf
    · assumption
    · cases hf
  | listed hc hl => exact absurd hl (by simp [hno _ hc])
  | @selected number => exact (congrArg Session.isLoggedIn (select_session number chat)).trans hin
  | @deleted number => exact (congrArg Session.isLoggedIn (delete_session number chat)).trans hin
  | loggedOut | left => cases hf

/-- After a line with which the chat goes on, the one who was logged in still is, unless the line lists the
history and loses the session by it. -/
theorem continue_loggedIn_iff (answer : Network σ) (now : Time.Instant) (text : String) {chat : Chat σ}
    (hin : chat.client.isLoggedIn = true) (hgo : (chat.handleLine answer now text).1 = .continue) :
    (chat.handleLine answer now text).2.2.client.isLoggedIn = true ↔
      ∀ call, call? text = some call → call.loads = true → ¬ LosesSession answer now chat call := by
  have h := handleLine_handles answer now text chat
  rw [hgo] at h
  by_cases hno : ∀ call, call? text = some call → call.loads = false
  · exact iff_of_true (h.still_loggedIn hin hno) fun call hc hl => absurd hl (by simp [hno call hc])
  · obtain ⟨call, hc, hl⟩ : ∃ call, call? text = some call ∧ call.loads = true := by simpa using hno
    obtain ⟨result, hs⟩ := h.lists hc hl
    rw [hs.loads_loggedIn hin hl]
    constructor
    · intro hkept other hother _
      cases hc.symm.trans hother
      exact hkept
    · exact fun hall => hall call hc hl

/-- The history is listed that has been loaded already, while the backend refuses everybody. -/
theorem history_at_hand_listed :
    let chat := loaded [⟨"Why?", "Because.", ⟨0, 0⟩⟩]
    let answer := replying (.ok ⟨401, ""⟩)
    chat.client.isLoggedIn = true ∧ (chat.handleLine answer ⟨0, 0⟩ " :history all").1 = .continue ∧
      (chat.handleLine answer ⟨0, 0⟩ " :history all").2.2.client.isLoggedIn = true := by
  intro chat answer
  have hin : chat.client.isLoggedIn = true := by decide +kernel
  have hgo : (chat.handleLine answer ⟨0, 0⟩ " :history all").1 = .continue := by decide +kernel
  refine ⟨hin, hgo, (continue_loggedIn_iff answer ⟨0, 0⟩ " :history all" hin hgo).mpr ?_⟩
  intro call hc _
  have hensure : call? " :history all" = some .ensure := by
    have hw : command? " :history all" = some ("history", some "all") := by decide +kernel
    simp [call?, hw]
  cases hensure.symm.trans hc
  rintro (hlive | ⟨hmissing, -⟩)
  · exact absurd hlive (by decide +kernel)
  · exact absurd (hmissing rfl) (by decide +kernel)

/-- The chat goes on with nobody logged in: after a load that the backend has refused, and after a list that was
wanted when the token had expired. -/
theorem refused_list_continues :
    let refused := signedIn.handleLine (replying (.ok ⟨401, ""⟩)) ⟨0, 0⟩ ":reload"
    let late := signedIn.handleLine (replying (.ok ⟨200, "[]"⟩)) ⟨9, 0⟩ ":history"
    signedIn.client.isLoggedIn = true ∧
      refused.1 = .continue ∧ refused.2.2.client.isLoggedIn = false ∧
      late.1 = .continue ∧ late.2.2.client.isLoggedIn = false := by
  decide +kernel

end ChatClient.Chat
