import ChatClient.Chat.Basic
import ChatClient.Proofs.Calls

/-!
What a line of the chat does, as one list of cases. A line makes one call of the client at most, and waits
for it; all others only look at the client or change what it shows.
-/
namespace ChatClient.Chat

open Client (Begins Finishes)

/-- A call that is waited for: what it comes to, and the chat that it leaves. The network answers its
request, if it sends one. -/
inductive Serves (answer : Network σ) (now : Time.Instant) (chat : Chat σ) (call : Call) :
    Outcome → Chat σ → Prop
  | done (hb : Begins now chat.client call (.done outcome) c) :
      Serves answer now chat call outcome ⟨c, chat.network⟩
  | replied (hb : Begins now chat.client call (.waiting request ticket) c)
      (hf : Finishes c ticket (answer chat.network request).1 outcome c') :
      Serves answer now chat call outcome ⟨c', (answer chat.network request).2⟩

theorem await_serves {begun : Begun τ α × Client} (call : Call) {f : τ → Ticket} {g : α → Outcome}
    (hb : chat.client.begin now call = Prod.map (Begun.map f g) id begun)
    (hf : ∀ ticket reply c, Client.finish (f ticket) reply c = Prod.map g id (finish ticket reply c)) :
    Serves answer now chat call (g (await answer finish chat.network begun).1)
      (await answer finish chat.network begun).2 := by
  have hbegins := Client.begin_begins now call chat.client
  rw [hb] at hbegins
  obtain ⟨_ | ⟨request, ticket⟩, c⟩ := begun
  · exact .done hbegins
  · have hfinishes := Client.finish_finishes (f ticket) (answer chat.network request).1 c
    rw [hf] at hfinishes
    exact .replied hbegins hfinishes

/-- The words of a line that is a command. -/
def command? (text : String) : Option (String × Option String) :=
  (Text.afterLead? ":" (Text.trim text)).map commandWords

/-- The call that a line makes. -/
def call? (text : String) : Option Call :=
  match command? text with
  | none => if Text.trim text = "" then none else some (.send (Text.trim text))
  | some ("history", _) => some .ensure
  | some ("reload", _) => some .load
  | some ("redo", _) => some .redo
  | some ("retry", _) => some .retry
  | some _ => none

/-- The lines that make a call, and which. -/
inductive Calls (text : String) : Call → Prop
  | sent (ha : Text.afterLead? ":" (Text.trim text) = none) (ht : Text.trim text ≠ "") :
      Calls text (.send (Text.trim text))
  | listed (hw : command? text = some ("history", argument)) : Calls text .ensure
  | reloaded (hw : command? text = some ("reload", argument)) : Calls text .load
  | redone (hw : command? text = some ("redo", argument)) : Calls text .redo
  | retried (hw : command? text = some ("retry", argument)) : Calls text .retry

theorem call?_eq_some : call? text = some call ↔ Calls text call := by
  constructor
  · intro hc
    unfold call? at hc
    split at hc
    · rename_i hw
      split at hc
      · cases hc
      · rename_i ht
        obtain rfl := Option.some.inj hc
        exact .sent (Option.map_eq_none_iff.mp hw) ht
    · rename_i argument hw
      obtain rfl := Option.some.inj hc
      exact .listed hw
    · rename_i argument hw
      obtain rfl := Option.some.inj hc
      exact .reloaded hw
    · rename_i argument hw
      obtain rfl := Option.some.inj hc
      exact .redone hw
    · rename_i argument hw
      obtain rfl := Option.some.inj hc
      exact .retried hw
    · cases hc
  · intro hc
    cases hc with
    | sent ha ht =>
      have hw : command? text = none := Option.map_eq_none_iff.mpr ha
      simp [call?, hw, ht]
    | listed hw | reloaded hw | redone hw | retried hw => simp [call?, hw]

/-- The commands that need no argument. -/
def plainNames : List String := ["help", "history", "reload", "redo", "retry", "new", "logout", "quit", "q"]

/-- The commands about an entry of the list, which is their argument. -/
def entryNames : List String := ["select", "delete"]

/-- What can come of a line: whether the chat goes on, what is printed, and the chat that is left. -/
inductive Handles (answer : Network σ) (now : Time.Instant) (chat : Chat σ) (text : String) :
    Flow → String → Chat σ → Prop
  | blank (ht : Text.trim text = "") : Handles answer now chat text .continue "" chat
  | sent (hc : call? text = some call) (hl : call.loads = false)
      (hs : Serves answer now chat call (.entry result) chat') :
      Handles answer now chat text chat'.sessionFlow (reportSend result).2 chat'
  | listed (hc : call? text = some call) (hl : call.loads = true)
      (hs : Serves answer now chat call (.entries result) chat') :
      Handles answer now chat text .continue (reportHistory result).2 chat'
  | helped (hw : command? text = some ("help", argument)) :
      Handles answer now chat text .continue (line helpText) chat
  | selected (hw : command? text = some ("select", some number)) :
      Handles answer now chat text .continue (select number chat).1 (select number chat).2
  | deleted (hw : command? text = some ("delete", some number)) :
      Handles answer now chat text .continue (delete number chat).1 (delete number chat).2
  | renewed (hw : command? text = some ("new", argument)) :
      Handles answer now chat text .continue (line (Screen.slot .empty))
        { chat with client := chat.client.newQuestion }
  | loggedOut (hw : command? text = some ("logout", argument)) :
      Handles answer now chat text .quit chat.logout.1 chat.logout.2
  | left (hw : command? text = some (name, argument)) (hn : name = "quit" ∨ name = "q") :
      Handles answer now chat text .quit "" chat
  | unknown (hw : command? text = some (name, argument)) (hn : name ∉ plainNames)
      (he : name ∈ entryNames → argument = none) :
      Handles answer now chat text .continue
        (line ("Unknown command \x60" ++ Text.trim text ++ "\x60. \x60:help\x60 lists commands.")) chat

/-- A line whose call sends a prompt. -/
theorem handles_send (answer : Network σ) {begun : Begun PromptTicket (Except SendError Entry) × Client}
    (hc : call? text = some call) (hl : call.loads = false)
    (hb : chat.client.begin now call = Prod.map (Begun.map .prompt .entry) id begun) :
    Handles answer now chat text (completeSend answer chat.network begun).2.2.sessionFlow
      (completeSend answer chat.network begun).2.1 (completeSend answer chat.network begun).2.2 :=
  .sent hc hl (await_serves call hb fun _ _ _ => rfl)

/-- A line whose call loads the history. -/
theorem handles_load (answer : Network σ) {begun : Begun HistoryTicket (Except FetchError (List Entry)) × Client}
    (hc : call? text = some call) (hl : call.loads = true)
    (hb : chat.client.begin now call = Prod.map (Begun.map .history .entries) id begun) :
    Handles answer now chat text .continue (completeLoad answer chat.network begun).2.1
      (completeLoad answer chat.network begun).2.2 :=
  .listed hc hl (await_serves call hb fun _ _ _ => rfl)

theorem command_handles (answer : Network σ) (now : Time.Instant) (chat : Chat σ)
    (hw : command? text = some words) :
    Handles answer now chat text (command answer now (Text.trim text) words chat).1
      (command answer now (Text.trim text) words chat).2.1
      (command answer now (Text.trim text) words chat).2.2 := by
  unfold command
  split
  · exact .helped hw
  · exact handles_load answer (call?_eq_some.mpr (.listed hw)) rfl rfl
  · exact handles_load answer (call?_eq_some.mpr (.reloaded hw)) rfl rfl
  · exact .selected hw
  · exact .deleted hw
  · exact handles_send answer (call?_eq_some.mpr (.redone hw)) rfl rfl
  · exact handles_send answer (call?_eq_some.mpr (.retried hw)) rfl rfl
  · exact .renewed hw
  · exact .loggedOut hw
  · exact .left hw (.inl rfl)
  · exact .left hw (.inr rfl)
  · obtain ⟨name, argument⟩ := words
    refine .unknown hw ?_ ?_
    · simp_all [plainNames]
    · cases argument <;> simp_all [entryNames]

theorem handleLine_command (answer : Network σ) (now : Time.Instant) (chat : Chat σ)
    (hw : command? text = some words) :
    chat.handleLine answer now text = command answer now (Text.trim text) words chat := by
  obtain ⟨rest, ha, rfl⟩ := Option.map_eq_some_iff.mp hw
  have ht : Text.trim text ≠ "" := by
    intro ht
    rw [ht] at ha
    cases ha
  simp [handleLine, ht, ha]

theorem handleLine_prompt (answer : Network σ) (now : Time.Instant) {chat : Chat σ} (hw : command? text = none)
    (ht : Text.trim text ≠ "")
    (ho : completeSend answer chat.network (chat.client.beginSend now (Text.trim text)) = (ok, out, chat')) :
    chat.handleLine answer now text = (chat'.sessionFlow, out, chat') := by
  have ha : Text.afterLead? ":" (Text.trim text) = none := Option.map_eq_none_iff.mp hw
  simp [handleLine, ht, ha, ask, ho]

theorem handleLine_handles (answer : Network σ) (now : Time.Instant) (text : String) (chat : Chat σ) :
    Handles answer now chat text (chat.handleLine answer now text).1
      (chat.handleLine answer now text).2.1 (chat.handleLine answer now text).2.2 := by
  by_cases ht : Text.trim text = ""
  · simpa [handleLine, ht] using Handles.blank ht
  · cases hw : command? text with
    | some words =>
      rw [handleLine_command answer now chat hw]
      exact command_handles answer now chat hw
    | none =>
      have hc : call? text = some (.send (Text.trim text)) := by simp [call?, hw, ht]
      have hb : chat.client.begin now (.send (Text.trim text)) =
          Prod.map (Begun.map .prompt .entry) id (chat.client.beginSend now (Text.trim text)) := rfl
      have hs := handles_send answer hc rfl hb
      rcases ho : completeSend answer chat.network (chat.client.beginSend now (Text.trim text))
        with ⟨ok, out, chat'⟩
      rw [ho] at hs
      rw [handleLine_prompt answer now hw ht ho]
      exact hs

/-- A chat with somebody logged in whose token is good until nine seconds past the epoch. -/
def signedIn : Chat Unit := ⟨.start (.memory (some ".eyJleHAiOjl9.") 0) ⟨0, 0⟩, ()⟩

/-- A network that answers all requests alike. -/
def replying (reply : Http.Reply) : Network Unit := fun _ _ => (reply, ())

end ChatClient.Chat
