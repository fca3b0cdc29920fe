import ChatClient.Chat.Input
import ChatClient.Proofs.Lines
import ChatClient.Proofs.Places
import ChatClient.Proofs.Texts

/-!
The end of a chat. The lines of the input are read one after the other, and only as far as the chat goes on. So
the line that ends it is the last one that counts, whatever bytes follow it, and a chat that is not entered
reads nothing at all.
-/
namespace ChatClient

namespace Text

theorem encodeUtf8_append (s t : String) : encodeUtf8 (s ++ t) = encodeUtf8 s ++ encodeUtf8 t := by
  rw [encodeUtf8_eq, encodeUtf8_eq, encodeUtf8_eq, String.toList_append, List.flatMap_append]

end Text

namespace Chat

/-- A line that a line feed ends. -/
def ended (part : List UInt8) : Option String := Text.decodeUtf8? (dropReturn part)

theorem linesOf_append (parts : List (List UInt8)) (hn : last ≠ []) :
    linesOf (parts ++ last) = parts.map ended ++ linesOf last := by
  induction parts with
  | nil => rfl
  | cons part parts ih =>
    obtain ⟨next, rest, hnext⟩ := List.exists_cons_of_ne_nil (List.append_ne_nil_of_right_ne_nil parts hn)
    rw [List.cons_append, hnext, linesOf, ← hnext, ih]
    · rfl
    · simp

/-- The lines before a line feed stay as they are, whatever follows it. -/
theorem inputLines_append (front rest : List UInt8) :
    inputLines (front ++ 10 :: rest) = (Text.cutAll 10 front).map ended ++ inputLines rest := by
  rw [inputLines, Text.cutAll_append_cons, linesOf_append _ (Text.cutAll_ne_nil 10 rest)]
  rfl

theorem inputLines_ended (front : List UInt8) :
    inputLines (front ++ [10]) = (Text.cutAll 10 front).map ended := by
  have hrest : inputLines [] = [] := rfl
  rw [inputLines_append, hrest, List.append_nil]

/-- Without a line feed behind it, a line may keep a carriage return at its end. -/
theorem decode_of_ended (h : ended part = some text) :
    Text.decodeUtf8? part = some text ∨ Text.decodeUtf8? part = some (text ++ "\r") := by
  unfold ended dropReturn at h
  split at h
  · rename_i rest hr
    right
    have hpart : part = rest.reverse ++ [13] := by
      rw [← List.reverse_reverse part, hr, List.reverse_cons]
    have hreturn : Text.encodeUtf8 "\r" = [13] := by decide
    rw [hpart, ← Text.encodeUtf8_of_decodeUtf8 h, ← hreturn, ← Text.encodeUtf8_append]
    exact Text.decodeUtf8_encodeUtf8 _
  · exact .inl h

/-- A line that ends the input may stand there without its line feed. -/
theorem inputLines_unended (h : inputLines (front ++ [10]) = (texts ++ [text]).map some) (hne : text ≠ "") :
    ∃ text', Text.trim text' = Text.trim text ∧ inputLines front = texts.map some ++ [some text'] := by
  obtain ⟨parts, part, hparts⟩ : ∃ parts part, Text.cutAll 10 front = parts ++ [part] := by
    have hn : Text.cutAll 10 front ≠ [] := Text.cutAll_ne_nil 10 front
    exact ⟨_, _, (List.dropLast_concat_getLast hn).symm⟩
  rw [inputLines_ended, hparts, List.map_append, List.map_append] at h
  obtain ⟨hbefore, hat⟩ := List.append_inj' h rfl
  have hended : ended part = some text := (List.cons.inj hat).1
  have hpart : part.isEmpty = false := by
    rw [List.isEmpty_eq_false_iff]
    rintro rfl
    exact hne (Option.some.inj hended).symm
  have hfront : inputLines front = texts.map some ++ [Text.decodeUtf8? part] := by
    have hlast : linesOf [part] = [Text.decodeUtf8? part] := by rw [linesOf, hpart, if_neg Bool.false_ne_true]
    rw [inputLines, hparts, linesOf_append parts (List.cons_ne_nil part []), hbefore, hlast]
  rcases decode_of_ended hended with hd | hd
  · exact ⟨text, rfl, by rw [hfront, hd]⟩
  · have hempty : Text.isBlank "" = true := by decide
    have hreturn : Text.isBlank "\r" = true := by decide
    have ht := Text.trim_framed hempty hreturn text
    rw [String.empty_append] at ht
    exact ⟨text ++ "\r", ht, by rw [hfront, hd]⟩

theorem handleLine_trim (answer : Network σ) (now : Time.Instant) (chat : Chat σ)
    (h : Text.trim text = Text.trim text') : chat.handleLine answer now text = chat.handleLine answer now text' := by
  rw [handleLine, handleLine, h]

/-- The chat goes on through all of the lines. The clock is read for each. -/
inductive GoesOn (answer : Network σ) : Time.Clock → Chat σ → List String → Time.Clock → Chat σ → Prop
  | nil : GoesOn answer clock chat [] clock chat
  | cons {chat last : Chat σ} {text : String} (hl : (chat.handleLine answer (clock 0) text).1 = .continue)
      (hr : GoesOn answer clock.later (chat.handleLine answer (clock 0) text).2.2 texts clock' last) :
      GoesOn answer clock chat (text :: texts) clock' last

/-- The chat is entered, goes on through some lines, and ends with the line behind them. -/
def QuitsAt (answer : Network σ) (clock : Time.Clock) (chat : Chat σ) (texts : List String) (text : String) :
    Prop :=
  (chat.enter answer clock).1 = .continue ∧
    ∃ clock' last, GoesOn answer clock.later.later (chat.enter answer clock).2.2 texts clock' last ∧
      (last.handleLine answer (clock' 0) text).1 = .quit

theorem takeLine_some (answer : Network σ) (now : Time.Instant) (chat : Chat σ) (text : String) :
    chat.takeLine answer now (some text) =
      (.ok (chat.handleLine answer now text).1, (chat.handleLine answer now text).2) := by
  simp only [takeLine, Prod.map, id_eq]

theorem GoesOn.handleLines {chat last : Chat σ} (h : GoesOn answer clock chat texts clock' last) :
    ∃ said, ∀ more, handleLines answer clock chat (texts.map some ++ more) =
      ((handleLines answer clock' last more).1, said ++ (handleLines answer clock' last more).2.1,
        (handleLines answer clock' last more).2.2) := by
  induction h with
  | nil => exact ⟨"", fun more => by simp⟩
  | @cons clock texts clock' chat _ text hl _ ih =>
    obtain ⟨said, hsaid⟩ := ih
    refine ⟨(chat.handleLine answer (clock 0) text).2.1 ++ said, fun more => ?_⟩
    rcases hline : chat.handleLine answer (clock 0) text with ⟨flow, out, next⟩
    rw [hline] at hl hsaid
    subst hl
    rw [List.map_cons, List.cons_append, Chat.handleLines, takeLine_some, hline]
    simp only [hsaid, String.append_assoc]

/-- What stands behind the line that ends the chat is not looked at. -/
theorem QuitsAt.run {chat : Chat σ} (h : chat.QuitsAt answer clock texts text) :
    ∃ out chat', ∀ input text' more, Text.trim text' = Text.trim text →
      inputLines input = texts.map some ++ some text' :: more →
        run answer clock input chat = (.ok (), out, chat') := by
  obtain ⟨hin, clock', last, hgoes, hquit⟩ := h
  rcases henter : chat.enter answer clock with ⟨flow, greeting, entered⟩
  rw [henter] at hin hgoes
  subst hin
  obtain ⟨said, hsaid⟩ := hgoes.handleLines
  rcases hlast : last.handleLine answer (clock' 0) text with ⟨flow, out, chat'⟩
  rw [hlast] at hquit
  subst hquit
  refine ⟨greeting ++ (said ++ out), chat', fun input text' more ht hi => ?_⟩
  have hend : handleLines answer clock' last (some text' :: more) = (.ok (), out, chat') := by
    rw [handleLines, takeLine_some, handleLine_trim answer (clock' 0) last ht, hlast]
  rw [Chat.run, henter, hi]
  simp only [hsaid, hend]

theorem QuitsAt.not_blank {chat : Chat σ} (h : chat.QuitsAt answer clock texts text) :
    Text.trim text ≠ "" := by
  obtain ⟨_, _, last, _, hquit⟩ := h
  intro ht
  simp [handleLine, ht] at hquit

/-- Without a session that may be used there is no chat. -/
theorem enter_unusable (answer : Network σ) {clock : Time.Clock} {chat : Chat σ}
    (hv : (chat.client.ensureValid (clock 0)).1 = false) :
    chat.enter answer clock = (.quit, line (Screen.status .anonymous none),
      { chat with client := chat.client.checked (clock 0) }) := by
  rw [Client.ensureValid_eq] at hv
  simp only [enter, Client.ensureValid_eq, hv, Client.checked_not_usable hv]
  rfl

/-- Once a line has ended the chat, it has come to what it comes to: the same result, the same output, and the
same client and network, whatever bytes follow, text or not, also if not even the line feed of that line does.
That holds whatever the clock shows from one line to the next, and so also for a session that ends meanwhile.
And a chat without a session that may be used sends nothing and comes to the same for every input. -/
theorem run_ends (answer : Network σ) (clock : Time.Clock) (chat : Chat σ) :
    (∀ front texts text, inputLines (front ++ [10]) = (texts ++ [text]).map some →
      chat.QuitsAt answer clock texts text →
      ∃ out chat', run answer clock front chat = (.ok (), out, chat') ∧
        ∀ rest, run answer clock (front ++ 10 :: rest) chat = (.ok (), out, chat')) ∧
    ((chat.client.ensureValid (clock 0)).1 = false → ∀ input, run answer clock input chat =
      (.ok (), line (Screen.status .anonymous none),
        { chat with client := chat.client.checked (clock 0) })) := by
  constructor
  · intro front texts text hlines hquits
    obtain ⟨out, chat', hrun⟩ := hquits.run
    refine ⟨out, chat', ?_, fun rest => ?_⟩
    · have hne : text ≠ "" := by
        rintro rfl
        exact hquits.not_blank rfl
      obtain ⟨text', ht, hfront⟩ := inputLines_unended hlines hne
      exact hrun front text' [] ht hfront
    · rw [inputLines_ended, List.map_append, List.map_singleton] at hlines
      refine hrun (front ++ 10 :: rest) text (inputLines rest) rfl ?_
      rw [inputLines_append, hlines, List.append_assoc]
      rfl
  · intro hv input
    rw [run, enter_unusable answer hv]

/-- A clock that stands at the beginning of 1970 for some readings, and nine seconds later after them. -/
def laterFrom (n : Nat) : Time.Clock := fun m => if m < n then ⟨0, 0⟩ else ⟨9, 0⟩

/-- The last line has no line feed, or one with bytes behind it that are no text. A prompt ends the chat if the
token has expired since the chat was entered. When it has expired before that, no line is read. -/
theorem quit_before_stray_bytes :
    let answer := replying (.ok ⟨200, "[]"⟩)
    let front := Text.encodeUtf8 ":new\r\n :quit now"
    let prompt := Text.encodeUtf8 "Why?"
    (run answer (laterFrom 4) front signedIn).1 = .ok () ∧
      run answer (laterFrom 4) (front ++ 10 :: [0xFF, 10]) signedIn =
        run answer (laterFrom 4) front signedIn ∧
      run answer (laterFrom 2) (prompt ++ 10 :: [0xFF, 10]) signedIn =
        run answer (laterFrom 2) prompt signedIn ∧
      run answer (laterFrom 0) [0xFF, 10] signedIn = run answer (laterFrom 0) front signedIn := by
  intro answer front prompt
  have hlines : inputLines (front ++ [10]) = [":new", " :quit now"].map some := by decide +kernel
  have hquits : signedIn.QuitsAt answer (laterFrom 4) [":new"] " :quit now" :=
    ⟨by decide +kernel, _, _, .cons (by decide +kernel) .nil, by decide +kernel⟩
  have hprompt : inputLines (prompt ++ [10]) = ["Why?"].map some := by decide +kernel
  have hexpires : signedIn.QuitsAt answer (laterFrom 2) [] "Why?" :=
    ⟨by decide +kernel, _, _, .nil, by decide +kernel⟩
  have hshut : (signedIn.client.ensureValid (laterFrom 0 0)).1 = false := by decide +kernel
  obtain ⟨hends, -⟩ := run_ends answer (laterFrom 4) signedIn
  obtain ⟨hleaves, -⟩ := run_ends answer (laterFrom 2) signedIn
  obtain ⟨-, hreads⟩ := run_ends answer (laterFrom 0) signedIn
  obtain ⟨out, chat', hfront, hmore⟩ := hends front [":new"] " :quit now" hlines hquits
  obtain ⟨out', chat'', hfront', hmore'⟩ := hleaves prompt [] "Why?" hprompt hexpires
  refine ⟨by rw [hfront], by rw [hfront, hmore], by rw [hfront', hmore'], ?_⟩
  rw [hreads hshut [0xFF, 10], hreads hshut front]

/-- A chat that is still going on when such bytes come ends in an error. -/
example : (run (replying (.ok ⟨200, "[]"⟩)) (laterFrom 9) [0xFF, 10] signedIn).1 = .error notText := by
  decide +kernel

end Chat

end ChatClient
