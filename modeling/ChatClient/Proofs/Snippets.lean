import ChatClient.Chat.Screen
import ChatClient.Proofs.Texts

/-!
Prompts as a list shows them. A snippet is the trimmed prompt, or its first twenty characters and three dots.
It fits its column, and it is its own snippet: the dots leave nothing to trim, and cutting it off again leads
back to it.
-/
namespace ChatClient.Screen

open Text (Trims trimChars isBlankChar)

/-- What may be shown of a text: all of it, if it has no more than `n` characters, or its first `n` characters
and three dots. -/
inductive Shortens (n : Nat) : List Char → List Char → Prop
  | whole (h : cs.length ≤ n) : Shortens n cs cs
  | cut {front rest : List Char} (hfront : front.length = n) (hrest : rest ≠ []) :
      Shortens n (front ++ rest) (front ++ ['.', '.', '.'])

theorem shortens_cutOff (n : Nat) (cs : List Char) : Shortens n cs (cutOff n cs) := by
  rcases Nat.lt_or_ge n cs.length with hlong | hshort
  · have hfront : (cs.take n).length = n := List.length_take_of_le (Nat.le_of_lt hlong)
    have hrest : cs.drop n ≠ [] := by
      intro hnil
      exact Nat.not_le_of_lt hlong (List.drop_eq_nil_iff.mp hnil)
    have hcut := Shortens.cut hfront hrest
    rwa [List.take_append_drop, ← cutOff_of_lt_length hlong] at hcut
  · rw [cutOff_of_length_le hshort]
    exact .whole hshort

/-- A text is shortened in one way. -/
theorem shortens_iff : Shortens n cs ds ↔ ds = cutOff n cs := by
  constructor
  · intro h
    cases h with
    | whole hle => exact (cutOff_of_length_le hle).symm
    | @cut front rest hfront hrest =>
      have hlong : n < (front ++ rest).length := by
        have hpos := List.length_pos_iff.mpr hrest
        rw [List.length_append]
        omega
      rw [cutOff_of_lt_length hlong, ← hfront, List.take_left]
  · rintro rfl
    exact shortens_cutOff n cs

theorem Shortens.length_le (h : Shortens n cs ds) : ds.length ≤ n + 3 := by
  cases h with
  | whole hle => omega
  | cut hfront => rw [List.length_append, hfront]; rfl

/-- What is shown of a trimmed text is trimmed, and is all that would be shown of it. -/
theorem Shortens.again (h : Shortens n cs ds) (hn : 0 < n) (ht : Trims text cs) :
    Trims ds ds ∧ Shortens n ds ds := by
  cases h with
  | whole hle => exact ⟨Text.trims_iff.mpr ht.trimChars_self.symm, .whole hle⟩
  | @cut front rest hfront hrest =>
    refine ⟨⟨⟨[], [], by simp⟩, fun hne => ?_, fun hne => ?_⟩, .cut hfront (List.cons_ne_nil _ _)⟩
    · -- The dots stand behind a character that the text starts with.
      have hfront : front ≠ [] := List.ne_nil_of_length_pos (hfront ▸ hn)
      have hstart := ht.starts (List.append_ne_nil_of_left_ne_nil hfront rest)
      rw [List.head_append_of_ne_nil hfront] at hstart ⊢
      exact hstart
    · rw [List.getLast_append_of_ne_nil hne (List.cons_ne_nil _ _)]
      decide

theorem toList_snippet (s : String) : (snippet s).toList = cutOff snippetLength (trimChars s.toList) := by
  rw [snippet, String.toList_ofList]

theorem snippet_shows (s : String) :
    ∃ cs, Trims s.toList cs ∧ Shortens snippetLength cs (snippet s).toList :=
  ⟨_, Text.trims_trimChars _, shortens_iff.mpr (toList_snippet s)⟩

/-- The snippet is the one text that shortens what trimming leaves of the prompt to twenty characters. It has no
more than twenty-three characters, so that its column in the history is exactly that wide, whatever the prompt
is. Making a snippet of it changes nothing. -/
theorem snippet_shortens (s : String) :
    (∀ r, snippet s = r ↔ ∃ cs, Trims s.toList cs ∧ Shortens 20 cs r.toList) ∧
      (snippet s).length ≤ 23 ∧ (Text.padRight snippetWidth (snippet s)).length = 23 ∧
      snippet (snippet s) = snippet s := by
  have hunique (s r : String) : snippet s = r ↔ ∃ cs, Trims s.toList cs ∧ Shortens 20 cs r.toList := by
    rw [← String.toList_inj, toList_snippet, eq_comm]
    simp only [Text.trims_iff, shortens_iff, exists_eq_left]
    rfl
  obtain ⟨cs, ht, hs⟩ := snippet_shows s
  have hle : (snippet s).toList.length ≤ 23 := hs.length_le
  refine ⟨hunique s, hle, ?_, ?_⟩
  · simp only [Text.padRight, String.length_append, String.length_ofList, List.length_replicate, snippetWidth]
    rw [← String.length_toList]
    omega
  · obtain ⟨htrimmed, hshort⟩ := hs.again (by decide) ht
    exact (hunique (snippet s) (snippet s)).mpr ⟨_, htrimmed, hshort⟩

/-- Twenty characters are shown in full, although there is white space around them, and of one more the first
twenty. -/
example : snippet " exactly twenty chars\n" = "exactly twenty chars" ∧
    snippet "exactly twenty chars." = "exactly twenty chars..." := by decide +kernel

end ChatClient.Screen
