import ChatClient.Proofs.Numerals
import ChatClient.Proofs.Places
import ChatClient.Chat.Screen

/-!
The history on the screen. Each entry has a row, which starts with its number, and the rows are joined by line
feeds. A row is a line of its own only if nothing that it shows of the prompt is a line feed: a prompt is
shortened, but otherwise copied as it is.
-/
namespace ChatClient

namespace Text

theorem length_cutAll [DecidableEq α] (c : α) (l : List α) : (cutAll c l).length = l.count c + 1 := by
  induction l with
  | nil => rfl
  | cons d ds ih =>
    rw [cutAll]
    by_cases hd : d = c
    · simp [hd, ih]
    · rw [if_neg hd, List.count_cons_of_ne hd, ← ih]
      cases hs : cutAll c ds with
      | nil => simp [hs] at ih
      | cons part parts => rfl

theorem count_intercalate [DecidableEq α] (c : α) {ls : List (List α)} (hn : ls ≠ []) :
    ([c].intercalate ls).count c + 1 = ls.length + ls.flatten.count c := by
  induction ls with
  | nil => exact absurd rfl hn
  | cons l ls ih =>
    cases ls with
    | nil => simp [Nat.add_comm]
    | cons next rest =>
      have hrest := ih (List.cons_ne_nil next rest)
      rw [List.intercalate_cons_cons, List.count_append, List.count_append, List.count_singleton_self,
        List.flatten_cons, List.count_append, List.length_cons]
      omega

/-- Parts that are joined by `c` fall apart at every `c` that stands in them, too. -/
theorem length_cutAll_intercalate [DecidableEq α] (c : α) {ls : List (List α)} (hn : ls ≠ []) :
    (cutAll c ([c].intercalate ls)).length = ls.length + ls.flatten.count c := by
  rw [length_cutAll, count_intercalate c hn]

end Text

namespace Time

theorem isDigit_or_sign_of_mem_yearText (h : c ∈ (yearText year).toList) :
    c.isDigit = true ∨ c = '-' ∨ c = '+' := by
  have hdigit (h : c ∈ Text.numeral 4 year.natAbs) : c.isDigit = true := Text.isDigit_of_mem_numeral h
  unfold yearText at h
  split at h
  · exact .inl (hdigit h)
  · rw [String.toList_append, List.mem_append] at h
    rcases h with hsign | h
    · right
      split at hsign
      · exact .inl (List.mem_singleton.mp hsign)
      · exact .inr (List.mem_singleton.mp hsign)
    · exact .inl (hdigit h)

/-- The time of an entry is written on one line. -/
theorem Instant.newline_notMem_minuteText (i : Instant) : '\n' ∉ i.minuteText.toList := by
  have hdigits (n : Nat) : '\n' ∉ (twoDigits n).toList := by
    intro h
    have hd : '\n'.isDigit = true := Text.isDigit_of_mem_numeral h
    simp at hd
  have hyear : '\n' ∉ (yearText (Date.ofDays i.day).year).toList := by
    intro h
    rcases isDigit_or_sign_of_mem_yearText h with hd | hm | hp
    · simp at hd
    · simp at hm
    · simp at hp
  simp [Instant.minuteText, dateText, hdigits, hyear]

end Time

namespace Screen

/-- What a row shows of the text of a prompt; three dots may follow. -/
def shown (prompt : String) : List Char := (Text.trimChars prompt.toList).take snippetLength

theorem newline_mem_snippet (prompt : String) :
    '\n' ∈ (snippet prompt).toList ↔ '\n' ∈ shown prompt := by
  rw [snippet, shown, String.toList_ofList]
  rcases Nat.lt_or_ge snippetLength (Text.trimChars prompt.toList).length with hlong | hshort
  · rw [cutOff_of_lt_length hlong]
    simp
  · rw [cutOff_of_length_le hshort, List.take_of_length_le hshort]

/-- How a row begins, up to the text of the prompt. -/
def label (number : Nat) : String := Text.padLeft 3 ' ' (toString number) ++ ". "

theorem historyLine_eq (number : Nat) (e : Entry) :
    historyLine number e =
      label number ++ (Text.padRight snippetWidth (snippet e.prompt) ++ " " ++ e.createdAt.minuteText) := by
  simp [historyLine, label, String.append_assoc]

theorem newline_notMem_label (number : Nat) : '\n' ∉ (label number).toList := by
  have hdigits : '\n' ∉ Nat.toDigits 10 number := by
    intro h
    have hd := Text.isDigit_toDigits number _ h
    simp at hd
  simp [label, Text.toList_padLeft, hdigits]

theorem newline_mem_historyLine (number : Nat) (e : Entry) :
    '\n' ∈ (historyLine number e).toList ↔ '\n' ∈ shown e.prompt := by
  have htime := e.createdAt.newline_notMem_minuteText
  rw [historyLine_eq, String.toList_append, List.mem_append, ← newline_mem_snippet]
  simp [newline_notMem_label, Text.padRight, htime]

/-- The rows of the list, from the newest entry on. -/
def rows (entries : List Entry) : List String := entries.mapIdx fun i e => historyLine (i + 1) e

theorem rows_getElem? (entries : List Entry) (i : Nat) :
    (rows entries)[i]? = entries[i]?.map (historyLine (i + 1)) := List.getElem?_mapIdx

theorem newline_mem_rows {entries : List Entry} :
    '\n' ∈ ((rows entries).map String.toList).flatten ↔ ∃ e ∈ entries, '\n' ∈ shown e.prompt := by
  constructor
  · intro h
    obtain ⟨cs, hcs, hc⟩ := List.mem_flatten.mp h
    obtain ⟨row, hrow, rfl⟩ := List.mem_map.mp hcs
    obtain ⟨i, hi, rfl⟩ := List.mem_mapIdx.mp hrow
    exact ⟨entries[i], List.getElem_mem hi, (newline_mem_historyLine ..).mp hc⟩
  · rintro ⟨e, he, hc⟩
    obtain ⟨i, hi, rfl⟩ := List.mem_iff_getElem.mp he
    refine List.mem_flatten.mpr ⟨(historyLine (i + 1) entries[i]).toList, ?_, (newline_mem_historyLine ..).mpr hc⟩
    exact List.mem_map.mpr ⟨_, List.mem_mapIdx.mpr ⟨i, hi, rfl⟩, rfl⟩

/-- The lines that the list takes on the screen. -/
def historyLines (entries : List Entry) : List (List Char) := Text.cutAll '\n' (history entries).toList

theorem history_eq (hn : entries ≠ []) : history entries = String.intercalate "\n" (rows entries) := by
  have hempty : entries.isEmpty = false := by simpa using hn
  rw [history, hempty, if_neg Bool.false_ne_true, rows]

theorem historyLines_eq (hn : entries ≠ []) :
    historyLines entries = Text.cutAll '\n' (['\n'].intercalate ((rows entries).map String.toList)) := by
  have hfeed : "\n".toList = ['\n'] := rfl
  rw [historyLines, history_eq hn, String.toList_intercalate, hfeed]

/-- Each line feed that is shown of a prompt makes one line more. -/
theorem length_historyLines (hn : entries ≠ []) :
    (historyLines entries).length =
      entries.length + ((rows entries).map String.toList).flatten.count '\n' := by
  have hrows : (rows entries).map String.toList ≠ [] := by simpa [rows] using hn
  rw [historyLines_eq hn, Text.length_cutAll_intercalate _ hrows]
  simp [rows]

/-- The list takes one line for each entry, and this line starts with the number of the entry, exactly if no
line feed is shown of a prompt. -/
theorem historyLines_numbered_iff (hn : entries ≠ []) :
    ((historyLines entries).length = entries.length ∧
      ∀ i < entries.length, ∃ cs, (historyLines entries)[i]? = some cs ∧ (label (i + 1)).toList <+: cs) ↔
    ∀ e ∈ entries, '\n' ∉ shown e.prompt := by
  constructor
  · rintro ⟨hlength, -⟩ e he hc
    have hcount : ((rows entries).map String.toList).flatten.count '\n' = 0 := by
      have htotal := length_historyLines hn
      omega
    exact List.count_eq_zero.mp hcount (newline_mem_rows.mpr ⟨e, he, hc⟩)
  · intro hno
    have hrows : ∀ cs ∈ (rows entries).map String.toList, '\n' ∉ cs := by
      intro cs hcs hc
      obtain ⟨e, he, hmem⟩ := newline_mem_rows.mp (List.mem_flatten.mpr ⟨cs, hcs, hc⟩)
      exact hno e he hmem
    have hlines : historyLines entries = (rows entries).map String.toList := by
      rw [historyLines_eq hn, Text.cutAll_eq_splitOn,
        List.splitOn_intercalate _ hrows (by simpa [rows] using hn)]
    rw [hlines]
    refine ⟨by simp [rows], fun i hi => ?_⟩
    refine ⟨(historyLine (i + 1) entries[i]).toList, ?_, ?_⟩
    · rw [List.getElem?_map, rows_getElem?, List.getElem?_eq_getElem hi]
      rfl
    · rw [historyLine_eq, String.toList_append]
      exact List.prefix_append ..

/-- A line feed around a prompt, or behind what is shown of it, does no harm. -/
theorem line_feeds_not_shown :
    let entries : List Entry :=
      [⟨"\nWhy is it that we ask\nthis?\n", "Because.", ⟨60, 0⟩⟩, ⟨"How?", "So.\nOr so.", ⟨0, 0⟩⟩]
    (historyLines entries).length = 2 ∧
      ∀ i < 2, ∃ cs, (historyLines entries)[i]? = some cs ∧ (label (i + 1)).toList <+: cs := by
  intro entries
  have hn : entries ≠ [] := List.cons_ne_nil _ _
  exact (historyLines_numbered_iff hn).mpr (by decide +kernel)

/-- One entry takes two lines. -/
theorem prompt_of_two_lines :
    let entries : List Entry := [⟨"Why?\nSince when?", "Because.", ⟨0, 0⟩⟩]
    entries ≠ [] ∧ (historyLines entries).length = 2 ∧ entries.length = 1 := by
  decide +kernel

end Screen

end ChatClient
