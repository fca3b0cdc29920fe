import ChatClient.Text.Blank
import ChatClient.Text.Utf8
import Mathlib.Data.List.DropRight

/-!
Text that has been trimmed, and text that goes through bytes and back.
-/
namespace ChatClient.Text

theorem dropEnd_eq (p : Char → Bool) (cs : List Char) : dropEnd p cs = cs.rdropWhile p := rfl

theorem dropWhile_of_prefix {p : Char → Bool} {cs ds : List Char} (hp : ds <+: cs)
    (hc : cs.dropWhile p = cs) : ds.dropWhile p = ds := by
  rw [List.dropWhile_eq_self_iff] at hc ⊢
  intro hl
  rw [hp.getElem hl]
  exact hc (Nat.lt_of_lt_of_le hl hp.length_le)

/-- Trimming once is enough. -/
theorem trimChars_trimChars (cs : List Char) : trimChars (trimChars cs) = trimChars cs := by
  have hstart : (trimChars cs).dropWhile isBlankChar = trimChars cs := by
    refine dropWhile_of_prefix ?_ (List.dropWhile_idempotent _ cs)
    rw [trimChars, dropEnd_eq]
    exact List.rdropWhile_prefix _ _
  rw [trimChars, hstart]
  simp only [trimChars, dropEnd_eq]
  exact List.rdropWhile_idempotent _ _

theorem trim_trim (s : String) : trim (trim s) = trim s := by
  simp [trim, trimChars_trimChars]

theorem dropEnd_append_all {p : Char → Bool} (hw : ∀ c ∈ w, p c = true) (cs : List Char) :
    dropEnd p (cs ++ w) = dropEnd p cs := by
  rw [dropEnd, List.reverse_append, List.dropWhile_append_of_pos (by simpa using hw), ← dropEnd]

/-- White space around a text does not count. -/
theorem trimChars_framed (hw : ∀ c ∈ w, isBlankChar c = true) (hw' : ∀ c ∈ w', isBlankChar c = true)
    (cs : List Char) : trimChars (w ++ (cs ++ w')) = trimChars cs := by
  rw [trimChars, List.dropWhile_append_of_pos hw, List.dropWhile_append]
  split
  · rename_i hcs
    have hnil : cs.dropWhile isBlankChar = [] := by simpa using hcs
    have hblank : w'.dropWhile isBlankChar = [] := by simpa using hw'
    rw [trimChars, hnil, hblank]
  · rw [dropEnd_append_all hw', trimChars]

theorem isBlank_iff : isBlank s = true ↔ ∀ c ∈ s.toList, isBlankChar c = true := by
  simp [isBlank]

theorem trim_framed (hw : isBlank w = true) (hw' : isBlank w' = true) (s : String) :
    trim (w ++ s ++ w') = trim s := by
  simp [trim, trimChars_framed (isBlank_iff.mp hw) (isBlank_iff.mp hw')]

theorem mem_of_mem_trimChars (h : c ∈ trimChars cs) : c ∈ cs := by
  rw [trimChars, dropEnd_eq] at h
  exact (List.dropWhile_sublist _).mem ((List.rdropWhile_prefix _ _).mem h)

/-- Between two characters that are no white space nothing is left out. -/
theorem trimChars_between (hc : isBlankChar c = false) (hd : isBlankChar d = false) (cs : List Char) :
    trimChars (c :: (cs ++ [d])) = c :: (cs ++ [d]) := by
  rw [trimChars, List.dropWhile_cons_of_neg (by simp [hc]), dropEnd_eq, ← List.cons_append]
  exact List.rdropWhile_concat_neg _ _ _ (Bool.eq_false_iff.mp hd)

theorem dropEnd_noEnd {p : Char → Bool} (h : ∀ c ∈ cs, p c = false) : dropEnd p cs = cs := by
  rw [dropEnd_eq, List.rdropWhile_eq_self_iff]
  intro hne
  rw [h _ (List.getLast_mem hne)]
  exact Bool.false_ne_true

theorem trimChars_noBlank (h : ∀ c ∈ cs, isBlankChar c = false) : trimChars cs = cs := by
  have hstart : cs.dropWhile isBlankChar = cs := by
    rw [List.dropWhile_eq_self_iff]
    intro hl
    rw [h _ (List.getElem_mem hl)]
    exact Bool.false_ne_true
  rw [trimChars, hstart, dropEnd_noEnd h]

theorem trimChars_eq_nil_iff : trimChars cs = [] ↔ ∀ c ∈ cs, isBlankChar c = true := by
  constructor
  · intro h c hc
    rw [trimChars, dropEnd_eq, List.rdropWhile_eq_nil_iff] at h
    rw [← List.takeWhile_append_dropWhile (p := isBlankChar) (l := cs)] at hc
    exact (List.mem_append.mp hc).elim List.mem_takeWhile_imp (h c)
  · intro h
    rw [trimChars, List.dropWhile_eq_nil_iff.mpr h]
    rfl

/-- What is blank is what trimming leaves nothing of. -/
theorem trim_eq_empty_iff : trim s = "" ↔ isBlank s = true := by
  rw [isBlank_iff, ← trimChars_eq_nil_iff, trim, ← String.toList_inj, String.toList_ofList]
  rfl

/-- A text without the white space around it: what is left starts with no white space and ends with none. -/
structure Trims (cs ds : List Char) : Prop where
  framed : ∃ w w', (∀ c ∈ w, isBlankChar c = true) ∧ (∀ c ∈ w', isBlankChar c = true) ∧ cs = w ++ (ds ++ w')
  starts : ∀ h : ds ≠ [], isBlankChar (ds.head h) = false
  ends : ∀ h : ds ≠ [], isBlankChar (ds.getLast h) = false

theorem trims_trimChars (cs : List Char) : Trims cs (trimChars cs) where
  framed := by
    refine ⟨cs.takeWhile isBlankChar, (cs.dropWhile isBlankChar).rtakeWhile isBlankChar, ?_, ?_, ?_⟩
    · intro c hc
      exact List.mem_takeWhile_imp hc
    · intro c hc
      exact List.mem_rtakeWhile_imp hc
    · rw [trimChars, dropEnd_eq, List.rdropWhile_append_rtakeWhile, List.takeWhile_append_dropWhile]
  starts h := by
    -- What trimming leaves is where the text without its front begins.
    have hfront : trimChars cs <+: cs.dropWhile isBlankChar := List.rdropWhile_prefix _ _
    have hne : cs.dropWhile isBlankChar ≠ [] := hfront.ne_nil h
    rw [hfront.head h]
    exact List.head_dropWhile_not isBlankChar hne
  ends h := Bool.eq_false_iff.mpr (List.rdropWhile_last_not _ _ h)

theorem Trims.trimChars_self (h : Trims cs ds) : trimChars ds = ds := by
  have hfront : ds.dropWhile isBlankChar = ds := by
    rw [List.dropWhile_eq_self_iff]
    intro hl
    have hne : ds ≠ [] := List.ne_nil_of_length_pos hl
    rw [← List.head_eq_getElem hne, h.starts hne]
    exact Bool.false_ne_true
  rw [trimChars, hfront, dropEnd_eq, List.rdropWhile_eq_self_iff]
  intro hne
  rw [h.ends hne]
  exact Bool.false_ne_true

/-- There is one way to take the white space off. -/
theorem trims_iff : Trims cs ds ↔ ds = trimChars cs := by
  constructor
  · intro h
    obtain ⟨w, w', hw, hw', rfl⟩ := h.framed
    rw [trimChars_framed hw hw', h.trimChars_self]
  · rintro rfl
    exact trims_trimChars cs

theorem decodeUtf8_encodeUtf8 (s : String) : decodeUtf8? (encodeUtf8 s) = some s := by
  have hbytes : (⟨(encodeUtf8 s).toArray⟩ : ByteArray) = s.toByteArray := by simp [encodeUtf8]
  rw [decodeUtf8?, hbytes, String.fromUTF8?, dif_pos (by simpa using s.isValidUTF8)]
  rfl

theorem encodeUtf8_eq (s : String) : encodeUtf8 s = s.toList.flatMap String.utf8EncodeChar := by
  rw [encodeUtf8, String.toUTF8, ← String.utf8Encode_toList, List.utf8Encode, List.data_toByteArray]

theorem encodeUtf8_of_decodeUtf8 (h : decodeUtf8? bytes = some s) : encodeUtf8 s = bytes := by
  unfold decodeUtf8? String.fromUTF8? at h
  split at h
  · obtain rfl := Option.some.inj h
    rfl
  · cases h

/-- The bytes of ASCII stand for themselves, and are no part of another character. -/
theorem mem_utf8EncodeChar {b : UInt8} (hb : b.toNat < 0x80) {c : Char} :
    b ∈ String.utf8EncodeChar c ↔ c.toNat = b.toNat := by
  have hv : c.toNat = c.val.toNat := rfl
  unfold String.utf8EncodeChar
  simp only [hv]
  split
  · simp only [List.mem_singleton, ← UInt8.toNat_inj, UInt8.toNat_ofNat']
    omega
  · split
    · simp only [List.mem_cons, ← UInt8.toNat_inj, UInt8.toNat_ofNat', List.not_mem_nil, or_false]
      omega
    · split
      · simp only [List.mem_cons, ← UInt8.toNat_inj, UInt8.toNat_ofNat', List.not_mem_nil, or_false]
        omega
      · simp only [List.mem_cons, ← UInt8.toNat_inj, UInt8.toNat_ofNat', List.not_mem_nil, or_false]
        omega

theorem mem_encodeUtf8 {c : Char} (hc : c.toNat < 0x80) :
    UInt8.ofNat c.toNat ∈ encodeUtf8 s ↔ c ∈ s.toList := by
  have hb : (UInt8.ofNat c.toNat).toNat = c.toNat := by simp; omega
  simp [encodeUtf8_eq, mem_utf8EncodeChar (by omega : (UInt8.ofNat c.toNat).toNat < 0x80), hb, Char.toNat_inj]

end ChatClient.Text
