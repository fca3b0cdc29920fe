import ChatClient.Proofs.Places
import ChatClient.Proofs.Texts
import ChatClient.Url.Domain

/-!
No host name has a colon in it. A colon may not stand in the one form of a name, and nothing that is done to
a name on the way there takes one away: percent signs that are read, characters that are mapped, put in order
and put together, and labels that are encoded leave the characters of ASCII up to the colon where they are.
-/
namespace ChatClient

namespace Text

/-! ### Normal form -/

/-- Whether all that belongs to the characters of a row lies above a code point. -/
def Row.above (bound : Nat) (r : Row) : Bool :=
  match r.content with
  | .nothing => true
  | .same codes | .moving codes | .each codes => codes.all (bound < ·)
  | .successor => bound ≤ r.low

theorem Row.above_codes {r : Row} (ha : r.above bound = true) (h : r.codes? place = some codes) :
    ∀ code ∈ codes, bound < code := by
  unfold Row.codes? at h
  split at h
  · cases h
  · rename_i hholds
    unfold Row.above at ha
    cases hc : r.content <;> simp only [hc] at h ha
    case nothing =>
      obtain rfl := Option.some.inj h
      simp
    case same own =>
      obtain rfl := Option.some.inj h
      simpa using ha
    case moving own =>
      obtain rfl := Option.some.inj h
      have hown : ∀ code ∈ own, bound < code := by simpa using ha
      intro code hm
      rcases List.mem_append.mp hm with hm | hm
      · exact hown code (List.dropLast_subset _ hm)
      · obtain ⟨last, hl, rfl⟩ := List.mem_map.mp hm
        have hlast : bound < last := hown last (List.mem_of_getLast? (by simpa using hl))
        exact Nat.lt_of_lt_of_le hlast (Nat.le_add_right ..)
    case successor =>
      have hr : r.low ≤ place ∧ place ≤ r.high := by simpa [Row.holds] using hholds
      have hb : bound ≤ r.low := by simpa using ha
      split at h
      · obtain rfl := Option.some.inj h
        simp
        omega
      · cases h
    case each own =>
      have hown : ∀ code ∈ own, bound < code := by simpa using ha
      obtain ⟨code, hm, rfl⟩ := Option.map_eq_some_iff.mp h
      simpa using hown code (List.mem_of_getElem? hm)

def lineAbove (bound : Nat) (line : String) : Bool :=
  ((cutAll ' ' line.toList).map readRow).all (Row.above bound)

theorem lineAbove_ofList (h : ((cutAll ' ' cs).map readRow).all (Row.above bound) = true) :
    lineAbove bound (String.ofList cs) = true := by
  rwa [lineAbove, String.toList_ofList]

theorem table_above {lines : List String} (h : ∀ line ∈ lines, lineAbove bound line = true) :
    ∀ r ∈ table lines, r.above bound = true := by
  intro r hr
  obtain ⟨line, hl, hm⟩ := List.mem_flatMap.mp hr
  exact List.all_eq_true.mp (h line hl) r hm

/-- Nothing up to the colon is part of a character that is made up of others. -/
theorem composites_above : ∀ r ∈ composites, r.above 0x3A = true := by
  apply table_above
  -- A line is looked at as its characters: reading them out of the text would take longer than the rest.
  repeat' refine List.forall_mem_cons.mpr ⟨lineAbove_ofList ?_, ?_⟩
  all_goals decide +kernel

theorem syllable?_above (h : syllable? a b = some code) : 0x3A < a ∧ 0x3A < b := by
  unfold syllable? at h
  split at h
  · rename_i hc
    simp only [firstConsonants, vowels] at hc
    omega
  · split at h
    · rename_i hc
      simp only [syllables, lastConsonants] at hc
      omega
    · cases h

theorem composite?_above (h : composite? a b = some code) : 0x3A < a ∧ 0x3A < b := by
  unfold composite? at h
  cases hs : syllable? a b with
  | some syllable => exact syllable?_above hs
  | none =>
    have hcode : composites.code? [a, b] = some code := by simpa [hs] using h
    obtain ⟨r, hr, hfind⟩ := List.exists_of_findSome?_eq_some hcode
    have hcodes : r.codes? code = some [a, b] := by simpa using List.find?_some hfind
    simpa using Row.above_codes (composites_above r hr) hcodes

theorem mem_placeMark : x ∈ placeMark code codes ↔ x = code ∨ x ∈ codes := by
  induction codes with
  | nil => simp [placeMark]
  | cons next rest ih =>
    rw [placeMark]
    split
    · simp only [List.mem_cons, ih]
      exact or_left_comm
    · simp

theorem mem_decomposed : x ∈ decomposed cs ↔ ∃ c ∈ cs, x ∈ parts c := by
  rw [decomposed, ← List.mem_flatMap]
  induction cs.flatMap parts with
  | nil => simp
  | cons code codes ih => rw [List.foldr_cons, mem_placeMark, ih, List.mem_cons]

/-- What is added stays, unless it or what it is added to makes up another character. -/
theorem Composition.mem_add {s : Composition} (hx : x ≤ 0x3A) (h : x ∈ s.codes ∨ x = code) :
    x ∈ (s.add code).codes := by
  unfold Composition.add
  simp only
  split
  · rename_i made hmade
    obtain ⟨base, hbase, hc⟩ := Option.bind_eq_some_iff.mp hmade
    have habove : 0x3A < base ∧ 0x3A < code := by
      split at hc
      · exact composite?_above hc
      · cases hc
    have hstays : x ∈ s.marks ∨ x ∈ s.before := by
      rcases h with h | rfl
      · have hm : x ∈ s.marks ∨ x = base ∨ x ∈ s.before := by simpa [codes, hbase] using h
        exact hm.imp_right fun hr => hr.resolve_left (by omega)
      · omega
    simp only [codes, List.mem_append]
    exact hstays.imp_left .inl
  · split
    · simpa [codes, or_comm] using h
    · simpa [codes, or_comm, or_assoc] using h

theorem Composition.mem_foldl (hx : x ≤ 0x3A) {added : List Nat} {s : Composition}
    (h : x ∈ s.codes ∨ x ∈ added) :
    x ∈ (added.foldl Composition.add s).codes := by
  induction added generalizing s with
  | nil => simpa using h
  | cons code added ih =>
    rw [List.foldl_cons]
    rcases h with h | h
    · exact ih (.inl (mem_add hx (.inl h)))
    · rcases List.mem_cons.mp h with rfl | h
      · exact ih (.inl (mem_add hx (.inr rfl)))
      · exact ih (.inr h)

theorem mem_parts {c : Char} (hc : c.toNat < 0x80) : c.toNat ∈ parts c := by
  rw [parts, if_pos hc]
  exact List.mem_singleton_self _

theorem mem_normalForm {c : Char} (hc : c.toNat ≤ 0x3A) (h : c ∈ cs) : c ∈ normalForm cs := by
  have hparts : c.toNat ∈ decomposed cs := mem_decomposed.mpr ⟨c, h, mem_parts (by omega)⟩
  refine List.mem_map.mpr ⟨c.toNat, ?_, Char.ofNat_toNat c⟩
  exact List.mem_reverse.mpr (Composition.mem_foldl hc (.inr hparts))

theorem mem_mapM {f : α → Option β} {l : List α} (h : l.mapM f = some bs) (ha : a ∈ l) :
    ∃ b ∈ bs, f a = some b := by
  induction l generalizing bs with
  | nil => cases ha
  | cons d l ih =>
    rw [List.mapM_cons] at h
    obtain ⟨b, hb, h⟩ := Option.bind_eq_some_iff.mp h
    obtain ⟨rest, hrest, h⟩ := Option.bind_eq_some_iff.mp h
    obtain rfl := Option.some.inj h
    rcases List.mem_cons.mp ha with rfl | ha
    · exact ⟨b, List.mem_cons_self .., hb⟩
    · obtain ⟨b', hb', hf⟩ := ih hrest ha
      exact ⟨b', List.mem_cons_of_mem _ hb', hf⟩

theorem mem_intercalate {sep : List α} (hx : x ∉ sep) : x ∈ sep.intercalate ls ↔ ∃ l ∈ ls, x ∈ l := by
  induction ls with
  | nil => simp
  | cons l ls ih =>
    cases ls with
    | nil => simp
    | cons next rest =>
      rw [List.intercalate_cons_cons, List.mem_append, List.mem_append, ih]
      simp [hx]

theorem mem_cutAll [DecidableEq α] {c d : α} {l : List α} (hd : d ∈ l) (hne : d ≠ c) :
    ∃ part ∈ cutAll c l, d ∈ part := by
  have hl : [c].intercalate (cutAll c l) = l := by rw [cutAll_eq_splitOn, List.intercalate_splitOn]
  rw [← hl] at hd
  exact (mem_intercalate (by simpa using hne)).mp hd

end Text

namespace Url

open Text (hexDigit? encodeUtf8 decodeUtf8?)

theorem mem_unescapeBytes (hp : b ≠ 0x25) (hd : hexDigit? (Char.ofNat b.toNat) = none) (h : b ∈ bytes) :
    b ∈ unescapeBytes bytes := by
  fun_induction unescapeBytes bytes with
  | case1 d e rest high low hlow hhigh ih =>
    -- Neither the sign nor one of the digits behind it is this byte.
    have hne : b ≠ d ∧ b ≠ e := by
      refine ⟨?_, ?_⟩ <;> rintro rfl
      · simp [hd] at hhigh
      · simp [hd] at hlow
    have hrest : b ∈ rest := by simpa [hp, hne] using h
    exact List.mem_cons_of_mem _ (ih hrest)
  | case2 d e rest hnone ih =>
    rcases List.mem_cons.mp h with rfl | h
    · exact absurd rfl hp
    · exact List.mem_cons_of_mem _ (ih h)
  | case3 a d e rest ha ih =>
    rcases List.mem_cons.mp h with rfl | h
    · exact List.mem_cons_self ..
    · exact List.mem_cons_of_mem _ (ih h)
  | case4 => exact h

namespace Punycode

theorem written_pass (basic n : Nat) (p : Progress) (c : Char) :
    p.written <+: (p.pass basic n c).written := by
  unfold Progress.pass
  split
  · exact List.prefix_rfl
  · split
    · exact List.prefix_append ..
    · exact List.prefix_rfl

theorem written_foldl_pass (basic n : Nat) (cs : List Char) (p : Progress) :
    p.written <+: (cs.foldl (Progress.pass basic n) p).written := by
  induction cs generalizing p with
  | nil => exact List.prefix_rfl
  | cons c cs ih => exact (written_pass basic n p c).trans (ih _)

theorem written_writeCodes (cs : List Char) (basic n : Nat) (p : Progress) (codes : List Nat) :
    p.written <+: writeCodes cs basic n p codes := by
  induction codes generalizing n p with
  | nil => exact List.prefix_rfl
  | cons code codes ih =>
    have hpass := written_foldl_pass basic code cs { p with delta := p.delta + (code - n) * (p.count + 1) }
    rw [writeCodes]
    generalize cs.foldl _ _ = passed at hpass ⊢
    exact hpass.trans (ih (code + 1) { passed with delta := passed.delta + 1 })

/-- The ASCII characters of a label are written as they are. -/
theorem mem_encode {c : Char} (hc : c.toNat < 0x80) (h : c ∈ cs) : c ∈ encode cs := by
  refine (written_writeCodes ..).subset ?_
  have hbasic : c ∈ cs.filter (·.toNat < 0x80) := by simp [h, hc]
  simp only
  split
  · rename_i hempty
    simp [List.isEmpty_iff.mp hempty] at hbasic
  · exact List.mem_append_left _ hbasic

end Punycode

namespace Domain

variable {c : Char}

theorem mapChar_low (hc : c.toNat ≤ 0x3A) : mapChar c = some [c] := by
  have hcapital : ¬ (c.val ≥ 'A'.val ∧ c.val ≤ 'Z'.val) := by
    rintro ⟨hle, -⟩
    have h65 : 65 ≤ c.toNat := UInt32.le_iff_toNat_le.mp hle
    omega
  have hlower : c.toLower = c := dif_neg hcapital
  rw [mapChar, if_pos (by omega), hlower]

theorem mem_mapped (h : mapped? cs = some ds) (hc : c.toNat ≤ 0x3A) (hm : c ∈ cs) : c ∈ ds := by
  obtain ⟨parts, hparts, h⟩ := Option.bind_eq_some_iff.mp h
  obtain rfl := Option.some.inj h
  have hpart : c ∈ (cs.flatMap Text.parts).map Char.ofNat :=
    List.mem_map.mpr ⟨c.toNat, List.mem_flatMap.mpr ⟨c, hm, Text.mem_parts (by omega)⟩, Char.ofNat_toNat c⟩
  obtain ⟨part, hp, hmap⟩ := Text.mem_mapM hparts hpart
  obtain rfl := Option.some.inj ((mapChar_low hc).symm.trans hmap)
  exact Text.mem_normalForm hc (List.mem_flatten.mpr ⟨[c], hp, List.mem_singleton_self c⟩)

theorem mem_label (h : label? cs = some l) (hc : c.toNat < 0x80) (hm : c ∈ cs) : c ∈ l.ascii := by
  unfold label? at h
  split at h
  · rename_i hmark
    have hcs : mark ++ cs.drop 4 = cs := List.prefix_iff_eq_append.mp (List.isPrefixOf_iff_prefix.mp hmark)
    unfold markedLabel? at h
    split at h
    · cases h
    · obtain ⟨text, -, h⟩ := Option.bind_eq_some_iff.mp h
      split at h
      · cases h
      · obtain rfl := Option.some.inj h
        exact hcs ▸ hm
  · split at h
    · obtain rfl := Option.some.inj h
      exact hm
    · split at h
      · cases h
      · obtain rfl := Option.some.inj h
        exact List.mem_append_right _ (Punycode.mem_encode hc hm)

theorem mem_foreign (h : foreign? cs = some name) (hc : c.toNat < 0x80) (hne : c ≠ '.') (hm : c ∈ cs) :
    c ∈ name := by
  obtain ⟨labels, hlabels, h⟩ := Option.bind_eq_some_iff.mp h
  obtain ⟨part, hpart, hin⟩ := Text.mem_cutAll hm hne
  obtain ⟨l, hl, hlabel⟩ := Text.mem_mapM hlabels hpart
  split at h
  · obtain rfl := Option.some.inj h
    exact (Text.mem_intercalate (by simpa using hne)).mpr
      ⟨l.ascii, List.mem_map_of_mem hl, mem_label hlabel hc hin⟩
  · cases h

theorem ascii?_noColon (h : ascii? s = some name) : ':' ∉ s.toList := by
  intro hm
  have hrefused : ∀ cs : List Char, ':' ∈ cs →
      (if cs.any isForbidden = true then none else some (String.ofList cs)) ≠ some name := by
    intro cs hcs
    have hany : cs.any isForbidden = true := List.any_eq_true.mpr ⟨':', hcs, by decide⟩
    simp only [hany, if_true]
    exact nofun
  unfold ascii? at h
  simp only at h
  split at h
  · obtain ⟨lower, hlower, h⟩ := Option.bind_eq_some_iff.mp h
    obtain rfl := Option.some.inj hlower
    exact hrefused _ (List.mem_map.mpr ⟨':', hm, rfl⟩) h
  · obtain ⟨cs, hcs, h⟩ := Option.bind_eq_some_iff.mp h
    obtain ⟨ds, hmapped, hforeign⟩ := Option.bind_eq_some_iff.mp hcs
    have hin : ':' ∈ cs :=
      mem_foreign hforeign (by decide) (by decide) (mem_mapped hmapped (by decide) hm)
    exact hrefused cs hin h

/-- No text with a colon in it is a host name, in whatever script it is. -/
theorem parse_noColon {host : List Char} (h : parse host = .ok name) : ':' ∉ host := by
  intro hm
  have hbyte : (0x3A : UInt8) ∈ unescapeBytes (encodeUtf8 (String.ofList host)) := by
    refine mem_unescapeBytes (by decide) (by decide) ?_
    exact (Text.mem_encodeUtf8 (c := ':') (by decide)).mpr (by simpa using hm)
  unfold parse at h
  simp only at h
  split at h
  · rename_i hname
    obtain ⟨s, hs, hascii⟩ := Option.bind_eq_some_iff.mp hname
    rw [← Text.encodeUtf8_of_decodeUtf8 hs] at hbyte
    have hcolon : ':' ∈ s.toList := (Text.mem_encodeUtf8 (c := ':') (by decide)).mp hbyte
    exact ascii?_noColon hascii hcolon
  · cases h

end Domain

end Url

end ChatClient
