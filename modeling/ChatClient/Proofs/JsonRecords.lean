import ChatClient.Proofs.JsonText
import Mathlib.Data.List.Forall2

/-!
Records and lists that are read from written JSON. How a record is filled is said by what each member does to
it, and what stands around the members is dealt with once. So it is with what holds of a record or of the items of
a list, whatever text they are read from.
-/
namespace ChatClient.Json

open Text (Piece)

variable {σ α : Type} {rest : List Piece}

/-- A record takes members one by one, whatever follows them. -/
inductive RecordReader.Takes (r : RecordReader σ) : σ → List (String × Value) → σ → Prop
  | nil : Takes r s [] s
  | cons (h : ∀ rest, EndsNumber rest → r.member s key (value.write.map .char ++ rest) = some (s', rest))
      (hs : Takes r s' ms s'') : Takes r s ((key, value) :: ms) s''

theorem RecordReader.Takes.readMembers {r : RecordReader σ} (h : r.Takes s ((key, value) :: ms) s')
    (hf : ms.length < fuel) :
    r.members fuel s ((writeMembers ((key, value) :: ms)).map .char ++ rest) = some (s', rest) := by
  induction ms generalizing s key value fuel with
  | nil =>
    obtain ⟨fuel, rfl⟩ := Nat.exists_eq_add_one_of_ne_zero (Nat.ne_of_gt hf)
    cases h with
    | cons hv hs =>
      cases hs
      rw [map_writeMembers_last, RecordReader.members]
      simp only [readString_writeString, readColon_cons, hv _ (endsNumber_brace rest), readSeparator_brace,
        Option.bind_eq_bind, Option.bind_some, Bool.false_eq_true, if_false]
  | cons next ms ih =>
    obtain ⟨fuel, rfl⟩ := Nat.exists_eq_add_one_of_ne_zero (Nat.ne_of_gt (Nat.zero_lt_of_lt hf))
    cases h with
    | cons hv hs =>
      have hmore := ih hs (Nat.lt_of_succ_lt_succ hf)
      rw [map_writeMembers_cons, RecordReader.members]
      simp only [readString_writeString, readColon_cons, hv _ (endsNumber_comma _), readSeparator_comma,
        Option.bind_eq_bind, Option.bind_some, if_true]
      exact hmore

theorem length_writeMembers (ms : List (String × Value)) : ms.length < (writeMembers ms).length := by
  induction ms with
  | nil => decide
  | cons m ms ih =>
    cases ms with
    | nil =>
      simp only [writeMembers, List.length_append, List.length_cons]
      omega
    | cons next ms =>
      simp only [writeMembers, List.length_append, List.length_cons] at ih ⊢
      omega

/-- What a record takes from members it takes from the object that has them. -/
theorem RecordReader.Takes.read {r : RecordReader σ} (h : r.Takes r.empty ms s) (rest : List Piece) :
    r.read ((Value.object ms).write.map .char ++ rest) = some (s, rest) := by
  rw [Value.write, List.map_cons, List.cons_append, RecordReader.read, skipSpace_cons rfl]
  cases ms with
  | nil =>
    cases h
    rfl
  | cons m ms =>
    obtain ⟨key, value⟩ := m
    obtain ⟨cs, hc⟩ := writeMembers_head key value ms
    have hopen : closesAtOnce '\x7d' ((writeMembers ((key, value) :: ms)).map .char ++ rest) = none := by
      rw [hc]
      exact closesAtOnce_cons rfl (by decide) _
    have hlen := length_writeMembers ((key, value) :: ms)
    have hfuel : ms.length < ((writeMembers ((key, value) :: ms)).map Piece.char ++ rest).length := by
      simp only [List.length_append, List.length_map, List.length_cons] at hlen ⊢
      omega
    simp only [hopen, h.readMembers hfuel]

variable {read : List Piece → Option (α × List Piece)} {R : Value → α → Prop}

/-- A whole text is one value. -/
theorem document?_eq (h : read input = some (a, [])) : document? read input = some a := by
  simp [document?, h, skipSpace]

/-! ### What holds of everything that is read -/

section Keeps

variable {r : RecordReader σ} {P : σ → Prop}

theorem RecordReader.members_keeps
    (hmember : ∀ s key input s' rest, P s → r.member s key input = some (s', rest) → P s') (hs : P s)
    (h : r.members fuel s input = some (s', rest)) : P s' := by
  induction fuel generalizing s input with
  | zero => cases h
  | succ fuel ih =>
    obtain ⟨⟨key, _⟩, -, h⟩ := Option.bind_eq_some_iff.mp h
    obtain ⟨value, -, h⟩ := Option.bind_eq_some_iff.mp h
    obtain ⟨⟨s₁, _⟩, hm, h⟩ := Option.bind_eq_some_iff.mp h
    obtain ⟨⟨more, _⟩, -, h⟩ := Option.bind_eq_some_iff.mp h
    have hs₁ := hmember s key value s₁ _ hs hm
    cases more with
    | true => exact ih hs₁ h
    | false =>
      cases h
      exact hs₁

theorem readPositions_keeps {reads : List (σ → List Piece → Option (σ × List Piece))}
    (hreads : ∀ read ∈ reads, ∀ s input s' rest, P s → read s input = some (s', rest) → P s') (hs : P s)
    (h : readPositions reads s input = some (s', rest)) : P s' := by
  induction reads generalizing s input with
  | nil => cases h
  | cons read reads ih =>
    have hfirst := hreads read (List.mem_cons_self ..)
    -- The last value is read like the others; only what has to follow it is different.
    cases reads with
    | nil =>
      obtain ⟨⟨s₁, _⟩, hr, h⟩ := Option.bind_eq_some_iff.mp h
      obtain ⟨⟨more, _⟩, -, h⟩ := Option.bind_eq_some_iff.mp h
      cases more with
      | true => cases h
      | false =>
        cases h
        exact hfirst s input _ _ hs hr
    | cons next reads =>
      obtain ⟨⟨s₁, _⟩, hr, h⟩ := Option.bind_eq_some_iff.mp h
      obtain ⟨⟨more, _⟩, -, h⟩ := Option.bind_eq_some_iff.mp h
      cases more with
      | true =>
        have hs₁ := hfirst s input _ _ hs hr
        exact ih (fun other hm => hreads other (List.mem_cons_of_mem _ hm)) hs₁ h
      | false => cases h

/-- What holds of the empty record, and is kept by each part that is put in, holds of the whole. -/
theorem RecordReader.read_keeps (hempty : P r.empty)
    (hmember : ∀ s key input s' rest, P s → r.member s key input = some (s', rest) → P s')
    (hposition : ∀ read ∈ r.positions, ∀ s input s' rest, P s → read s input = some (s', rest) → P s')
    (h : r.read input = some (s, rest)) : P s := by
  unfold RecordReader.read at h
  split at h
  · split at h
    · cases h
      exact hempty
    · exact members_keeps hmember hempty h
  · exact readPositions_keeps hposition hempty h
  · cases h

end Keeps

section All

variable {P : α → Prop} (hread : ∀ input a rest, read input = some (a, rest) → P a)

include hread

theorem readListWith_all (h : readListWith read fuel input = some (as, rest)) : ∀ a ∈ as, P a := by
  induction fuel generalizing input as rest with
  | zero => cases h
  | succ fuel ih =>
    obtain ⟨⟨item, _⟩, hi, h⟩ := Option.bind_eq_some_iff.mp h
    obtain ⟨⟨more, _⟩, -, h⟩ := Option.bind_eq_some_iff.mp h
    have hitem := hread input item _ hi
    cases more with
    | true =>
      obtain ⟨⟨items, _⟩, hl, h⟩ := Option.bind_eq_some_iff.mp h
      cases h
      exact List.forall_mem_cons.mpr ⟨hitem, ih hl⟩
    | false =>
      cases h
      exact List.forall_mem_singleton.mpr hitem

/-- What holds of each item that can be read holds of all in a list. -/
theorem readList_all (h : readList read input = some (as, rest)) : ∀ a ∈ as, P a := by
  unfold readList at h
  split at h
  · split at h
    · cases h
      simp
    · exact readListWith_all hread h
  · cases h

theorem document?_holds (h : document? read input = some a) : P a := by
  obtain ⟨⟨b, rest⟩, hb, h⟩ := Option.bind_eq_some_iff.mp h
  dsimp only at h
  split at h
  · cases h
    exact hread input _ rest hb
  · cases h

end All

end ChatClient.Json
