import ChatClient.Json.Reader
import ChatClient.Json.Writer
import ChatClient.Proofs.Numerals

/-!
How numbers are spelled in JSON. Whole numbers and floats are written in valid spellings, and a valid spelling is
scanned up to its end, whatever comes then that a number could not go on with.
-/
namespace ChatClient.Json

open Text (Piece digit? digitValue)

variable {ds : List Char} {rest : List Piece}

/-- If a character comes next, it is of a kind. -/
def Next (kind : Char → Prop) (input : List Piece) : Prop := ∀ c rest, input = .char c :: rest → kind c

theorem next_cons {kind : Char → Prop} (h : kind c) (rest : List Piece) : Next kind (.char c :: rest) := by
  rintro _ _ ⟨⟩
  exact h

/-- What comes next does not belong to a number that has come before it. -/
def EndsNumber (input : List Piece) : Prop :=
  Next (fun c => digit? c = none ∧ c ≠ '.' ∧ c ≠ 'e' ∧ c ≠ 'E') input

theorem endsNumber_comma (rest : List Piece) : EndsNumber (.char ',' :: rest) := next_cons (by decide) rest

theorem endsNumber_bracket (rest : List Piece) : EndsNumber (.char ']' :: rest) := next_cons (by decide) rest

theorem endsNumber_brace (rest : List Piece) : EndsNumber (.char '\x7d' :: rest) := next_cons (by decide) rest

theorem takeDigits_append (hd : ∀ c ∈ ds, c.isDigit = true) (hr : Next (digit? · = none) rest) :
    takeDigits (ds.map .char ++ rest) = (ds.map digitValue, rest) := by
  induction ds with
  | nil =>
    rw [List.map_nil, List.nil_append, takeDigits.eq_def]
    split
    · rename_i c input
      rw [hr c input rfl]
      rfl
    · rfl
  | cons d ds ih =>
    have hrest := ih fun c hc => hd c (List.mem_cons_of_mem _ hc)
    have hhead := Text.digit?_of_isDigit (hd d (List.mem_cons_self ..))
    simp [takeDigits, hhead, hrest]

/-- A number as it is spelled: the digits of its parts, and the signs. -/
structure Spelling where
  negative : Bool
  whole : List Char
  fraction : List Char
  exponent : Option (Bool × List Char)

namespace Spelling

def exponentChars : Option (Bool × List Char) → List Char
  | none => []
  | some (negative, ds) => 'e' :: (if negative then '-' else '+') :: ds

def fractionChars (ds : List Char) : List Char := if ds = [] then [] else '.' :: ds

theorem fractionChars_of_ne (h : ds ≠ []) : fractionChars ds = '.' :: ds := if_neg h

def chars (s : Spelling) : List Char :=
  (if s.negative then ['-'] else []) ++ (s.whole ++ (fractionChars s.fraction ++ exponentChars s.exponent))

/-- The digits are digits, and no zero stands in front of others. -/
structure Valid (s : Spelling) : Prop where
  whole : s.whole ≠ [] ∧ ∀ c ∈ s.whole, c.isDigit = true
  leading : s.whole = ['0'] ∨ s.whole.head? ≠ some '0'
  fraction : ∀ c ∈ s.fraction, c.isDigit = true
  exponent : ∀ negative ds, s.exponent = some (negative, ds) → ds ≠ [] ∧ ∀ c ∈ ds, c.isDigit = true

/-- What is scanned of a number. -/
def text (s : Spelling) : NumberText :=
  ⟨s.negative, s.whole.map digitValue, s.fraction.map digitValue,
    s.exponent.map fun (negative, ds) => (negative, ds.map digitValue)⟩

end Spelling

theorem takeDigits_ended (hd : ∀ c ∈ ds, c.isDigit = true) (hr : EndsNumber rest) :
    takeDigits (ds.map .char ++ rest) = (ds.map digitValue, rest) :=
  takeDigits_append hd fun c input hc => (hr c input hc).1

theorem scanWhole_append (hne : ds ≠ []) (hd : ∀ c ∈ ds, c.isDigit = true)
    (hlead : ds = ['0'] ∨ ds.head? ≠ some '0') (hr : Next (digit? · = none) rest) :
    scanWhole (ds.map .char ++ rest) = some (ds.map digitValue, rest) := by
  rw [scanWhole, takeDigits_append hd hr]
  rcases hlead with rfl | hlead
  · rfl
  · cases ds with
    | nil => exact absurd rfl hne
    | cons d ds =>
      have hpos : digitValue d ≠ 0 := by
        intro hz
        have h0 := (Text.digitValue_eq_zero (hd d (List.mem_cons_self ..))).mp hz
        exact hlead (congrArg some h0)
      simp only [List.map_cons]
      split <;> simp_all

theorem scanFraction_append (hd : ∀ c ∈ ds, c.isDigit = true)
    (hr : Next (fun c => digit? c = none ∧ c ≠ '.') rest) :
    scanFraction ((Spelling.fractionChars ds).map .char ++ rest) = some (ds.map digitValue, rest) := by
  unfold Spelling.fractionChars
  split
  · rename_i hds
    subst hds
    rw [List.map_nil, List.nil_append, scanFraction.eq_def]
    split
    · rename_i input
      exact absurd rfl (hr '.' input rfl).2
    · rfl
  · rename_i hne
    have ht := takeDigits_append hd fun c input hc => (hr c input hc).1
    have hne' : ds.map digitValue ≠ [] := by simpa using hne
    simp only [List.map_cons, List.cons_append, scanFraction, ht]

theorem scanExponent_append (h : ∀ negative ds, e = some (negative, ds) → ds ≠ [] ∧ ∀ c ∈ ds, c.isDigit = true)
    (hr : EndsNumber rest) :
    scanExponent ((Spelling.exponentChars e).map .char ++ rest) =
      some (e.map fun (negative, ds) => (negative, ds.map digitValue), rest) := by
  cases e with
  | none =>
    rw [Spelling.exponentChars, List.map_nil, List.nil_append, scanExponent.eq_def]
    split
    · rename_i c input
      obtain ⟨-, -, he, he'⟩ := hr c input rfl
      rw [if_neg (by simp [he, he'])]
      rfl
    · rfl
  | some p =>
    obtain ⟨negative, ds⟩ := p
    obtain ⟨hne, hd⟩ := h negative ds rfl
    have ht := takeDigits_ended hd hr
    have hne' : ds.map digitValue ≠ [] := by simpa using hne
    cases negative <;> simp [Spelling.exponentChars, scanExponent, ht]

theorem Spelling.next_exponent (e : Option (Bool × List Char)) (hr : EndsNumber rest) :
    Next (fun c => digit? c = none ∧ c ≠ '.') ((exponentChars e).map .char ++ rest) := by
  cases e with
  | none => exact fun c input hc => ⟨(hr c input hc).1, (hr c input hc).2.1⟩
  | some p => exact next_cons (by decide) _

theorem Spelling.next_fraction (ds : List Char) (hr : Next (fun c => digit? c = none ∧ c ≠ '.') rest) :
    Next (digit? · = none) ((fractionChars ds).map .char ++ rest) := by
  unfold fractionChars
  split
  · exact fun c input hc => (hr c input hc).1
  · exact next_cons (by decide) _

theorem scanNumber_unsigned (h : c ≠ '-') (rest : List Piece) :
    scanNumber (.char c :: rest) =
      (do
        let (whole, input) ← scanWhole (.char c :: rest)
        let (fraction, input) ← scanFraction input
        let (exponent, input) ← scanExponent input
        some (⟨false, whole, fraction, exponent⟩, input)) := by
  simp [scanNumber, h]

theorem scanNumber_chars {s : Spelling} (h : s.Valid) (hr : EndsNumber rest) :
    scanNumber (s.chars.map .char ++ rest) = some (s.text, rest) := by
  obtain ⟨negative, whole, fraction, exponent⟩ := s
  obtain ⟨⟨hne, hdigits⟩, hlead, hfraction, hexponent⟩ := h
  dsimp only at hne hdigits hlead hfraction hexponent
  have hnext := Spelling.next_exponent exponent hr
  have he := scanExponent_append hexponent hr
  have hf := scanFraction_append hfraction hnext
  have hw := scanWhole_append hne hdigits hlead (Spelling.next_fraction fraction hnext)
  cases negative with
  | true =>
    simp only [Spelling.chars, if_true, List.cons_append, List.nil_append, List.map_cons, List.map_append,
      List.append_assoc, scanNumber, hw, hf, he, Option.bind_eq_bind, Option.bind_some]
    rfl
  | false =>
    obtain ⟨d, ds, rfl⟩ := List.exists_cons_of_ne_nil hne
    have hdash : d ≠ '-' := by
      rintro rfl
      cases hdigits '-' (List.mem_cons_self ..)
    simp only [Spelling.chars, Bool.false_eq_true, if_false, List.nil_append, List.map_append,
      List.append_assoc]
    rw [List.map_cons, List.cons_append] at hw ⊢
    rw [scanNumber_unsigned hdash]
    simp only [hw, hf, he, Option.bind_eq_bind, Option.bind_some]
    rfl

/-- The spelling of a whole number. -/
def Spelling.ofInt (n : Int) : Spelling := ⟨n < 0, Nat.toDigits 10 n.natAbs, [], none⟩

theorem Spelling.valid_ofInt (n : Int) : (ofInt n).Valid where
  whole := ⟨Nat.toDigits_ne_nil, Text.isDigit_toDigits _⟩
  leading := by
    rcases Nat.eq_zero_or_pos n.natAbs with h | h
    · left
      rw [ofInt, h]
      rfl
    · exact .inr (Text.head?_toDigits h)
  fraction := by simp [ofInt]
  exponent := by simp [ofInt]

theorem writeInt_of_nonneg {n : Int} (h : 0 ≤ n) : writeInt n = Nat.toDigits 10 n.natAbs := by
  cases n with
  | ofNat n => rfl
  | negSucc n => cases h

theorem writeInt_of_neg {n : Int} (h : n < 0) : writeInt n = '-' :: Nat.toDigits 10 n.natAbs := by
  cases n with
  | ofNat n => exact absurd h (Int.not_lt.mpr (Int.natCast_nonneg n))
  | negSucc n => rfl

theorem writeInt_eq (n : Int) : writeInt n = (Spelling.ofInt n).chars := by
  rcases Int.lt_or_le n 0 with h | h
  · simp [writeInt_of_neg h, Spelling.ofInt, Spelling.chars, Spelling.fractionChars, Spelling.exponentChars, h]
  · simp [writeInt_of_nonneg h, Spelling.ofInt, Spelling.chars, Spelling.fractionChars, Spelling.exponentChars,
      Int.not_lt.mpr h]

/-- The spelling of digits that count a power of ten, with a point, an exponent or both. -/
def Spelling.ofDigits (ds : List Char) (exponent : Int) : Spelling :=
  let point : Int := ds.length + exponent
  if 0 ≤ exponent ∧ point ≤ 16 then ⟨false, ds ++ List.replicate exponent.toNat '0', ['0'], none⟩
  else if 0 < point ∧ point ≤ 16 then ⟨false, ds.take point.toNat, ds.drop point.toNat, none⟩
  else if -5 < point ∧ point ≤ 0 then ⟨false, ['0'], List.replicate (-point).toNat '0' ++ ds, none⟩
  else ⟨false, ds.take 1, ds.drop 1, some (point ≤ 0, Nat.toDigits 10 (point - 1).natAbs)⟩

theorem leads_take (hne : ds ≠ []) (hlead : ds.head? ≠ some '0') (hk : 0 < k) :
    ds.take k ≠ [] ∧ (ds.take k).head? ≠ some '0' := by
  have hk' : k ≠ 0 := Nat.ne_of_gt hk
  rw [List.head?_take, if_neg hk', Ne, List.take_eq_nil_iff]
  exact ⟨by simp [hk', hne], hlead⟩

theorem Spelling.valid_ofDigits (hne : ds ≠ []) (hd : ∀ c ∈ ds, c.isDigit = true)
    (hlead : ds.head? ≠ some '0') (exponent : Int) : (ofDigits ds exponent).Valid := by
  have hzeros (k : Nat) : ∀ c ∈ List.replicate k '0', c.isDigit = true := by
    intro c hc
    rw [List.eq_of_mem_replicate hc]
    rfl
  have happend {cs cs' : List Char} (h : ∀ c ∈ cs, c.isDigit = true) (h' : ∀ c ∈ cs', c.isDigit = true) :
      ∀ c ∈ cs ++ cs', c.isDigit = true := by
    intro c hc
    rcases List.mem_append.mp hc with hc | hc
    · exact h c hc
    · exact h' c hc
  have htaken (k : Nat) : ∀ c ∈ ds.take k, c.isDigit = true := fun c hc => hd c (List.mem_of_mem_take hc)
  have hdropped (k : Nat) : ∀ c ∈ ds.drop k, c.isDigit = true := fun c hc => hd c (List.mem_of_mem_drop hc)
  have hnone : ∀ (negative : Bool) (cs : List Char), none = some (negative, cs) →
      cs ≠ [] ∧ ∀ c ∈ cs, c.isDigit = true := by
    rintro _ _ ⟨⟩
  unfold ofDigits
  dsimp only
  split
  · refine ⟨⟨by simp [hne], happend hd (hzeros _)⟩, .inr ?_, by simp, hnone⟩
    obtain ⟨d, cs, rfl⟩ := List.exists_cons_of_ne_nil hne
    exact hlead
  · split
    · obtain ⟨hne', hlead'⟩ := leads_take hne hlead (k := (ds.length + exponent).toNat) (by omega)
      exact ⟨⟨hne', htaken _⟩, .inr hlead', hdropped _, hnone⟩
    · split
      · exact ⟨⟨by simp, by simp⟩, .inl rfl, happend (hzeros _) hd, hnone⟩
      · obtain ⟨hne', hlead'⟩ := leads_take hne hlead (k := 1) (by decide)
        refine ⟨⟨hne', htaken _⟩, .inr hlead', hdropped _, ?_⟩
        rintro _ _ ⟨⟩
        exact ⟨Nat.toDigits_ne_nil, Text.isDigit_toDigits _⟩

theorem Spelling.exponentChars_point (point : Int) :
    exponentChars (some (decide (point ≤ 0), Nat.toDigits 10 (point - 1).natAbs)) =
      'e' :: (if 0 < point then '+' :: writeInt (point - 1) else writeInt (point - 1)) := by
  by_cases hp : 0 < point
  · have hp' : ¬ point ≤ 0 := Int.not_le.mpr hp
    have hw : writeInt (point - 1) = Nat.toDigits 10 (point - 1).natAbs := writeInt_of_nonneg (by omega)
    simp [exponentChars, hp, hp', hw]
  · have hp' : point ≤ 0 := Int.not_lt.mp hp
    have hw : writeInt (point - 1) = '-' :: Nat.toDigits 10 (point - 1).natAbs := writeInt_of_neg (by omega)
    simp [exponentChars, hp, hp', hw]

theorem chars_ofDigits (hne : ds ≠ []) (exponent : Int) :
    let point : Int := ds.length + exponent
    (Spelling.ofDigits ds exponent).chars =
      if 0 ≤ exponent ∧ point ≤ 16 then ds ++ List.replicate exponent.toNat '0' ++ ['.', '0']
      else if 0 < point ∧ point ≤ 16 then ds.take point.toNat ++ '.' :: ds.drop point.toNat
      else if -5 < point ∧ point ≤ 0 then ['0', '.'] ++ List.replicate (-point).toNat '0' ++ ds
      else ds.take 1 ++ (if ds.length = 1 then [] else '.' :: ds.drop 1) ++
        'e' :: (if 0 < point then '+' :: writeInt (point - 1) else writeInt (point - 1)) := by
  intro point
  have hlen := List.length_pos_iff.mpr hne
  unfold Spelling.ofDigits
  dsimp only
  split
  · have hzero : (['0'] : List Char) ≠ [] := by decide
    simp only [Spelling.chars, Spelling.fractionChars_of_ne hzero, Spelling.exponentChars, Bool.false_eq_true,
      if_false, List.nil_append, List.append_nil]
  · split
    · have hdrop : ds.drop (ds.length + exponent).toNat ≠ [] := by
        rw [Ne, List.drop_eq_nil_iff]
        omega
      simp only [Spelling.chars, Spelling.fractionChars_of_ne hdrop, Spelling.exponentChars, Bool.false_eq_true,
        if_false, List.nil_append, List.append_nil, point]
    · split
      · have hfull : List.replicate (-(ds.length + exponent)).toNat '0' ++ ds ≠ [] :=
          List.append_ne_nil_of_right_ne_nil _ hne
        simp only [Spelling.chars, Spelling.fractionChars_of_ne hfull, Spelling.exponentChars,
          Bool.false_eq_true, if_false, List.nil_append, List.append_nil, List.cons_append, point]
      · have hone : ds.drop 1 = [] ↔ ds.length = 1 := by
          rw [List.drop_eq_nil_iff]
          omega
        have hfraction : Spelling.fractionChars (ds.drop 1) =
            if ds.length = 1 then [] else '.' :: ds.drop 1 := by
          simp only [Spelling.fractionChars, hone]
        simp only [Spelling.chars, hfraction, Spelling.exponentChars_point, Bool.false_eq_true, if_false,
          List.nil_append, List.append_assoc, point]

theorem Spelling.negative_ofDigits (ds : List Char) (exponent : Int) :
    (ofDigits ds exponent).negative = false := by
  unfold ofDigits
  dsimp only
  split
  · rfl
  · split
    · rfl
    · split <;> rfl

/-- A spelling without a sign may be given one. -/
theorem Spelling.signed {s : Spelling} (h : s.Valid) (hs : s.negative = false) (p : Prop) [Decidable p] :
    ∃ s' : Spelling, s'.Valid ∧ s'.chars = (if p then [] else ['-']) ++ s.chars := by
  refine ⟨{ s with negative := !decide p }, ⟨h.whole, h.leading, h.fraction, h.exponent⟩, ?_⟩
  by_cases hp : p <;> simp [chars, hs, hp]

theorem writeFloat_spelled (f : Float) : ∃ s : Spelling, s.Valid ∧ writeFloat f = s.chars := by
  unfold writeFloat
  rcases Decimal.shortestDigits f.abs with ⟨n, exponent⟩
  dsimp only
  by_cases hn : n = 0
  · have hvalid : Spelling.Valid ⟨false, ['0'], ['0'], none⟩ := ⟨by simp, .inl rfl, by simp, by simp⟩
    obtain ⟨s, hs, hchars⟩ := Spelling.signed hvalid rfl (f.toBits.toNat < Text.limit 63)
    refine ⟨s, hs, ?_⟩
    rw [hchars, if_pos hn]
    rfl
  · have hne : Nat.toDigits 10 n ≠ [] := Nat.toDigits_ne_nil
    have hvalid := Spelling.valid_ofDigits hne (Text.isDigit_toDigits n)
      (Text.head?_toDigits (Nat.pos_of_ne_zero hn)) exponent
    obtain ⟨s, hs, hchars⟩ := Spelling.signed hvalid (Spelling.negative_ofDigits _ _)
      (f.toBits.toNat < Text.limit 63)
    refine ⟨s, hs, ?_⟩
    rw [hchars, chars_ofDigits hne, if_neg hn]

/-- Every number is written in a valid spelling. -/
theorem Number.write_spelled (n : Number) : ∃ s : Spelling, s.Valid ∧ n.write = s.chars := by
  cases n with
  | integer n => exact ⟨.ofInt n, Spelling.valid_ofInt n, writeInt_eq n⟩
  | float f => exact writeFloat_spelled f

theorem Spelling.exists_head {s : Spelling} (h : s.Valid) :
    ∃ c cs, s.chars = c :: cs ∧ (c = '-' ∨ c.isDigit = true) := by
  obtain ⟨d, ds, hds⟩ := List.exists_cons_of_ne_nil h.whole.1
  cases hn : s.negative with
  | true => exact ⟨'-', _, by simp only [chars, hn]; rfl, .inl rfl⟩
  | false =>
    refine ⟨d, _, by simp only [chars, hn, hds]; rfl, .inr ?_⟩
    exact h.whole.2 d (hds ▸ List.mem_cons_self ..)

/-! ### Whole numbers that are read -/

theorem le_foldl_digits (digits : List Nat) (n : Nat) : n ≤ digits.foldl (fun n d => n * 10 + d) n := by
  induction digits generalizing n with
  | nil => exact Nat.le_refl n
  | cons d digits ih => exact Nat.le_trans (by omega) (ih (n * 10 + d))

/-- Digits are gathered to their value if it fits. -/
theorem gather_fits {digits : List Nat} (h : digits.foldl (fun n d => n * 10 + d) n < Text.limit64) :
    gather n digits = (digits.foldl (fun n d => n * 10 + d) n, []) := by
  induction digits generalizing n with
  | nil => rfl
  | cons d digits ih =>
    have hfits : n * 10 + d < Text.limit64 := Nat.lt_of_le_of_lt (le_foldl_digits digits (n * 10 + d)) h
    rw [gather, if_pos hfits, ih h]
    rfl

theorem gather_toDigits (h : n < Text.limit64) :
    gather 0 ((Nat.toDigits 10 n).map digitValue) = (n, []) := by
  have hvalue : ((Nat.toDigits 10 n).map digitValue).foldl (fun n d => n * 10 + d) 0 = n := by
    rw [Text.foldl_digitValue, Nat.ofDigitChars_ten_toDigits]
  rw [gather_fits (by rw [hvalue]; exact h), hvalue]

/-- A whole number that fits sixty-four bits, with or without a sign, is read as itself and not as a float. -/
theorem Spelling.value?_ofInt {n : Int} (hlow : -(Text.limit 63 : Int) ≤ n) (hhigh : n < Text.limit64) :
    (ofInt n).text.value? = some (.integer n) := by
  have hlimit : Text.limit 63 < Text.limit64 := by decide
  have hgather := gather_toDigits (n := n.natAbs) (by omega)
  unfold NumberText.value? ofInt text
  generalize hm : n.natAbs = m at hgather ⊢
  simp only [hgather]
  rcases Int.lt_or_le n 0 with hn | hn
  · have hne : m ≠ 0 := by omega
    have hle : m ≤ Text.limit 63 := by omega
    have hsign : -(m : Int) = n := by omega
    simp [hn, hne, hle, hsign]
  · have hsign : (m : Int) = n := by omega
    simp [Int.not_lt.mpr hn, hsign]

end ChatClient.Json
