import ChatClient.Text.Blank
import ChatClient.Text.Number
import Mathlib.Algebra.Group.Nat.Defs

/-!
Numbers that have been written in decimal digits: what the digits are worth, and what zeros in front of them
change.
-/
namespace ChatClient.Text

/-- What a digit is worth. -/
def digitValue (c : Char) : Nat := c.toNat - '0'.toNat

theorem digit?_of_isDigit {c : Char} (h : c.isDigit = true) : digit? c = some (digitValue c) := by
  have hc : '0' ≤ c ∧ c ≤ '9' := by
    simpa [Char.isDigit, Char.le_def, UInt32.le_iff_toNat_le] using h
  simp [digit?, hc, digitValue]

theorem digit?_lt (h : digit? c = some d) : d < 10 := by
  unfold digit? at h
  split at h
  · rename_i hc
    obtain rfl := Option.some.inj h
    have hle : c.toNat ≤ '9'.toNat := by simpa [Char.le_def, UInt32.le_iff_toNat_le] using hc.2
    have h9 : '9'.toNat = 57 := rfl
    have h0 : '0'.toNat = 48 := rfl
    omega
  · cases h

theorem digitValue_eq_zero {c : Char} (h : c.isDigit = true) : digitValue c = 0 ↔ c = '0' := by
  have hc : 48 ≤ c.toNat := by
    have hr : 48 ≤ c.toNat ∧ c.toNat ≤ 57 := by simpa [Char.isDigit, UInt32.le_iff_toNat_le] using h
    exact hr.1
  constructor
  · intro hz
    have h0 : c.toNat = '0'.toNat := Nat.le_antisymm (Nat.sub_eq_zero_iff_le.mp hz) hc
    exact Char.toNat_inj.mp h0
  · rintro rfl
    rfl

theorem isBlankChar_of_isDigit {c : Char} (h : c.isDigit = true) : isBlankChar c = false := by
  have hc : 48 ≤ c.toNat ∧ c.toNat ≤ 57 := by
    simpa [Char.isDigit, UInt32.le_iff_toNat_le] using h
  simp [isBlankChar, blankRanges]
  omega

theorem foldl_digitValue (cs : List Char) (n : Nat) :
    (cs.map digitValue).foldl (fun n d => n * 10 + d) n = Nat.ofDigitChars 10 cs n := by
  rw [Nat.ofDigitChars_eq_foldl, List.foldl_map]
  simp only [Nat.mul_comm, digitValue]

theorem foldl_digits_lt {ds : List Nat} (hd : ∀ d ∈ ds, d < 10) (n : Nat) :
    ds.foldl (fun n d => n * 10 + d) n < (n + 1) * 10 ^ ds.length := by
  induction ds generalizing n with
  | nil => simp
  | cons d ds ih =>
    have h10 : d < 10 := hd d (List.mem_cons_self ..)
    have hrest := ih (fun e he => hd e (List.mem_cons_of_mem _ he)) (n * 10 + d)
    calc ds.foldl (fun n d => n * 10 + d) (n * 10 + d)
      _ < (n * 10 + d + 1) * 10 ^ ds.length := hrest
      _ ≤ ((n + 1) * 10) * 10 ^ ds.length := Nat.mul_le_mul_right _ (by omega)
      _ = (n + 1) * 10 ^ (ds.length + 1) := by rw [Nat.pow_succ, Nat.mul_assoc, Nat.mul_comm 10]

theorem toList_toString (n : Nat) : (toString n).toList = Nat.toDigits 10 n := by
  rw [Nat.toString_eq_ofList_toDigits, String.toList_ofList]

theorem isDigit_toDigits (n : Nat) : ∀ c ∈ Nat.toDigits 10 n, c.isDigit = true :=
  fun _ hc => Nat.isDigit_of_mem_toDigits (by decide) (by decide) hc

/-- No zero stands in front of a number but zero. -/
theorem head?_toDigits {n : Nat} (h : 0 < n) : (Nat.toDigits 10 n).head? ≠ some '0' := by
  induction n using Nat.strongRecOn with
  | ind n ih =>
    by_cases hn : n < 10
    · rw [Nat.toDigits_of_lt_base hn]
      have hdigit : ∀ n < 10, 0 < n → n.digitChar ≠ '0' := by decide
      simpa using hdigit n hn h
    · have hrest := ih (n / 10) (by omega) (by omega)
      rw [Nat.toDigits_of_base_le (by decide) (by omega)]
      cases hd : Nat.toDigits 10 (n / 10) with
      | nil => exact absurd hd Nat.toDigits_ne_nil
      | cons d ds =>
        rw [hd] at hrest
        exact hrest

theorem hexDigit?_of_isDigit {c : Char} (h : c.isDigit = true) : hexDigit? c = some (digitValue c) := by
  have hc : '0' ≤ c ∧ c ≤ '9' := by
    simpa [Char.isDigit, Char.le_def, UInt32.le_iff_toNat_le] using h
  simp [hexDigit?, hc, digitValue]

theorem digitsFrom?_of_isDigit (h : ∀ c ∈ cs, c.isDigit = true) (n : Nat) :
    digitsFrom? 10 n cs = some (Nat.ofDigitChars 10 cs n) := by
  induction cs generalizing n with
  | nil => rfl
  | cons c cs ih =>
    obtain ⟨hc, hcs⟩ := List.forall_mem_cons.mp h
    have hlt : digitValue c < 10 := digit?_lt (digit?_of_isDigit hc)
    have hstep : Nat.ofDigitChars 10 (c :: cs) n = Nat.ofDigitChars 10 cs (n * 10 + digitValue c) := by
      rw [Nat.ofDigitChars_cons, Nat.mul_comm 10, digitValue]
    rw [digitsFrom?, hexDigit?_of_isDigit hc, hstep, ← ih hcs]
    simp [hlt]

/-- The digits of a number read as the number. -/
theorem digitsFrom?_toDigits (n : Nat) : digitsFrom? 10 0 (Nat.toDigits 10 n) = some n := by
  rw [digitsFrom?_of_isDigit (isDigit_toDigits n), Nat.ofDigitChars_ten_toDigits]

theorem toList_padLeft (width : Nat) (fill : Char) (s : String) :
    (padLeft width fill s).toList = List.replicate (width - s.toList.length) fill ++ s.toList := by
  simp [padLeft]

/-- The digits of a number with zeros in front. -/
def numeral (width n : Nat) : List Char := (padLeft width '0' (toString n)).toList

theorem numeral_eq (width n : Nat) :
    numeral width n = List.replicate (width - (Nat.toDigits 10 n).length) '0' ++ Nat.toDigits 10 n := by
  rw [numeral, toList_padLeft, toList_toString]

theorem isDigit_of_mem_numeral (h : c ∈ numeral width n) : c.isDigit = true := by
  rw [numeral_eq, List.mem_append] at h
  rcases h with h | h
  · rw [List.eq_of_mem_replicate h]
    rfl
  · exact isDigit_toDigits n c h

theorem ofDigitChars_numeral (width n : Nat) : Nat.ofDigitChars 10 (numeral width n) 0 = n := by
  rw [numeral_eq, Nat.ofDigitChars_append, Nat.ofDigitChars_replicate_zero, Nat.mul_zero,
    Nat.ofDigitChars_ten_toDigits]

theorem length_numeral (h0 : 0 < width) (h : n < 10 ^ width) : (numeral width n).length = width := by
  have hl : (Nat.toDigits 10 n).length ≤ width := (Nat.length_toDigits_le_iff (by decide) h0).mpr h
  rw [numeral_eq, List.length_append, List.length_replicate]
  omega

theorem le_length_numeral (width n : Nat) : width ≤ (numeral width n).length := by
  rw [numeral_eq, List.length_append, List.length_replicate]
  omega

end ChatClient.Text
