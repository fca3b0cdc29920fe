import ChatClient.Text.Base64
import ChatClient.Text.Blank

/-!
Bytes in base 64, written and read again. A last group of any length comes back, and what is written has letters,
digits, the dash and the underscore only: no white space, no dot and no padding.
-/
namespace ChatClient.Text.Base64

theorem urlValue?_urlDigit : ∀ n < 64, urlValue? (urlDigit n) = some n := by
  decide

/-- A character of the URL alphabet. -/
def IsUrlDigit (c : Char) : Prop := ∃ n < 64, c = urlDigit n

theorem isUrlDigit (h : n < 64) : IsUrlDigit (urlDigit n) := ⟨n, h, rfl⟩

/-- What is so of every character of the alphabet is found by looking at all of them. -/
theorem IsUrlDigit.all {p : Char → Bool} (h : IsUrlDigit c) (hp : ∀ n < 64, p (urlDigit n) = true) :
    p c = true := by
  obtain ⟨n, hn, rfl⟩ := h
  exact hp n hn

theorem IsUrlDigit.noBlank (h : IsUrlDigit c) : isBlankChar c = false := by
  simpa using h.all (p := (!isBlankChar ·)) (by decide)

theorem IsUrlDigit.ne_dot (h : IsUrlDigit c) : c ≠ '.' := by
  simpa using h.all (p := (· != '.')) (by decide)

theorem IsUrlDigit.ne_padding (h : IsUrlDigit c) : c ≠ '=' := by
  simpa using h.all (p := (· != '=')) (by decide)

theorem isUrlDigit_of_mem {bytes : List UInt8} (h : c ∈ encodeWith urlDigit bytes) : IsUrlDigit c := by
  induction bytes using encodeWith.induct with
  | case1 => cases h
  | case2 a =>
    have ha := a.toNat_lt
    simp only [encodeWith, List.mem_cons, List.not_mem_nil, or_false] at h
    rcases h with rfl | rfl <;> exact isUrlDigit (by omega)
  | case3 a b =>
    have ha := a.toNat_lt
    have hb := b.toNat_lt
    simp only [encodeWith, List.mem_cons, List.not_mem_nil, or_false] at h
    rcases h with rfl | rfl | rfl <;> exact isUrlDigit (by omega)
  | case4 a b d rest ih =>
    have ha := a.toNat_lt
    have hb := b.toNat_lt
    have hd := d.toNat_lt
    simp only [encodeWith, List.mem_cons] at h
    rcases h with rfl | rfl | rfl | rfl | h
    case inr.inr.inr.inr => exact ih h
    all_goals exact isUrlDigit (by omega)

/-! The three bytes of a group, each from the two digits over which it is spread. The other bits of these digits
belong to its neighbours. -/

theorem first_byte (a : UInt8) (h : k < 16) :
    UInt8.ofNat (a.toNat / 4 * 4 + (a.toNat % 4 * 16 + k) / 16) = a := by
  have ha : a.toNat / 4 * 4 + (a.toNat % 4 * 16 + k) / 16 = a.toNat := by omega
  rw [ha, UInt8.ofNat_toNat]

theorem second_byte (n : Nat) (b : UInt8) (h : k < 4) :
    UInt8.ofNat ((n * 16 + b.toNat / 16) % 16 * 16 + (b.toNat % 16 * 4 + k) / 4) = b := by
  have hlt := b.toNat_lt
  have hb : (n * 16 + b.toNat / 16) % 16 * 16 + (b.toNat % 16 * 4 + k) / 4 = b.toNat := by omega
  rw [hb, UInt8.ofNat_toNat]

theorem third_byte (n : Nat) (d : UInt8) :
    UInt8.ofNat ((n * 4 + d.toNat / 64) % 4 * 64 + d.toNat % 64) = d := by
  have hlt := d.toNat_lt
  have hd : (n * 4 + d.toNat / 64) % 4 * 64 + d.toNat % 64 = d.toNat := by omega
  rw [hd, UInt8.ofNat_toNat]

/-- Bytes that have been written are read again. -/
theorem decodeUrlChars?_encodeWith (bytes : List UInt8) :
    decodeUrlChars? (encodeWith urlDigit bytes) = some bytes := by
  induction bytes using encodeWith.induct with
  | case1 => rfl
  | case2 a =>
    have ha := a.toNat_lt
    have h₁ : urlValue? (urlDigit (a.toNat / 4)) = _ := urlValue?_urlDigit _ (by omega)
    have h₂ : urlValue? (urlDigit (a.toNat % 4 * 16)) = _ := urlValue?_urlDigit _ (by omega)
    have hfirst := first_byte a (k := 0) (by decide)
    rw [Nat.add_zero] at hfirst
    simp only [encodeWith, decodeUrlChars?, h₁, h₂, Option.bind_eq_bind, Option.bind_some,
      Nat.mul_mod_left, if_true, hfirst]
  | case3 a b =>
    have ha := a.toNat_lt
    have hb := b.toNat_lt
    have h₁ : urlValue? (urlDigit (a.toNat / 4)) = _ := urlValue?_urlDigit _ (by omega)
    have h₂ : urlValue? (urlDigit (a.toNat % 4 * 16 + b.toNat / 16)) = _ := urlValue?_urlDigit _ (by omega)
    have h₃ : urlValue? (urlDigit (b.toNat % 16 * 4)) = _ := urlValue?_urlDigit _ (by omega)
    have hfirst := first_byte a (k := b.toNat / 16) (by omega)
    have hsecond := second_byte (a.toNat % 4) b (k := 0) (by decide)
    rw [Nat.add_zero] at hsecond
    simp only [encodeWith, decodeUrlChars?, h₁, h₂, h₃, Option.bind_eq_bind, Option.bind_some,
      Nat.mul_mod_left, if_true, hfirst, hsecond]
  | case4 a b d rest ih =>
    have ha := a.toNat_lt
    have hb := b.toNat_lt
    have hd := d.toNat_lt
    have h₁ : urlValue? (urlDigit (a.toNat / 4)) = _ := urlValue?_urlDigit _ (by omega)
    have h₂ : urlValue? (urlDigit (a.toNat % 4 * 16 + b.toNat / 16)) = _ := urlValue?_urlDigit _ (by omega)
    have h₃ : urlValue? (urlDigit (b.toNat % 16 * 4 + d.toNat / 64)) = _ := urlValue?_urlDigit _ (by omega)
    have h₄ : urlValue? (urlDigit (d.toNat % 64)) = _ := urlValue?_urlDigit _ (by omega)
    have hfirst := first_byte a (k := b.toNat / 16) (by omega)
    have hsecond := second_byte (a.toNat % 4) b (k := d.toNat / 64) (by omega)
    have hthird := third_byte (b.toNat % 16) d
    simp only [encodeWith, decodeUrlChars?, h₁, h₂, h₃, h₄, Option.bind_eq_bind, Option.bind_some, ih, hfirst,
      hsecond, hthird]

end ChatClient.Text.Base64
