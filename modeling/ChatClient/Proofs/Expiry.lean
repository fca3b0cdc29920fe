import ChatClient.Proofs.Timestamps
import ChatClient.Token.Credential

/-!
How long credentials are valid. Only whole seconds are compared, but an expiry is the beginning of a second, and the
second of an instant is the last one that has begun, also before 1970. So a credential is valid just as long as the
instant of its expiry is still to come, to the nanosecond, and what has expired stays so.
-/
namespace ChatClient

namespace Time.Instant

variable {i j k : Instant}

theorem lt_iff : i.lt j = true ↔ i.seconds < j.seconds ∨ i.seconds = j.seconds ∧ i.nanos < j.nanos := by
  simp [lt]

theorem not_lt_iff : i.lt j = false ↔ j.seconds < i.seconds ∨ j.seconds = i.seconds ∧ j.nanos ≤ i.nanos := by
  rw [← Bool.not_eq_true, lt_iff]
  omega

theorem not_lt_trans (hij : j.lt i = false) (hjk : k.lt j = false) : k.lt i = false := by
  rw [not_lt_iff] at hij hjk ⊢
  omega

/-- Nothing of a second comes before its beginning. -/
theorem lt_beginning (i : Instant) (second : Int) : i.lt ⟨second, 0⟩ = true ↔ i.seconds < second := by
  simp [lt]

/-- The instant some nanoseconds after the beginning of 1970, or before it if they are negative. -/
def ofNanos (n : Int) : Instant := ⟨n / billion, (n % billion).toNat⟩

theorem ofNanos_lt (m n : Int) : (ofNanos m).lt (ofNanos n) = true ↔ m < n := by
  simp only [lt_iff, ofNanos, billion]
  omega

theorem ofNanos_beginning (seconds : Int) : ofNanos (seconds * billion) = ⟨seconds, 0⟩ := by
  simp [ofNanos, billion]

/-- A step of the clock that is not negative leads to no earlier instant, into a leap second, within one, or out
of it. -/
theorem not_lt_advance (i : Instant) (h : 0 ≤ milliseconds) : (i.advance milliseconds).lt i = false := by
  have hsteps : 0 ≤ milliseconds.tdiv 1000 := Int.tdiv_nonneg h (by decide)
  have hpart : 0 ≤ milliseconds.tmod 1000 := Int.tmod_nonneg 1000 h
  have hforward : ¬ (billion ≤ i.nanos ∧ milliseconds.tdiv 1000 < 0) := by omega
  rw [not_lt_iff, advance]
  simp only [if_neg hforward]
  unfold billion
  split
  · right
    dsimp only
    omega
  · dsimp only
    split <;> omega

end Time.Instant

namespace Token.Credential

open Time (Instant billion)

theorem validAt_iff {c : Credential} : c.validAt now = true ↔ now.lt ⟨c.expiresAt, 0⟩ = true := by
  rw [Instant.lt_beginning, validAt, decide_eq_true_eq]

/-- The expiry that is shown is the instant that the credential goes by. -/
theorem validAt_iff_shown {c : Credential} (h : c.expiry? = some expiry) :
    c.validAt now = true ↔ now.lt expiry = true := by
  obtain ⟨-, -, rfl⟩ := Instant.ofSeconds?_eq_some h
  exact validAt_iff

theorem expired_later {c : Credential} (h : c.validAt now = false) (hl : later.lt now = false) :
    c.validAt later = false := by
  rw [← Bool.not_eq_true, validAt_iff, Bool.not_eq_true] at h ⊢
  exact Instant.not_lt_trans h hl

/-- A credential is valid at an instant exactly if that comes before the beginning of the second at which the
credential expires: at any instant, also in a leap second, and in any second, also one whose year cannot be written.
Outside of leap seconds that is a comparison of nanoseconds. The expiry that is shown is the same instant. And what
is not valid is not valid at any later instant, nor after any step of the clock. -/
theorem valid_before_expiry (c : Credential) (now : Instant) :
    (c.validAt now = true ↔ now.lt ⟨c.expiresAt, 0⟩ = true) ∧
    (∀ n : Int, c.validAt (.ofNanos n) = true ↔ n < c.expiresAt * billion) ∧
    (∀ expiry, c.expiry? = some expiry → (c.validAt now = true ↔ now.lt expiry = true)) ∧
    (c.validAt now = false → (∀ later, later.lt now = false → c.validAt later = false) ∧
      ∀ milliseconds, 0 ≤ milliseconds → c.validAt (now.advance milliseconds) = false) := by
  refine ⟨validAt_iff, fun n => ?_, fun expiry he => ?_, fun h => ⟨fun later hl => ?_, fun ms hms => ?_⟩⟩
  · rw [validAt_iff, ← Instant.ofNanos_beginning, Instant.ofNanos_lt]
  · exact validAt_iff_shown he
  · exact expired_later h hl
  · exact expired_later h (now.not_lt_advance hms)

/-- A credential that expires when 1970 begins is still valid half a second before that, which is the last second of
1969 and not yet the first of 1970. From its expiry on it is not. -/
theorem valid_up_to_1970 :
    let c : Credential := ⟨"a.b.c", 0⟩
    c.expiry? = some ⟨0, 0⟩ ∧ c.validAt (.ofNanos (-500000000)) = true ∧
      Instant.lt ⟨0, 0⟩ ⟨0, 0⟩ = false ∧ c.validAt ⟨0, 0⟩ = false ∧
      c.validAt ((⟨0, 0⟩ : Instant).advance 1500) = false ∧ c.validAt ⟨59, 1999999999⟩ = false := by
  intro c
  have hexpiry : c.expiry? = some ⟨0, 0⟩ := by decide +kernel
  obtain ⟨-, hnanos, hshown, hstays⟩ := valid_before_expiry c ⟨0, 0⟩
  have hover : Instant.lt ⟨0, 0⟩ ⟨0, 0⟩ = false := by decide
  have hexpired : c.validAt ⟨0, 0⟩ = false := by
    rw [← Bool.not_eq_true, hshown _ hexpiry, hover]
    exact Bool.false_ne_true
  obtain ⟨hlater, hstep⟩ := hstays hexpired
  exact ⟨hexpiry, (hnanos (-500000000)).mpr (by decide), hover, hexpired, hstep 1500 (by decide),
    hlater ⟨59, 1999999999⟩ (by decide)⟩

end Token.Credential

end ChatClient
