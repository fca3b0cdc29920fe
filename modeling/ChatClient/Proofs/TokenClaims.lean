import ChatClient.Proofs.Texts
import ChatClient.Token.Credential

/-!
What a credential has of the claims of its token: the second at which it expires, and whom the token was issued
to. A token is decoded if it carries claims whose expiry names a second, and only then.
-/
namespace ChatClient.Token

/-- The claims in the second of the three segments of a token. -/
def Carries (token : String) (claims : Claims) : Prop :=
  ∃ header payload signature,
    segments? (Text.trimChars token.toList) = some (header, payload, signature) ∧
      Claims.ofSegment payload = .ok claims

namespace Credential

variable {credential : Credential}

theorem decode_of_carries (h : Carries token claims) (he : claims.expiry.bind expirySeconds? = some seconds) :
    decode token = .ok ⟨Text.trim token, seconds⟩ := by
  obtain ⟨header, payload, signature, hs, hc⟩ := h
  have hne : (Text.trimChars token.toList).isEmpty = false := by
    rw [List.isEmpty_eq_false_iff]
    intro hempty
    rw [hempty] at hs
    cases hs
  simp [decode, hne, hs, hc, he, bind, Except.bind, Text.trim]

theorem carries_of_decode (h : decode token = .ok credential) :
    ∃ claims, Carries token claims ∧ claims.expiry.bind expirySeconds? = some credential.expiresAt := by
  unfold decode at h
  dsimp only at h
  split at h
  · cases h
  · split at h
    · cases h
    · rename_i header payload signature hs
      cases hc : Claims.ofSegment payload with
      | error e => simp [hc, bind, Except.bind] at h
      | ok claims =>
        simp only [hc, bind, Except.bind] at h
        split at h
        · rename_i he
          cases h
          exact ⟨claims, ⟨header, payload, signature, hs, hc⟩, he⟩
        · cases h

/-- The subject of a credential is that of its token: the token is still read as it was when it was decoded. -/
theorem subject?_eq (hr : credential.raw = Text.trim token) (h : Carries token claims) :
    credential.subject? = claims.subject := by
  obtain ⟨header, payload, signature, hs, hc⟩ := h
  simp [subject?, hr, Text.trim, hs, hc]

end Credential

end ChatClient.Token
