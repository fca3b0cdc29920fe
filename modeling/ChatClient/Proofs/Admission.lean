import ChatClient.Proofs.SignedOut

/-!
Logins that are let in. The token that the backend has issued is stored as it was decoded, so that it is
the same credential for everyone who looks into the store later. But a login does not look at the expiry:
what it leaves may be used exactly as long as the credential is valid, which may be not at all.
-/
namespace ChatClient

namespace Token.Credential

/-- What a decoded credential keeps of its token. -/
theorem decode_eq_ok (h : decode token = .ok credential) :
    credential.raw = Text.trim token ∧ credential.raw ≠ "" := by
  unfold decode at h
  dsimp only at h
  split at h
  · cases h
  · rename_i hne
    have hraw : credential.raw = Text.trim token := by
      split at h
      · cases h
      · rename_i header payload signature hs
        cases hc : Claims.ofSegment payload with
        | error e => simp [hc, bind, Except.bind] at h
        | ok claims =>
          simp only [hc, bind, Except.bind] at h
          split at h
          · cases h; rfl
          · cases h
    refine ⟨hraw, ?_⟩
    rw [hraw, Text.trim]
    simpa using hne

theorem decode_trim (token : String) : decode (Text.trim token) = decode token := by
  simp [decode, Text.trim, Text.trimChars_trimChars]

/-- What is kept of a token decodes as the token did. -/
theorem decode_raw (h : decode token = .ok credential) : decode credential.raw = .ok credential := by
  rw [(decode_eq_ok h).1, decode_trim, h]

end Token.Credential

namespace Session

/-- The backend has let a login in, and so the token that it sent is decoded. -/
def Brings (reply : Http.Reply) (decoded : Except Token.Malformed Token.Credential) : Prop :=
  ∃ response, reply = .ok response ∧ response.isSuccess = true ∧
    Token.Credential.decode (Token.unframe response.body) = decoded

/-- No reply came, or one that does not let the login in. -/
def Denies (reply : Http.Reply) : Prop :=
  (∃ cause, reply = .error cause) ∨ ∃ response, reply = .ok response ∧ response.isSuccess = false

theorem Brings.issued (h : Brings reply decoded) : issued reply = decoded.mapError .tokenMalformed := by
  obtain ⟨response, rfl, hs, rfl⟩ := h
  simp [Session.issued, hs]

theorem Denies.issued (h : Denies reply) : issued reply = .error .invalidCredentials := by
  obtain ⟨cause, rfl⟩ | ⟨response, rfl, hs⟩ := h
  · rfl
  · simp [Session.issued, hs]

theorem denies_or_brings (reply : Http.Reply) : Denies reply ∨ ∃ decoded, Brings reply decoded := by
  cases reply with
  | error cause => exact .inl (.inl ⟨cause, rfl⟩)
  | ok response =>
    cases hs : response.isSuccess with
    | false => exact .inl (.inr ⟨response, rfl, hs⟩)
    | true => exact .inr ⟨_, response, rfl, hs, rfl⟩

theorem issued_raw (h : issued reply = .ok credential) :
    Token.Credential.decode credential.raw = .ok credential ∧
      Text.trim credential.raw = credential.raw ∧ credential.raw ≠ "" := by
  rcases denies_or_brings reply with hd | ⟨cause | decoded, hb⟩
  · cases hd.issued.symm.trans h
  · cases hb.issued.symm.trans h
  · cases hb.issued.symm.trans h
    obtain ⟨response, -, -, hd⟩ := hb
    obtain ⟨hraw, hne⟩ := Token.Credential.decode_eq_ok hd
    exact ⟨Token.Credential.decode_raw hd, by rw [hraw, Text.trim_trim], hne⟩

/-- A session over a store that has just taken in what the backend issued. -/
theorem credential?_of_issued {s : Session} {tokens : Token.Store} (hi : issued reply = .ok credential)
    (hs : tokens.set credential.raw = (.ok (), s.tokens)) : s.credential? = .ok (some credential) := by
  obtain ⟨hd, ht, hne⟩ := issued_raw hi
  exact credential?_eq (Token.Store.get?_set ht hne hs) hd

theorem isLive_of_credential {s : Session} (h : s.credential? = .ok (some credential))
    (now : Time.Instant) : s.isLive now = credential.validAt now := by
  simp [isLive, h]

/-- A login that is let in logs the user in with the credential that the backend has issued. At any time, the
stored token is good, the session may be used, and a client that is started over the store has somebody logged
in, exactly if that credential is valid then. -/
theorem login_usable_iff {s s' : Session} (h : s.finishLogin reply = (.ok (), s')) (now : Time.Instant) :
    ∃ credential, issued reply = .ok credential ∧ s'.isLoggedIn = true ∧
      s'.credential? = .ok (some credential) ∧
      s'.isLive now = credential.validAt now ∧ (s'.ensureValid now).1 = credential.validAt now ∧
      (Client.start s'.tokens now).isLoggedIn = credential.validAt now := by
  unfold finishLogin at h
  cases hi : issued reply with
  | error e => simp [hi] at h
  | ok credential =>
    rcases hs : s.tokens.set credential.raw with ⟨_ | _, tokens⟩ <;> simp only [hi, hs] at h
    · cases h
    · obtain ⟨-, rfl⟩ := Prod.mk.inj h
      set s' := { s with tokens }.transition .authenticated
      have hin : s'.isLoggedIn = true := rfl
      have hstored : s'.credential? = .ok (some credential) := credential?_of_issued hi hs
      have hlive : s'.isLive now = credential.validAt now := isLive_of_credential hstored now
      refine ⟨credential, rfl, hin, hstored, hlive, ?_, ?_⟩
      · rw [ensureValid_eq, usable, hin, hlive, Bool.true_and]
      · exact (restore_isLoggedIn s' now).trans hlive

/-- A token in quotes, stored in a file, before it expires. -/
theorem issued_token_usable :
    let s := restore (.file "/home/token" .empty) ⟨0, 0⟩
    let s' := (s.finishLogin (.ok ⟨200, " \".eyJleHAiOjl9.\" "⟩)).2
    (s.finishLogin (.ok ⟨200, " \".eyJleHAiOjl9.\" "⟩)).1 = .ok () ∧
      s'.isLive ⟨8, 0⟩ = true ∧ (s'.ensureValid ⟨8, 0⟩).1 = true ∧
      (Client.start s'.tokens ⟨8, 0⟩).isLoggedIn = true := by
  intro s s'
  have hok : (s.finishLogin (.ok ⟨200, " \".eyJleHAiOjl9.\" "⟩)).1 = .ok () := by decide +kernel
  have hs : s.finishLogin (.ok ⟨200, " \".eyJleHAiOjl9.\" "⟩) = (.ok (), s') := by rw [← hok]
  obtain ⟨credential, hi, -, -, hlive, hvalid, hstart⟩ := login_usable_iff hs ⟨8, 0⟩
  have hexp : issued (.ok ⟨200, " \".eyJleHAiOjl9.\" "⟩) = .ok ⟨".eyJleHAiOjl9.", 9⟩ := by decide +kernel
  cases hi.symm.trans hexp
  exact ⟨hok, hlive, hvalid, hstart⟩

/-- The same token is let in also when it has expired: somebody is logged in, and the next look at the session
throws the token away. -/
theorem expired_token_admitted :
    let s := restore (.file "/home/token" .empty) ⟨9, 0⟩
    let s' := (s.finishLogin (.ok ⟨200, ".eyJleHAiOjl9."⟩)).2
    (s.finishLogin (.ok ⟨200, ".eyJleHAiOjl9."⟩)).1 = .ok () ∧ s'.isLoggedIn = true ∧
      s'.isLive ⟨9, 0⟩ = false ∧ (s'.ensureValid ⟨9, 0⟩).1 = false ∧
      (Client.start s'.tokens ⟨9, 0⟩).isLoggedIn = false := by
  decide +kernel

end Session

end ChatClient
