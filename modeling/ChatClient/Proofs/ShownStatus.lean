import ChatClient.Chat.Basic
import ChatClient.Proofs.Admission
import ChatClient.Proofs.Expiry
import ChatClient.Proofs.TokenClaims

/-!
What the user is told of the session. The session is checked first, so that nobody is said to be logged in whose
token is gone, cannot be decoded or has expired; and whoever is said to be logged in is named by the claims of the
stored token, with an expiry that is still to come.
-/
namespace ChatClient

namespace Screen

/-- The line about a credential: whom it names, and until when it is valid, if its expiry can be written. -/
inductive Names (now : Time.Instant) (credential : Token.Credential) (who : String) : String → Prop
  | dated (he : credential.expiry? = some expiry) (hl : now.lt expiry = true) :
      Names now credential who ("Logged in as " ++ who ++ " until " ++ expiry.textWith "+00:00")
  | undated (he : credential.expiry? = none) : Names now credential who ("Logged in as " ++ who)

theorem status_names {credential : Token.Credential} (hv : credential.validAt now = true) :
    Names now credential (credential.subject?.getD "unknown user")
      (status .authenticated (some credential)) := by
  unfold status
  dsimp only
  split
  · rename_i expiry he
    exact .dated he ((Token.Credential.validAt_iff_shown he).mp hv)
  · rename_i he
    exact .undated he

/-- The line says that somebody is logged in, and more than that. -/
theorem Names.begins (h : Names now credential who text) :
    "Logged in".toList <+: (line text).toList ∧ line text ≠ line "Logged in" := by
  have hnamed : "Logged in as ".toList <+: (line text).toList := by
    cases h with
    | dated | undated =>
      simp only [line, String.toList_append, List.append_assoc]
      exact List.prefix_append ..
  have hlead : "Logged in".toList <+: "Logged in as ".toList := by decide
  refine ⟨hlead.trans hnamed, ?_⟩
  intro hbare
  rw [hbare] at hnamed
  exact absurd hnamed (by decide)

end Screen

namespace Chat

variable {σ : Type}

theorem status_of_holds {chat : Chat σ} (h : chat.client.session.Holds now token) :
    ∃ credential claims text, Token.Credential.decode token = .ok credential ∧ Token.Carries token claims ∧
      Screen.Names now credential (claims.subject.getD "unknown user") text ∧
      chat.status now = (line text, chat) := by
  obtain ⟨credential, hd, hv⟩ := h.valid
  obtain ⟨claims, hc, -⟩ := Token.Credential.carries_of_decode hd
  have hnames := Screen.status_names hv
  rw [Token.Credential.subject?_eq (Token.Credential.decode_eq_ok hd).1 hc] at hnames
  refine ⟨credential, claims, _, hd, hc, hnames, ?_⟩
  have hu : chat.client.session.usable now = true := Session.usable_iff.mpr ⟨token, h⟩
  simp [status, Client.ensureValid_eq, Client.checked_usable hu, credential?, h.loggedIn,
    Session.credential?_eq h.stored hd]

theorem status_of_not_usable {chat : Chat σ} (h : chat.client.session.usable now = false) :
    chat.status now =
      (line (Screen.status .anonymous none), { chat with client := chat.client.checked now }) := by
  simp only [status, Client.ensureValid_eq, Client.checked_not_usable h]
  rfl

/-- The status says that somebody is logged in exactly if that was so and the stored token decodes to a credential
that is valid now. Then it names the subject of that very token, or an unknown user if the token names none; an
expiry that it shows is that of the credential and later than now; and nothing has changed. It never says less than
a name. In all other cases it says that nobody is logged in, and then nobody is. -/
theorem status_tells (now : Time.Instant) (chat : Chat σ) :
    let out := (chat.status now).1
    let after := (chat.status now).2
    ("Logged in".toList <+: out.toList ↔ ∃ token, chat.client.session.Holds now token) ∧
      out ≠ line "Logged in" ∧
      ((∃ token credential claims text, chat.client.session.Holds now token ∧
          Token.Credential.decode token = .ok credential ∧ Token.Carries token claims ∧
          Screen.Names now credential (claims.subject.getD "unknown user") text ∧
          out = line text ∧ after = chat) ∨
        (¬ ∃ token, chat.client.session.Holds now token) ∧
          out = line "Not logged in. Run \x60gait login\x60." ∧ after.client.session.status = .anonymous) := by
  intro out after
  cases hu : chat.client.session.usable now with
  | true =>
    obtain ⟨token, h⟩ := Session.usable_iff.mp hu
    obtain ⟨credential, claims, text, hd, hc, hnames, hstatus⟩ := status_of_holds h
    have hout : out = line text := congrArg Prod.fst hstatus
    have hafter : after = chat := congrArg Prod.snd hstatus
    obtain ⟨hlead, hmore⟩ := hnames.begins
    rw [hout]
    exact ⟨iff_of_true hlead ⟨token, h⟩, hmore,
      .inl ⟨token, credential, claims, text, h, hd, hc, hnames, rfl, hafter⟩⟩
  | false =>
    have hnone : ¬ ∃ token, chat.client.session.Holds now token := by
      rw [← Session.usable_iff, hu]
      exact Bool.false_ne_true
    have hstatus := status_of_not_usable hu
    have hout : out = line (Screen.status .anonymous none) := congrArg Prod.fst hstatus
    have hafter : after.client = chat.client.checked now := congrArg (·.2.client) hstatus
    have hanonymous : after.client.session.status = .anonymous := by
      rw [hafter]
      exact Client.checked_not_usable hu
    rw [hout]
    exact ⟨iff_of_false (by decide) hnone, by decide, .inr ⟨hnone, rfl, hanonymous⟩⟩

/-- A token that names nobody, in its last second and in the one after it. -/
example :
    let chat : Chat Unit := ⟨.start (.memory (some ".eyJleHAiOjl9.") 0) ⟨0, 0⟩, ()⟩
    (chat.status ⟨8, 999999999⟩).1 = line "Logged in as unknown user until 1970-01-01T00:00:09+00:00" ∧
      (chat.status ⟨9, 0⟩).1 = line "Not logged in. Run \x60gait login\x60." := by
  decide +kernel

end Chat

end ChatClient
