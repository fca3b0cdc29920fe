import ChatClient.Proofs.Admission
import ChatClient.Proofs.Steps

/-!
A token on its way from the body of a reply into a store and out of it again. It may come with white space
around it, and in quotes, with white space inside them. All of that is left out before the token is stored,
so that it is the same credential that is found there, also by a client that is started later.
-/
namespace ChatClient

open Client (Finishes)

namespace Token

/-- The bodies in which a token may come. -/
inductive Framed (token : String) : String → Prop
  | bare (hw : Text.isBlank w = true) (hw' : Text.isBlank w' = true) : Framed token (w ++ token ++ w')
  | quoted (hw₁ : Text.isBlank w₁ = true) (hw₂ : Text.isBlank w₂ = true) (hw₃ : Text.isBlank w₃ = true)
      (hw₄ : Text.isBlank w₄ = true) :
      Framed token (w₁ ++ ("\"" ++ (w₂ ++ token ++ w₃) ++ "\"") ++ w₄)

theorem unframe_framed (hw : Text.isBlank w = true) (hw' : Text.isBlank w' = true) (body : String) :
    unframe (w ++ body ++ w') = unframe body := by
  have ht := Text.trimChars_framed (Text.isBlank_iff.mp hw) (Text.isBlank_iff.mp hw') body.toList
  simp [unframe, ht]

theorem unframe_unquoted (hq : '"' ∉ body.toList) : unframe body = Text.trim body := by
  unfold unframe
  dsimp only
  split
  · rename_i rest ht
    have hm : '"' ∈ Text.trimChars body.toList := by rw [ht]; exact List.mem_cons_self
    exact absurd (Text.mem_of_mem_trimChars hm) hq
  · rfl

/-- Quotes keep the white space inside them. -/
theorem unframe_quoted (s : String) : unframe ("\"" ++ s ++ "\"") = s := by
  have hquote : Text.isBlankChar '"' = false := by decide
  have ht := Text.trimChars_between hquote hquote s.toList
  simp [unframe, ht]

/-- White space inside the quotes stays after unframing, but does not matter to the token. -/
theorem decode_framed (hf : Framed token body) (hq : '"' ∉ token.toList) :
    Credential.decode (unframe body) = Credential.decode token := by
  cases hf with
  | bare hw hw' => rw [unframe_framed hw hw', unframe_unquoted hq, Credential.decode_trim]
  | quoted hw₁ hw₂ hw₃ hw₄ =>
    rw [unframe_framed hw₁ hw₄, unframe_quoted, ← Credential.decode_trim, Text.trim_framed hw₂ hw₃,
      Credential.decode_trim]

end Token

theorem Session.issued_framed {response : Http.Response} (hs : response.isSuccess = true)
    (hf : Token.Framed token response.body) (hq : '"' ∉ token.toList)
    (hd : Token.Credential.decode token = .ok credential) : issued (.ok response) = .ok credential := by
  have hb : Brings (.ok response) (.ok credential) :=
    ⟨response, rfl, hs, by rw [Token.decode_framed hf hq, hd]⟩
  exact hb.issued

namespace World

/-- A login was begun, anything else happened, and then the backend answers it with a token that can be decoded
and that has no quotes of its own. If the store takes the token, the login succeeds, however the token was
framed, and the store gives back the token without the white space around it. It is the same credential for
this client and for one that is started later over the same store. -/
theorem framed_token_kept (w : World) (email password : String) (hn : ∀ e ∈ es, e.name? ≠ some n)
    {response : Http.Response} (hs : response.isSuccess = true) (hf : Token.Framed token response.body)
    (hq : '"' ∉ token.toList) (hd : Token.Credential.decode token = .ok credential) :
    let v := (w.step (.begin n (.login email password))).2.after es
    (v.client.session.tokens.set (Text.trim token)).1 = .ok () →
      ∃ u, v.step (.reply n (.ok response)) = (.ended (.auth (.ok ())), u) ∧
        u.client.session.tokens.get? = some (Text.trim token) ∧
        u.client.session.credential? = .ok (some credential) ∧
        ∀ now, (start u.client.session.tokens now).client.session.credential? = .ok (some credential) := by
  intro v hset
  have hk : v.inFlight n = some .login := w.login_waits email password hn
  have hi := Session.issued_framed hs hf hq hd
  obtain ⟨hraw, hne⟩ := Token.Credential.decode_eq_ok hd
  rw [← hraw] at hset ⊢
  obtain ⟨-, ht, -⟩ := Session.issued_raw hi
  rcases hput : v.client.session.tokens.set credential.raw with ⟨_, tokens⟩
  rw [hput] at hset
  subst hset
  have hstep := (Steps.finished hk (Finishes.loggedIn hi hput)).step_eq
  set s' := { v.client.session with tokens }.transition .authenticated
  have hkept : s'.credential? = .ok (some credential) := Session.credential?_of_issued hi hput
  refine ⟨_, hstep, Token.Store.get?_set ht hne hput, hkept, fun now => ?_⟩
  rw [← hkept]
  exact Session.credential?_congr (Session.restore_tokens tokens now)

/-- A token in quotes and between line breaks, and a file that is not there yet. -/
theorem padded_token_kept :
    let v := ((start (.file "/home/token" .empty) ⟨0, 0⟩).step (.begin 0 (.login "a@b.com" "x"))).2.after
      [.tick ⟨1, 0⟩]
    ∃ u, v.step (.reply 0 (.ok ⟨200, " \"\n.eyJleHAiOjl9.\t\"\n"⟩)) = (.ended (.auth (.ok ())), u) ∧
      u.client.session.tokens.get? = some ".eyJleHAiOjl9." ∧
      (start u.client.session.tokens ⟨8, 0⟩).client.session.credential? =
        .ok (some ⟨".eyJleHAiOjl9.", 9⟩) := by
  have hes : ∀ e ∈ [Event.tick ⟨1, 0⟩], e.name? ≠ some 0 := by simp [Event.name?]
  have hblank : ∀ w ∈ [" ", "\n", "\t"], Text.isBlank w = true := by decide +kernel
  have hf : Token.Framed ".eyJleHAiOjl9." " \"\n.eyJleHAiOjl9.\t\"\n" :=
    .quoted (hblank " " (by simp)) (hblank "\n" (by simp)) (hblank "\t" (by simp)) (hblank "\n" (by simp))
  have hs : (⟨200, " \"\n.eyJleHAiOjl9.\t\"\n"⟩ : Http.Response).isSuccess = true := rfl
  have hd : Token.Credential.decode ".eyJleHAiOjl9." = .ok ⟨".eyJleHAiOjl9.", 9⟩ := by decide +kernel
  obtain ⟨u, hu, hget, -, hstart⟩ := framed_token_kept (start (.file "/home/token" .empty) ⟨0, 0⟩)
    "a@b.com" "x" hes hs hf (by decide) hd (by decide +kernel)
  have ht : Text.trim ".eyJleHAiOjl9." = ".eyJleHAiOjl9." := by decide +kernel
  exact ⟨u, hu, hget.trans (congrArg some ht), hstart ⟨8, 0⟩⟩

end World

end ChatClient
