import ChatClient.Proofs.Admission

/-!
A login happens as a whole or not at all. Either its token is stored, somebody is logged in and a new session
has begun, or the session and what is shown are as they were before the reply came, and nobody who watches was
told anything. As long as the token file has not been opened nothing was written to it either. A registration
never changes the client.
-/
namespace ChatClient

open Token (Credential Store)

namespace Token.Store

/-- A store in which nothing was written. For a file directories may have been made. -/
inductive Unwritten : Store → Store → Prop
  | memory : Unwritten (.memory held writes) (.memory held writes)
  | file {tree tree' : Files.Tree} (hg : { tree with fates := tree'.fates }.Grown tree') :
      Unwritten (.file path tree) (.file path tree')

theorem Unwritten.refl (s : Store) : Unwritten s s := by
  cases s with
  | memory => exact .memory
  | file path tree => exact .file (.refl tree)

theorem Unwritten.of_dropFate {tree made : Files.Tree} (hg : tree.dropFate.Grown made) :
    Unwritten (.file path tree) (.file path made) :=
  .file ⟨hg.workPlace, rfl, hg.node⟩

theorem set_error_unwritten {s s' : Store} (h : s.set token = (.error e, s'))
    (he : ∀ cause, e ≠ .writeFile cause) : Unwritten s s' := by
  cases Sets.of_set h with
  | @uncreated path above cause tree made hp hm =>
    have hg := tree.dropFate.makeDirectoriesAs_grown tree.nextFate above
    rw [hm] at hg
    exact .of_dropFate hg
  | @unopened path cause tree made hr hw =>
    have hg := makeRoom_grown tree.nextFate path tree.dropFate
    rw [hr] at hg
    exact .of_dropFate hg
  | unfinished => exact absurd rfl (he _)

/-- A token cannot be put into a file if a directory above it cannot be made, if then the file cannot be
opened, or if the opened file cannot be finished. -/
theorem set_file_error_iff {tree : Files.Tree} :
    ((Store.file path tree).set token).1 = .error e ↔
      (∃ above cause, Files.parent? path = some above ∧
        (tree.dropFate.makeDirectoriesAs tree.nextFate above).1 = .error cause ∧ e = .create above cause) ∨
      ∃ made cause, makeRoom tree.nextFate path tree.dropFate = (.ok (), made) ∧
        (made.writeAs tree.nextFate path (Text.encodeUtf8 token) privateMode = .error cause ∧
            e = .openFile path cause ∨
          (∃ written, made.writeAs tree.nextFate path (Text.encodeUtf8 token) privateMode = .ok written) ∧
            tree.nextFate.unfinished? = some cause ∧ e = .writeFile cause) := by
  constructor
  · intro h
    rcases hs : (Store.file path tree).set token with ⟨result, s'⟩
    rw [hs] at h
    subst h
    cases Sets.of_set hs with
    | uncreated hp hm => exact .inl ⟨_, _, hp, by rw [hm], rfl⟩
    | unopened hr hw => exact .inr ⟨_, _, hr, .inl ⟨hw, rfl⟩⟩
    | unfinished hr hw hf => exact .inr ⟨_, _, hr, .inr ⟨⟨_, hw⟩, hf, rfl⟩⟩
  · rintro (⟨above, cause, hp, hm, rfl⟩ | ⟨made, cause, hr, ⟨hw, rfl⟩ | ⟨⟨written, hw⟩, hf, rfl⟩⟩)
    · rw [Sets.set_eq (.uncreated hp (Prod.ext hm rfl))]
    · rw [Sets.set_eq (.unopened hr hw)]
    · rw [Sets.set_eq (.unfinished hr hw hf)]

end Token.Store

namespace Session

/-- What a login comes to, and the session that it leaves. -/
inductive LogsIn (s : Session) (reply : Http.Reply) : Except AuthError Unit → Session → Prop
  | denied (hd : Denies reply) : LogsIn s reply (.error .invalidCredentials) s
  | malformed (hb : Brings reply (.error cause)) : LogsIn s reply (.error (.tokenMalformed cause)) s
  | unstored {tokens : Store} (hb : Brings reply (.ok credential))
      (hp : s.tokens.set credential.raw = (.error cause, tokens)) :
      LogsIn s reply (.error (.storage cause)) { s with tokens }
  | entered {tokens : Store} (hb : Brings reply (.ok credential))
      (hp : s.tokens.set credential.raw = (.ok (), tokens)) :
      LogsIn s reply (.ok ()) ({ s with tokens }.transition .authenticated)

theorem LogsIn.finishLogin_eq {s s' : Session} (h : s.LogsIn reply result s') :
    s.finishLogin reply = (result, s') := by
  cases h with
  | denied hd => simp [finishLogin, hd.issued]
  | malformed hb => simp [finishLogin, hb.issued, Except.mapError]
  | unstored hb hp | entered hb hp => simp [finishLogin, hb.issued, Except.mapError, hp]

theorem logsIn_total (reply : Http.Reply) (s : Session) : ∃ result s', s.LogsIn reply result s' := by
  rcases denies_or_brings reply with hd | ⟨cause | credential, hb⟩
  · exact ⟨_, _, .denied hd⟩
  · exact ⟨_, _, .malformed hb⟩
  · rcases hp : s.tokens.set credential.raw with ⟨_ | _, tokens⟩
    · exact ⟨_, _, .unstored hb hp⟩
    · exact ⟨_, _, .entered hb hp⟩

theorem logsIn_iff {s s' : Session} : s.finishLogin reply = (result, s') ↔ s.LogsIn reply result s' := by
  refine ⟨fun h => ?_, LogsIn.finishLogin_eq⟩
  obtain ⟨result', s'', hl⟩ := s.logsIn_total reply
  cases h.symm.trans hl.finishLogin_eq
  exact hl

theorem exists_error {result : Except AuthError Unit} (h : result ≠ .ok ()) : ∃ e, result = .error e := by
  cases result with
  | error e => exact ⟨e, rfl⟩
  | ok => exact absurd rfl h

theorem LogsIn.result_eq {s s' t' : Session} (h : s.LogsIn reply result s') (h' : s.LogsIn reply result' t') :
    result = result' :=
  congrArg Prod.fst (h.finishLogin_eq.symm.trans h'.finishLogin_eq)

section Results

variable {s s' : Session}

theorem LogsIn.ok_iff (h : s.LogsIn reply result s') :
    result = .ok () ↔
      ∃ credential, Brings reply (.ok credential) ∧ (s.tokens.set credential.raw).1 = .ok () := by
  constructor
  · rintro rfl
    cases h with
    | entered hb hp => exact ⟨_, hb, by rw [hp]⟩
  · rintro ⟨credential, hb, hp⟩
    exact h.result_eq (.entered hb (Prod.ext hp rfl))

theorem LogsIn.denied_iff (h : s.LogsIn reply result s') :
    result = .error .invalidCredentials ↔ Denies reply := by
  constructor
  · rintro rfl
    cases h with
    | denied hd => exact hd
  · exact fun hd => h.result_eq (.denied hd)

theorem LogsIn.malformed_iff (h : s.LogsIn reply result s') :
    result = .error (.tokenMalformed cause) ↔ Brings reply (.error cause) := by
  constructor
  · rintro rfl
    cases h with
    | malformed hb => exact hb
  · exact fun hb => h.result_eq (.malformed hb)

theorem LogsIn.unstored_iff (h : s.LogsIn reply result s') :
    result = .error (.storage cause) ↔
      ∃ credential, Brings reply (.ok credential) ∧ (s.tokens.set credential.raw).1 = .error cause := by
  constructor
  · rintro rfl
    cases h with
    | unstored hb hp => exact ⟨_, hb, by rw [hp]⟩
  · rintro ⟨credential, hb, hp⟩
    exact h.result_eq (.unstored hb (Prod.ext hp rfl))

end Results

end Session

namespace Client

/-- A client whose user is told nothing: the session and what is shown are as they were. -/
structure Unnoticed (c c' : Client) : Prop where
  status : c'.session.status = c.session.status
  generation : c'.session.generation = c.session.generation
  changes : c'.session.changes = c.session.changes
  watched : c'.conversation.watched = c.conversation.watched
  current : c'.current = c.current
  history : c'.history = c.history

/-- A client as it was, but for directories that may have been made above its token file. If the path of that
file led nowhere there was no token; with the directories it may lead to one that stood there. -/
structure Unmoved (c c' : Client) : Prop extends Unnoticed c c' where
  unwritten : c.session.tokens.Unwritten c'.session.tokens
  token : c'.session.tokens.get? = c.session.tokens.get? ∨
    ¬ c.session.tokens.Reached ∧ c.session.tokens.get? = none

/-- A client into which somebody has come with a credential. The store is as one token that is put in leaves
it. -/
structure Entered (credential : Credential) (c c' : Client) : Prop where
  stored : Store.Sets credential.raw c.session.tokens (.ok ()) c'.session.tokens
  token : c'.session.tokens.get? = some credential.raw
  status : c'.session.status = .authenticated
  generation : c'.session.generation = c.session.generation + 1

theorem unnoticed_withTokens (tokens : Store) (c : Client) : c.Unnoticed (c.withTokens tokens) :=
  ⟨rfl, rfl, rfl, rfl, rfl, rfl⟩

theorem Unmoved.refl (c : Client) : c.Unmoved c :=
  ⟨unnoticed_withTokens c.session.tokens c, .refl _, .inl rfl⟩

theorem unnoticed_of_logsIn {c : Client} (h : c.session.LogsIn reply (.error e) s') :
    c.Unnoticed { c with session := s' } := by
  cases h with
  | denied | malformed => exact unnoticed_withTokens c.session.tokens c
  | unstored => exact unnoticed_withTokens _ c

theorem unmoved_of_logsIn {c : Client} (h : c.session.LogsIn reply (.error e) s')
    (he : ∀ cause, e ≠ .storage (.writeFile cause)) : c.Unmoved { c with session := s' } := by
  cases h with
  | denied | malformed => exact .refl c
  | @unstored _ cause tokens hb hp =>
    have hc (reason : Files.OsError) : cause ≠ .writeFile reason := fun h => he reason (congrArg _ h)
    refine ⟨unnoticed_withTokens tokens c, Store.set_error_unwritten hp hc, ?_⟩
    by_cases hreached : c.session.tokens.Reached
    · exact .inl (Store.get?_set_error hp hreached hc)
    · exact .inr ⟨hreached, Store.get?_unreached hreached⟩

theorem entered_of_logsIn {c : Client} (h : c.session.LogsIn reply (.ok ()) s')
    (hb : Session.Brings reply (.ok credential)) : c.Entered credential { c with session := s' } := by
  cases h with
  | entered hb' hp =>
    cases hb.issued.symm.trans hb'.issued
    obtain ⟨-, ht, hne⟩ := Session.issued_raw hb.issued
    exact ⟨Store.Sets.of_set hp, Store.get?_set ht hne hp, rfl, rfl⟩

/-- Whatever the client is and whatever the reply, a login succeeds exactly if the backend lets it in with a
token that can be decoded and that the store takes. Then the token is put in once, and a new session has begun.
Otherwise the error says what was missing, the session and what is shown are as they were, and so is the store
unless its file has been opened by then. A file does not take a token if its directories cannot be made, if it
cannot be opened or if it cannot be finished. A registration leaves the client as it is. -/
theorem login_all_or_nothing (c : Client) (reply : Http.Reply) :
    let result := (c.finishLogin reply).1
    let c' := (c.finishLogin reply).2
    (result = .ok () ↔ ∃ credential, Session.Brings reply (.ok credential) ∧
        (c.session.tokens.set credential.raw).1 = .ok ()) ∧
      (∀ credential, Session.Brings reply (.ok credential) → result = .ok () → c.Entered credential c') ∧
      (result = .error .invalidCredentials ↔ Session.Denies reply) ∧
      (∀ cause, result = .error (.tokenMalformed cause) ↔ Session.Brings reply (.error cause)) ∧
      (∀ cause, result = .error (.storage cause) ↔ ∃ credential, Session.Brings reply (.ok credential) ∧
        (c.session.tokens.set credential.raw).1 = .error cause) ∧
      (result ≠ .ok () → c.Unnoticed c') ∧
      (result ≠ .ok () → (∀ cause, result ≠ .error (.storage (.writeFile cause))) → c.Unmoved c') ∧
      (∀ path tree token e, ((Store.file path tree).set token).1 = .error e ↔
        (∃ above cause, Files.parent? path = some above ∧
          (tree.dropFate.makeDirectoriesAs tree.nextFate above).1 = .error cause ∧ e = .create above cause) ∨
        ∃ made cause, Store.makeRoom tree.nextFate path tree.dropFate = (.ok (), made) ∧
          (made.writeAs tree.nextFate path (Text.encodeUtf8 token) Store.privateMode = .error cause ∧
              e = .openFile path cause ∨
            (∃ written,
                made.writeAs tree.nextFate path (Text.encodeUtf8 token) Store.privateMode = .ok written) ∧
              tree.nextFate.unfinished? = some cause ∧ e = .writeFile cause)) ∧
      ∀ now registration, (c.begin now (.register registration)).2 = c ∧ (c.finish .register reply).2 = c := by
  intro result c'
  have hl : c.session.LogsIn reply result c'.session := Session.logsIn_iff.mp rfl
  refine ⟨hl.ok_iff, fun credential hb hr => ?_, hl.denied_iff, fun _ => hl.malformed_iff,
    fun _ => hl.unstored_iff, fun hr => ?_, fun hr hc => ?_, fun _ _ _ _ => Store.set_file_error_iff,
    fun _ _ => ⟨rfl, rfl⟩⟩
  · rw [hr] at hl
    exact entered_of_logsIn hl hb
  · obtain ⟨e, hresult⟩ := Session.exists_error hr
    rw [hresult] at hl
    exact unnoticed_of_logsIn hl
  · obtain ⟨e, hresult⟩ := Session.exists_error hr
    rw [hresult] at hl
    exact unmoved_of_logsIn hl fun cause he => hc cause (by rw [hresult, he])

/-- A client with a token in its file, which the system does not let it open again. -/
def readOnly (path : String) : Client :=
  start (.file path ⟨[(["token"], .file (Text.encodeUtf8 ".eyJleHAiOjl9.") 0o400)], [],
    [.refused (.other "Permission denied (os error 13)")]⟩) ⟨0, 0⟩

/-- The new token cannot be stored, and the session goes on with the old one. -/
theorem refused_login_keeps_token :
    let c := readOnly "/token"
    let c' := (c.finishLogin (.ok ⟨200, ".WzllOSwiIl0."⟩)).2
    (c.finishLogin (.ok ⟨200, ".WzllOSwiIl0."⟩)).1 =
        .error (.storage (.openFile "/token" (.other "Permission denied (os error 13)"))) ∧
      c.session.tokens.get? = some ".eyJleHAiOjl9." ∧ c.Unmoved c' ∧
      c'.session.tokens.get? = some ".eyJleHAiOjl9." := by
  have hresult : ((readOnly "/token").finishLogin (.ok ⟨200, ".WzllOSwiIl0."⟩)).1 =
      .error (.storage (.openFile "/token" (.other "Permission denied (os error 13)"))) := by decide +kernel
  have hold : (readOnly "/token").session.tokens.get? = some ".eyJleHAiOjl9." := by decide +kernel
  obtain ⟨-, -, -, -, -, -, hunmoved, -⟩ := login_all_or_nothing (readOnly "/token") (.ok ⟨200, ".WzllOSwiIl0."⟩)
  have hu := hunmoved (by simp [hresult]) (by simp [hresult])
  refine ⟨hresult, hold, hu, ?_⟩
  rcases hu.token with ht | ⟨-, hnone⟩
  · rw [ht, hold]
  · rw [hold] at hnone
    cases hnone

/-- The path of the token file leads through a directory that is missing. The login fails, but the directory has
been made, and the path leads to the file that could not be reached before. -/
theorem refused_login_shows_token :
    let c := readOnly "/gone/../token"
    let c' := (c.finishLogin (.ok ⟨200, ".WzllOSwiIl0."⟩)).2
    (c.finishLogin (.ok ⟨200, ".WzllOSwiIl0."⟩)).1 =
        .error (.storage (.openFile "/gone/../token" (.other "Permission denied (os error 13)"))) ∧
      c.session.tokens.get? = none ∧ c'.session.tokens.get? = some ".eyJleHAiOjl9." := by
  decide +kernel

/-- A file stands where the directory of the token file should be. -/
example :
    let c := start (.file "/home/token" ⟨[(["home"], .file [] 0o644)], [], []⟩) ⟨0, 0⟩
    (c.finishLogin (.ok ⟨200, ".eyJleHAiOjl9."⟩)).1 = .error (.storage (.create "/home" .exists)) := by
  decide +kernel

end Client

end ChatClient
