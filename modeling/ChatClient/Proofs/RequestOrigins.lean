import ChatClient.Http.Wire.Request
import ChatClient.Proofs.Addresses
import ChatClient.Proofs.Calls

/-!
The server that a request goes to. A path that names no server leads to the server of the base address. One that
does leads there from any base address of the scheme, and the token of the request with it. The paths that the
client asks for itself name none.
-/
namespace ChatClient

namespace Url

/-- Two addresses are of one server. -/
structure SameOrigin (u v : Url) : Prop where
  scheme : u.scheme = v.scheme
  host : u.host = v.host
  port : u.effectivePort? = v.effectivePort?

/-- Two slashes stand in front of the name of a server. -/
def beginsServer : List Char → Bool
  | c :: d :: _ => isSlash true c && isSlash true d
  | _ => false

/-- Whether a text names a server, seen from an address with a scheme: by another scheme, or by two slashes, with
the same scheme in front of them or none. -/
def namesServer (scheme : String) (cs : List Char) : Bool :=
  match cutScheme cs with
  | some (own, rest) => own ≠ scheme || beginsServer rest
  | none => beginsServer cs

variable {base other u v w : Url} {cs : List Char}

theorem SameOrigin.trans (h : SameOrigin u v) (h' : SameOrigin v w) : SameOrigin u w :=
  ⟨h.scheme.trans h'.scheme, h.host.trans h'.host, h.port.trans h'.port⟩

theorem SameFront.origin (h : SameFront u base) : SameOrigin u base :=
  ⟨h.scheme, h.host, by rw [effectivePort?, effectivePort?, h.port, h.scheme]⟩

theorem SameFront.trans (h : SameFront u v) (h' : SameFront v w) : SameFront u w :=
  ⟨h.scheme.trans h'.scheme, h.user.trans h'.user, h.password.trans h'.password, h.host.trans h'.host,
    h.port.trans h'.port⟩

theorem beginsServer_iff : beginsServer cs = true ↔ (cs.dropWhile (isSlash true)).length + 2 ≤ cs.length := by
  match cs with
  | [] => simp [beginsServer]
  | [c] => simp [beginsServer]
  | c :: d :: rest =>
    cases hc : isSlash true c with
    | false =>
      have hstops : (c :: d :: rest).dropWhile (isSlash true) = c :: d :: rest :=
        List.dropWhile_cons_of_neg (by simp [hc])
      exact iff_of_false (by simp [beginsServer, hc]) (by rw [hstops]; omega)
    | true =>
      cases hd : isSlash true d with
      | false => simp [beginsServer, hc, hd]
      | true => simpa [beginsServer, hc, hd] using (List.dropWhile_sublist _).length_le

/-- Without two slashes only the path, the query and the fragment are read. -/
theorem readRelative_front (hn : beginsServer cs = false) (h : readRelative base cs = .ok u) :
    SameFront u base := by
  -- The text is empty, or begins with a query, a fragment, two slashes or a path.
  unfold readRelative at h
  split at h
  · cases h
    exact ⟨rfl, rfl, rfl, rfl, rfl⟩
  · cases h
    exact withEndings_front ..
  · cases h
    exact ⟨rfl, rfl, rfl, rfl, rfl⟩
  · cases hn
  · split at h
    · rename_i hc
      split at h
      · split at h
        · rename_i hd
          simp [beginsServer, hc, hd] at hn
        · cases h
          exact withPath_front ..
      · cases h
        exact withPath_front ..
    · cases h
      exact withPath_front ..

/-- Two slashes leave nothing of the base but its scheme. -/
theorem readRelative_server (hb : beginsServer cs = true) :
    ∃ server, ∀ base : Url, readRelative base cs = readAuthority base.scheme server := by
  match cs with
  | c :: d :: rest =>
    obtain ⟨hc, hd⟩ : isSlash true c = true ∧ isSlash true d = true := by simpa [beginsServer] using hb
    by_cases hboth : c = '/' ∧ d = '/'
    · obtain ⟨rfl, rfl⟩ := hboth
      exact ⟨rest, fun base => rfl⟩
    · -- One of the two is a backslash, so more of them may follow, and only the last case reads it.
      refine ⟨(d :: rest).dropWhile (isSlash true), fun base => ?_⟩
      unfold readRelative
      split
      · rename_i heq
        cases heq
      · rename_i heq
        cases heq
        cases hc
      · rename_i heq
        cases heq
        cases hc
      · rename_i heq
        cases heq
        exact absurd ⟨rfl, rfl⟩ hboth
      · rename_i heq
        cases heq
        simp [hc, hd]

theorem readAfterScheme_own (hk : isKnownScheme base.scheme = true) (hf : base.scheme ≠ "file") (cs : List Char) :
    readAfterScheme (some base) base.scheme cs =
      if beginsServer cs then readAuthority base.scheme (cs.dropWhile (isSlash true)) else readRelative base cs := by
  have hfilter : (some base).filter (fun b => decide (b.scheme = base.scheme)) = some base := by simp
  rw [readAfterScheme, hfilter]
  simp only [hf, hk, if_true, if_false]
  cases hb : beginsServer cs with
  | false =>
    have hlt : cs.length < (cs.dropWhile (isSlash true)).length + 2 := by
      by_contra hge
      simp [beginsServer_iff.mpr (Nat.not_lt.mp hge)] at hb
    simp [hlt]
  | true =>
    have hge := beginsServer_iff.mp hb
    simp [Nat.not_lt.mpr hge]

theorem readAfterScheme_other {own : String} (hs : base.scheme ≠ own) (cs : List Char) :
    readAfterScheme (some base) own cs = readAfterScheme none own cs := by
  have hfilter : (some base).filter (fun b => decide (b.scheme = own)) =
      (none : Option Url).filter fun b => decide (b.scheme = own) := by simp [hs]
  rw [readAfterScheme, readAfterScheme, hfilter]

/-- A text without a scheme is relative to the base. -/
theorem join_noScheme (hf : base.scheme ≠ "file") (hp : base.path = .segments parts)
    (hn : cutScheme (significant s) = none) : join base s = readRelative base (significant s) := by
  unfold join
  simp only [hn, hp, hf, if_false]
  cases hcs : significant s with
  | nil => rfl
  | cons c rest =>
    by_cases hc : c = '#'
    · subst hc
      simp [readRelative, ← hp]
    · simp [hc]

/-- From an address that is no place in a tree only a fragment leads on. -/
theorem join_whole {text : String} (hp : base.path = .whole text) (hn : cutScheme (significant s) = none)
    (h : join base s = .ok u) : ∃ rest, significant s = '#' :: rest ∧ SameFront u base := by
  unfold join at h
  simp only [hn, hp] at h
  split at h
  · rename_i rest hrest
    cases h
    exact ⟨rest, hrest, rfl, rfl, rfl, rfl, rfl⟩
  · cases h
  · contradiction

/-- A text that names no server leads to that of the base. -/
theorem join_front (hk : isKnownScheme base.scheme = true) (hf : base.scheme ≠ "file")
    (hn : namesServer base.scheme (significant s) = false) (h : join base s = .ok u) : SameFront u base := by
  unfold namesServer at hn
  cases hc : cutScheme (significant s) with
  | some parts =>
    obtain ⟨own, rest⟩ := parts
    rw [hc] at hn
    obtain ⟨rfl, hb⟩ : own = base.scheme ∧ beginsServer rest = false := by simpa using hn
    unfold join at h
    simp only [hc, readAfterScheme_own hk hf, hb, Bool.false_eq_true, if_false] at h
    exact readRelative_front hb h
  | none =>
    rw [hc] at hn
    cases hp : base.path with
    | segments parts =>
      rw [join_noScheme hf hp hc] at h
      exact readRelative_front hn h
    | whole path =>
      obtain ⟨-, -, hfront⟩ := join_whole hp hc h
      exact hfront

/-- One that does is read in the same way from any base of the scheme. -/
theorem join_named (hk : isKnownScheme base.scheme = true) (hf : base.scheme ≠ "file")
    (hn : namesServer base.scheme (significant s) = true) (hs : other.scheme = base.scheme)
    (hp : other.path = .segments parts) (h : join base s = .ok u) : join other s = .ok u := by
  unfold namesServer at hn
  cases hc : cutScheme (significant s) with
  | some parts =>
    obtain ⟨own, rest⟩ := parts
    rw [hc] at hn
    unfold join at h ⊢
    simp only [hc] at h ⊢
    by_cases hown : base.scheme = own
    · subst hown
      have hb : beginsServer rest = true := by simpa using hn
      rw [readAfterScheme_own hk hf, if_pos hb] at h
      rw [← hs] at hk hf h ⊢
      rw [readAfterScheme_own hk hf, if_pos hb]
      exact h
    · rw [readAfterScheme_other hown] at h
      rw [readAfterScheme_other (hs ▸ hown)]
      exact h
  | none =>
    rw [hc] at hn
    obtain ⟨server, hserver⟩ := readRelative_server hn
    rw [join_noScheme (hs ▸ hf) hp hc, hserver, hs]
    cases hpath : base.path with
    | segments parts => rwa [join_noScheme hf hpath hc, hserver] at h
    | whole path =>
      obtain ⟨rest, hrest, -⟩ := join_whole hpath hc h
      cases rest <;> simp [hrest, beginsServer, isSlash] at hn

theorem asDirectory_front (u : Url) : SameFront u.asDirectory u := by
  unfold asDirectory
  split
  · split
    · exact ⟨rfl, rfl, rfl, rfl, rfl⟩
    · split <;> exact ⟨rfl, rfl, rfl, rfl, rfl⟩
  · split <;> exact ⟨rfl, rfl, rfl, rfl, rfl⟩

theorem asDirectory_segments (hp : u.path = .segments parts) : ∃ parts', u.asDirectory.path = .segments parts' := by
  unfold asDirectory
  simp only [hp]
  split
  · exact ⟨parts, hp⟩
  · exact ⟨_, rfl⟩

end Url

namespace Http

open Url (SameOrigin)

variable {base other u : Url}

/-- What is read of a path as an address. -/
def reference (path : String) : List Char :=
  Url.significant (String.ofList (path.toList.dropWhile (· = '/')))

/-- Whether a path names a server itself, below a base with a scheme. -/
def namesServer (scheme path : String) : Bool := Url.namesServer scheme (reference path)

theorem resolve_eq_ok : resolve base path = .ok u ↔
    base.join (String.ofList (path.toList.dropWhile (· = '/'))) = .ok u := by
  unfold resolve
  cases base.join (String.ofList (path.toList.dropWhile (· = '/'))) <;> simp [Except.mapError]

theorem isWebScheme_known {scheme : String} (hw : isWebScheme scheme = true) :
    Url.isKnownScheme scheme = true ∧ scheme ≠ "file" :=
  Url.web_known (by simpa [isWebScheme] using hw)

/-- A request whose path names no server stays at the server of the base. -/
theorem resolve_stays (hw : isWebScheme base.scheme = true) (hn : namesServer base.scheme path = false)
    (h : resolve base.asDirectory path = .ok u) : SameOrigin u base := by
  have hdirectory := Url.asDirectory_front base
  rw [← hdirectory.scheme] at hw hn
  obtain ⟨hk, hf⟩ := isWebScheme_known hw
  exact ((Url.join_front hk hf hn (resolve_eq_ok.mp h)).trans hdirectory).origin

/-- One whose path does goes where it goes from any other base of the scheme, too. -/
theorem resolve_named (hw : isWebScheme base.scheme = true) (hn : namesServer base.scheme path = true)
    (h : resolve base.asDirectory path = .ok u) (hs : other.scheme = base.scheme)
    (hp : other.path = .segments parts) : resolve other.asDirectory path = .ok u := by
  have hdirectory := Url.asDirectory_front base
  rw [← hdirectory.scheme] at hw hn hs
  obtain ⟨hk, hf⟩ := isWebScheme_known hw
  obtain ⟨parts', hp'⟩ := Url.asDirectory_segments hp
  have hs' := (Url.asDirectory_front other).scheme.trans hs
  exact resolve_eq_ok.mpr (Url.join_named hk hf hn hs' hp' (resolve_eq_ok.mp h))

/-- A path that can be resolved leads to the server of the base, whatever base of its scheme it is resolved below,
exactly if it names no server itself. -/
theorem resolve_sameOrigin_iff (hw : isWebScheme base.scheme = true)
    (h : resolve base.asDirectory path = .ok u) :
    (∀ other v, other.scheme = base.scheme → resolve other.asDirectory path = .ok v → SameOrigin v other) ↔
      namesServer base.scheme path = false := by
  constructor
  · intro hall
    cases hn : namesServer base.scheme path with
    | false => rfl
    | true =>
      -- The address is the same from two bases with different hosts, and cannot be at both.
      have hhost (name : String) : u.host = some (.name name) :=
        (hall ⟨base.scheme, "", none, some (.name name), none, .segments [], none, none⟩ u rfl
          (resolve_named hw hn h rfl rfl)).host
      have heq := (hhost "").symm.trans (hhost "a")
      simp at heq
  · intro hn other v hs hv
    rw [← hs] at hw hn
    exact resolve_stays hw hn hv

/-- Slashes in front of a path do not name a server, and neither does an address that stands further behind. -/
theorem slashes_stay :
    let base : Url := ⟨"http", "", none, some (.ipv4 0x7F000001), some 1, .segments ["api"], none, none⟩
    let path := "//127.0.0.2/http://127.0.0.3/"
    isWebScheme base.scheme = true ∧
      resolve base.asDirectory path = .ok { base with
        path := .segments ["api", "127.0.0.2", "http:", "", "127.0.0.3", ""] } ∧
      ∀ other v, other.scheme = "http" → resolve other.asDirectory path = .ok v → SameOrigin v other := by
  intro base path
  have hw : isWebScheme base.scheme = true := by decide
  have hu : resolve base.asDirectory path = .ok { base with
      path := .segments ["api", "127.0.0.2", "http:", "", "127.0.0.3", ""] } := by
    decide +kernel
  exact ⟨hw, hu, (resolve_sameOrigin_iff hw hu).mpr (by decide +kernel)⟩

/-- Backslashes do: the request goes to another server, and takes the token along. -/
theorem backslashes_leave :
    let base : Url := ⟨"http", "", none, some (.ipv4 0x7F000001), some 1, .segments ["api"], none, none⟩
    let r := (Request.get "\\\\127.0.0.2:1\\x").withToken (some "T")
    ∃ u, resolve base.asDirectory r.path = .ok u ∧ u.text = "http://127.0.0.2:1/x" ∧ ¬ SameOrigin u base ∧
      (prepare base.asDirectory r).toOption.map (fun wire => (wire.url, wire.headers)) =
        some (u, [("authorization", "Bearer T")]) := by
  intro base r
  have hu : resolve base.asDirectory r.path =
      .ok ⟨"http", "", none, some (.ipv4 0x7F000002), some 1, .segments ["x"], none, none⟩ := by
    decide +kernel
  refine ⟨_, hu, by decide +kernel, ?_, by decide +kernel⟩
  intro h
  exact absurd h.host (by decide)

/-! ### What goes over the wire -/

theorem takeUser_origin (u : Url) : SameOrigin (takeUser u).1 u := by
  unfold takeUser
  split
  · exact ⟨rfl, rfl, rfl⟩
  · simp only
    split <;> exact ⟨rfl, rfl, rfl⟩

theorem prepare_url (h : prepare base r = .ok wire) :
    ∃ u, resolve base r.path = .ok u ∧ wire.url = (takeUser u).1 := by
  obtain ⟨u, hu, h⟩ := Url.except_bind_eq_ok.mp h
  refine ⟨u, hu, ?_⟩
  rcases ite_eq_iff.mp h with ⟨-, h⟩ | ⟨-, h⟩
  · cases h
  · rcases ite_eq_iff.mp h with ⟨-, h⟩ | ⟨-, h⟩
    · cases h
    · obtain rfl := Except.ok.inj h
      rfl

/-- The paths that the client asks for. -/
def ownPaths : List String := ["/auth/login", "/auth/register", "/client/use-api", "/client"]

theorem authorize_path (s : Session) (r : Request) : (s.authorize r).path = r.path := by
  unfold Session.authorize Request.withToken
  split <;> rfl

theorem begun_path {c c' : Client} (hb : Client.Begins now c call (.waiting request ticket) c') :
    request.path ∈ ownPaths := by
  cases hb with
  | login => simp [Session.loginRequest, authorize_path, Request.postJson, ownPaths]
  | register => simp [Session.registerRequest, authorize_path, Request.postJson, ownPaths]
  | asked => simp [authorize_path, Request.postText, ownPaths]
  | loading => simp [authorize_path, Request.get, ownPaths]

/-- What the client asks for itself goes to the server of the base. -/
theorem begun_stays {c c' : Client} (hb : Client.Begins now c call (.waiting request ticket) c')
    (hw : isWebScheme base.scheme = true) (h : prepare base.asDirectory request = .ok wire) :
    SameOrigin wire.url base := by
  have hown : ∀ scheme ∈ ["http", "https"], ∀ path ∈ ownPaths, namesServer scheme path = false := by
    decide +kernel
  have hs : base.scheme ∈ ["http", "https"] := by simpa [isWebScheme] using hw
  obtain ⟨u, hu, hwire⟩ := prepare_url h
  rw [hwire]
  exact (takeUser_origin u).trans (resolve_stays hw (hown _ hs _ (begun_path hb)) hu)

end Http

end ChatClient
