import ChatClient.Config.Basic
import ChatClient.Proofs.Addresses
import ChatClient.Proofs.Numerals

/-!
The address that a configuration makes of its protocol, host name and port. The host name is put between the
slashes and the port as it is, so the address is that of the origin exactly if the host name ends where the port
begins, and brings no user along.
-/
namespace ChatClient.Config

open Url (endsAuthority isSlash authorityOf afterAuthority readAuthority userPart)

def withoutBreaks (cs : List Char) : List Char := cs.filter fun c => c ≠ '\t' && c ≠ '\n' && c ≠ '\r'

/-- What an address has of a host name: tabs and line breaks are left out, and so are slashes at its start,
since slashes stand in front of it anyway. -/
def writtenHost (hostname : String) : List Char :=
  (withoutBreaks hostname.toList).dropWhile (isSlash true)

/-- A host name that is one: no path, query or fragment begins in it, and nothing stands before its last `@`
but perhaps a colon. -/
structure NamesHost (hostname : String) : Prop where
  goesOn : ∀ c ∈ writtenHost hostname, endsAuthority true c = false
  noUser : ∀ before after, writtenHost hostname = before ++ '@' :: after → '@' ∉ after →
    before = [] ∨ before = [':']

/-- An address is that of an origin, and no more. -/
structure IsOrigin (o : Origin) (u : Url) : Prop where
  scheme : u.scheme = o.protocol
  port : u.effectivePort? = some o.port
  path : u.path.text = "/"
  noUser : u.user = "" ∧ u.password = none
  noQuery : u.query = none
  noFragment : u.fragment = none

variable {o : Origin} {u : Url}

/-! ### The text of the address -/

/-- The port behind a host name. -/
def portText (port : Nat) : List Char := ':' :: Nat.toDigits 10 port

/-- The port and the slash behind it. -/
def portEnd (port : Nat) : List Char := portText port ++ ['/']

theorem address_toList (o : Origin) :
    o.address.toList = o.protocol.toList ++ ':' :: '/' :: '/' :: (o.hostname.toList ++ portEnd o.port) := by
  simp [Origin.address, portEnd, portText]

theorem withoutBreaks_append (cs ds : List Char) :
    withoutBreaks (cs ++ ds) = withoutBreaks cs ++ withoutBreaks ds :=
  List.filter_append ..

theorem withoutBreaks_portEnd (port : Nat) : withoutBreaks (portEnd port) = portEnd port := by
  rw [withoutBreaks, List.filter_eq_self]
  intro c hc
  have hcases : c = ':' ∨ c ∈ Nat.toDigits 10 port ∨ c = '/' := by simpa [portEnd, portText] using hc
  rcases hcases with rfl | hd | rfl
  · rfl
  · have hdigit := Text.isDigit_toDigits port c hd
    simp only [Bool.and_eq_true, decide_eq_true_eq]
    refine ⟨⟨?_, ?_⟩, ?_⟩ <;> rintro rfl <;> exact absurd hdigit (by decide)
  · rfl

/-- Nothing is left out at the ends of a text that begins and ends with signs. -/
theorem significant_between {s : String} (hs : s.toList = c :: (cs ++ [d])) (hc : 0x20 < c.toNat)
    (hd : 0x20 < d.toNat) : Url.significant s = withoutBreaks s.toList := by
  rw [Url.significant, hs, List.dropWhile_cons_of_neg (by simpa using hc), Text.dropEnd_eq, ← List.cons_append,
    List.rdropWhile_concat_neg _ _ _ (by simpa using hd), withoutBreaks]

theorem cutScheme_web {scheme : String} (hs : scheme = "http" ∨ scheme = "https") (rest : List Char) :
    Url.cutScheme (scheme.toList ++ ':' :: rest) = some (scheme, rest) := by
  rcases hs with rfl | rfl <;> rfl

theorem readAfterScheme_web {scheme : String} (hs : scheme = "http" ∨ scheme = "https") (cs : List Char) :
    Url.readAfterScheme none scheme cs = readAuthority scheme (cs.dropWhile (isSlash true)) := by
  rcases hs with rfl | rfl <;> rfl

theorem parse_address (hp : o.protocol = "http" ∨ o.protocol = "https") :
    Url.parse o.address = readAuthority o.protocol (writtenHost o.hostname ++ portEnd o.port) := by
  have hprotocol : withoutBreaks o.protocol.toList = o.protocol.toList ∧ ∃ cs, o.protocol.toList = 'h' :: cs := by
    rcases hp with hp | hp <;> rw [hp] <;> exact ⟨rfl, _, rfl⟩
  have hsignificant : Url.significant o.address =
      o.protocol.toList ++ ':' :: '/' :: '/' :: (withoutBreaks o.hostname.toList ++ portEnd o.port) := by
    obtain ⟨hkept, cs, hcs⟩ := hprotocol
    have hends : o.address.toList =
        'h' :: ((cs ++ ':' :: '/' :: '/' :: (o.hostname.toList ++ portText o.port)) ++ ['/']) := by
      simp [address_toList, hcs, portEnd]
    have hslashes : withoutBreaks [':', '/', '/'] = [':', '/', '/'] := rfl
    calc Url.significant o.address
      _ = withoutBreaks (o.protocol.toList ++ ([':', '/', '/'] ++ (o.hostname.toList ++ portEnd o.port))) := by
        rw [significant_between hends (by decide) (by decide), address_toList]
        rfl
      _ = _ := by
        rw [withoutBreaks_append, withoutBreaks_append, withoutBreaks_append, withoutBreaks_portEnd, hkept,
          hslashes]
        rfl
  have hhost : (withoutBreaks o.hostname.toList ++ portEnd o.port).dropWhile (isSlash true) =
      writtenHost o.hostname ++ portEnd o.port := by
    rw [List.dropWhile_append]
    split
    · rename_i hempty
      rw [writtenHost, List.isEmpty_iff.mp hempty]
      rfl
    · rfl
  rw [Url.parse, hsignificant, cutScheme_web hp, ← hhost]
  exact readAfterScheme_web hp _

/-! ### What is read from it -/

theorem notMem_toDigits {c : Char} (hc : c.isDigit = false) (port : Nat) : c ∉ Nat.toDigits 10 port := by
  intro hm
  simp [Text.isDigit_toDigits port c hm] at hc

theorem notMem_portText {c : Char} (hc : c.isDigit = false) (hcolon : c ≠ ':') (port : Nat) : c ∉ portText port := by
  intro hm
  exact (List.mem_cons.mp hm).elim hcolon (notMem_toDigits hc port)

theorem goesOn_portText (hc : c ∈ portText port) : endsAuthority true c = false := by
  refine Url.endsAuthority_portSign ?_ c hc
  intro d hd
  simp [Text.digit?_of_isDigit (Text.isDigit_toDigits port d hd)]

theorem isSlash_portText (hc : c ∈ portText port) : isSlash true c = false := by
  have hgo := goesOn_portText hc
  simp only [endsAuthority, Bool.or_eq_false_iff] at hgo
  exact hgo.1.1

theorem cutSegments_portEnd (port : Nat) (cs : List Char) :
    ∃ front part, Url.cutSegments true (cs ++ portEnd port) = front ++ [part ++ portText port, []] := by
  have hkept : (portText port).map (fun c => if isSlash true c then '/' else c) = portText port := by
    have hsame : ∀ c ∈ portText port, (if isSlash true c then '/' else c) = id c := by
      intro c hc
      rw [isSlash_portText hc]
      rfl
    rw [List.map_congr_left hsame, List.map_id]
  have hslash : '/' ∉ portText port := notMem_portText (by decide) (by decide) port
  obtain ⟨front, part, hcut⟩ := Url.cutAll_append hslash (cs.map fun c => if isSlash true c then '/' else c)
  refine ⟨front, part, ?_⟩
  have hbehind : ['/'].map (fun c => if isSlash true c then '/' else c) = ['/'] := rfl
  rw [Text.cutAll_eq_splitOn] at hcut
  rw [Url.cutSegments, portEnd, List.map_append, List.map_append, hkept, hbehind, Text.cutAll_eq_splitOn,
    ← List.append_assoc, List.splitOn_append_cons_self, hcut]
  simp

/-- A path that begins in the host name takes in the colon and the port. -/
theorem withPath_portEnd (hs : u.scheme = "http" ∨ u.scheme = "https") (port : Nat) (cs : List Char) :
    ¬ IsOrigin o (u.withPath [] (cs ++ portEnd port)) := by
  rintro ⟨-, -, hpath, -, hq, hf⟩
  obtain ⟨hk, hfile⟩ := Url.web_known hs
  have hin : (cs ++ portEnd port).takeWhile Url.inPath = cs ++ portEnd port :=
    List.takeWhile_eq_self_iff.mpr (Url.inPath_of_noEndings hq hf)
  obtain ⟨front, part, hcut⟩ := cutSegments_portEnd port cs
  have hcolon : ':' ∈ part ++ portText port := by simp [portText]
  obtain ⟨dirs, hdirs⟩ := Url.walk_colon hcolon front []
  have hparts : (u.withPath [] (cs ++ portEnd port)).path = .segments (dirs ++
      [Url.escape Url.pathSet (part ++ portText port), ""]) := by
    simp [Url.withPath, Url.leadingSegments, hin, hcut, hk, hfile, hdirs]
  rw [hparts] at hpath
  have hone := congrArg List.length (Url.text_eq_slash hpath)
  simp at hone

theorem withPathAfterHost_portEnd (hs : u.scheme = "http" ∨ u.scheme = "https") (port : Nat)
    (c : Char) (cs : List Char) : ¬ IsOrigin o (u.withPathAfterHost (c :: (cs ++ portEnd port))) := by
  unfold Url.withPathAfterHost
  simp only [(Url.web_known hs).1]
  split
  · exact withPath_portEnd hs port cs
  · exact withPath_portEnd hs port (c :: cs)

/-- A host that takes in the port cannot be read. -/
theorem readHost_portText (host : List Char) (port : Nat) (read : Url.Host) :
    Url.readHost true (host ++ portText port) ≠ .ok read := by
  intro h
  obtain ⟨inner, hinner⟩ := Url.readHost_colon h (by simp [portText])
  have hlast : (portText port).getLast? = some ']' := by
    have hne : portText port ≠ [] := nofun
    rw [← List.getLast?_append_of_ne_nil host hne, hinner, ← List.cons_append, List.getLast?_concat]
  exact notMem_portText (by decide) (by decide) port (List.mem_of_getLast? hlast)

theorem withPathAfterHost_slash (hs : u.scheme = "http" ∨ u.scheme = "https") :
    (u.withPathAfterHost ['/']).path = .segments [""] ∧ (u.withPathAfterHost ['/']).query = none ∧
      (u.withPathAfterHost ['/']).fragment = none := by
  have hfile : u.scheme ≠ "file" := (Url.web_known hs).2
  have hwalk : Url.walk false [] [[]] = [""] := by simp [Url.walk, Url.escape_nil, Url.empty_noDots]
  simp [Url.withPathAfterHost, isSlash, Url.withPath, hfile, Url.leadingSegments, Url.cutSegments, Text.cutAll,
    hwalk, Url.endings]

theorem effectivePort_portOf (hp : u.port = Url.portOf u.scheme digits port) (hne : digits ≠ []) :
    u.effectivePort? = some port := by
  rw [Url.effectivePort?, hp, Url.portOf]
  by_cases hd : Url.defaultPort? u.scheme = some port
  · simp [hd]
  · simp [hd, hne]

theorem isOrigin_slash (hs : u.scheme = "http" ∨ u.scheme = "https") (hscheme : u.scheme = o.protocol)
    (hp : u.port = Url.portOf u.scheme digits o.port) (hne : digits ≠ []) :
    IsOrigin o (u.withPathAfterHost ['/']) ↔ u.user = "" ∧ u.password = none := by
  have hfront := Url.withPathAfterHost_front u ['/']
  obtain ⟨hpath, hquery, hfragment⟩ := withPathAfterHost_slash hs
  constructor
  · intro h
    exact ⟨hfront.user.symm.trans h.noUser.1, hfront.password.symm.trans h.noUser.2⟩
  · rintro ⟨huser, hpassword⟩
    have hport : (u.withPathAfterHost ['/']).port =
        Url.portOf (u.withPathAfterHost ['/']).scheme digits o.port := by
      rw [hfront.port, hfront.scheme, hp]
    refine ⟨hfront.scheme.trans hscheme, effectivePort_portOf hport hne, ?_, ?_, hquery, hfragment⟩
    · rw [hpath]
      rfl
    · exact ⟨hfront.user.trans huser, hfront.password.trans hpassword⟩

/-- What has no `@` behind a host is behind a user with its `@`, too. -/
theorem behindUser {user : Option (List Char)} (h : userPart user ++ host = w ++ tail)
    (hn : '@' ∉ tail) : ∃ cs, host = cs ++ tail := by
  cases user with
  | none => exact ⟨w, h⟩
  | some before =>
    rcases List.append_eq_append_iff.mp h with ⟨cs, -, hcs⟩ | ⟨cs, hbefore, rfl⟩
    · exact ⟨cs, hcs⟩
    · cases cs with
      | nil => exact ⟨[], rfl⟩
      | cons c cs =>
        have hlast : (c :: cs).getLast? = some '@' := by
          have hboth := congrArg List.getLast? hbefore
          rw [List.getLast?_append_of_ne_nil w (List.cons_ne_nil c cs)] at hboth
          simpa [userPart] using hboth.symm
        exact absurd (List.mem_append_left _ (List.mem_of_getLast? hlast)) hn

/-- The address of a host name in which nothing else begins. The port is read as it was written: neither a
second colon nor a bracket can keep it from being one. -/
theorem reads_noEnd {a : Url.Authority} {w : List Char} (hs : o.protocol = "http" ∨ o.protocol = "https")
    (hw : a.text = w ++ portText o.port) (hr : a.Reads o.protocol ['/'] u) :
    userPart a.user ++ a.host = w ∧
      (IsOrigin o u ↔ a.user.getD [] = [] ∨ a.user.getD [] = [':']) := by
  obtain ⟨host, port, hread, hport, rfl⟩ := hr.read
  rcases hport with ⟨hnone, -⟩ | ⟨digits, n, hsome, hn, -, rfl⟩
  · have htext : userPart a.user ++ a.host = w ++ portText o.port := by
      simpa [Url.Authority.text, hnone] using hw
    obtain ⟨cs, hhost⟩ := behindUser htext (notMem_portText (by decide) (by decide) o.port)
    exact absurd (hhost ▸ hread) (readHost_portText cs o.port host)
  · have hcolon : ':' ∉ digits := fun hm => absurd (hr.digits digits hsome ':' hm) (by decide)
    have hparts : (userPart a.user ++ a.host) ++ ':' :: digits = w ++ ':' :: Nat.toDigits 10 o.port := by
      simpa [Url.Authority.text, hsome, portText] using hw
    obtain ⟨hfront, rfl⟩ := Url.last_eq hparts hcolon (notMem_toDigits (by decide) o.port)
    obtain rfl : o.port = n := by simpa [Text.digitsFrom?_toDigits] using hn
    refine ⟨hfront, ?_⟩
    rw [← Url.noUser_iff]
    exact isOrigin_slash hs rfl rfl Nat.toDigits_ne_nil

theorem namesHost_iff {user : Option (List Char)} (hgo : ∀ c ∈ writtenHost hostname, endsAuthority true c = false)
    (hw : userPart user ++ host = writtenHost hostname) (hn : '@' ∉ host) :
    NamesHost hostname ↔ user.getD [] = [] ∨ user.getD [] = [':'] := by
  cases user with
  | none =>
    have hhost : host = writtenHost hostname := hw
    refine iff_of_true ⟨hgo, ?_⟩ (.inl rfl)
    intro before after hat _
    exact absurd (hhost ▸ hat ▸ by simp) hn
  | some before =>
    have hat : writtenHost hostname = before ++ '@' :: host := by simpa [userPart] using hw.symm
    constructor
    · exact fun h => h.noUser before host hat hn
    · intro hblank
      refine ⟨hgo, ?_⟩
      intro before' after hat' hn'
      obtain ⟨rfl, -⟩ := Url.last_eq (hat.symm.trans hat') hn hn'
      exact hblank

/-- The address of a configuration is that of its origin exactly if its host name is one. -/
theorem parse_isOrigin_iff (hs : o.protocol = "http" ∨ o.protocol = "https") (h : Url.parse o.address = .ok u) :
    IsOrigin o u ↔ NamesHost o.hostname := by
  rw [parse_address hs] at h
  obtain ⟨a, htext, hreads⟩ := Url.readAuthority_ok (Url.web_known hs).1 h
  by_cases hgo : ∀ c ∈ writtenHost o.hostname, endsAuthority true c = false
  · have hgo' : ∀ c ∈ writtenHost o.hostname ++ portText o.port, endsAuthority true c = false :=
      fun c hc => (List.mem_append.mp hc).elim (hgo c) goesOn_portText
    have hslash : ∀ c, ['/'].head? = some c → endsAuthority true c = true := by
      rintro _ ⟨⟩
      rfl
    have hend : writtenHost o.hostname ++ portEnd o.port = writtenHost o.hostname ++ portText o.port ++ ['/'] := by
      rw [portEnd, List.append_assoc]
    obtain ⟨hfront, hrest⟩ := Url.authorityOf_eq hgo' hslash
    rw [hend, hrest] at hreads
    rw [hend, hfront] at htext
    obtain ⟨hw, horigin⟩ := reads_noEnd hs htext hreads
    rw [horigin, namesHost_iff hgo hw hreads.noAt]
  · refine iff_of_false ?_ fun hn => hgo hn.goesOn
    obtain ⟨host, port, -, -, rfl⟩ := hreads.read
    cases hd : (writtenHost o.hostname).dropWhile (!endsAuthority true ·) with
    | nil => exact absurd (by simpa using List.dropWhile_eq_nil_iff.mp hd) hgo
    | cons c cs =>
      have hafter : afterAuthority (writtenHost o.hostname ++ portEnd o.port) = c :: (cs ++ portEnd o.port) := by
        rw [afterAuthority, List.dropWhile_append, hd]
        rfl
      rw [hafter]
      exact withPathAfterHost_portEnd hs o.port c cs

/-! ### Configurations -/

theorem resolveProtocol_web (h : resolveProtocol raw env = .ok protocol) :
    protocol = "http" ∨ protocol = "https" := by
  unfold resolveProtocol at h
  rcases ite_eq_iff.mp h with ⟨hs, h⟩ | ⟨-, h⟩
  · exact Except.ok.inj h ▸ hs
  · cases h

theorem resolveHostname_trimmed (h : resolveHostname raw env = .ok hostname) :
    hostname ≠ "" ∧ Text.trim hostname = hostname := by
  unfold resolveHostname at h
  rcases ite_eq_iff.mp h with ⟨-, h⟩ | ⟨hne, h⟩
  · cases h
  · obtain rfl := Except.ok.inj h
    exact ⟨hne, Text.trim_trim _⟩

/-- What holds of every configuration that is accepted. -/
structure Accepted (c : Config) : Prop where
  protocol : c.api.protocol = "http" ∨ c.api.protocol = "https"
  hostname : c.api.hostname ≠ "" ∧ Text.trim c.api.hostname = c.api.hostname
  address : ∃ u, c.api.baseUrl = .ok u

theorem resolve_accepted {c : Config} (h : resolve raw env = .ok c) : Accepted c := by
  obtain ⟨protocol, hprotocol, h⟩ := Url.except_bind_eq_ok.mp h
  obtain ⟨hostname, hhostname, h⟩ := Url.except_bind_eq_ok.mp h
  obtain ⟨port, -, h⟩ := Url.except_bind_eq_ok.mp h
  obtain ⟨u, hu, h⟩ := Url.except_bind_eq_ok.mp h
  obtain rfl := Except.ok.inj h
  exact ⟨resolveProtocol_web hprotocol, resolveHostname_trimmed hhostname, u, hu⟩

theorem baseUrl_ok (h : o.baseUrl = .ok u) : Url.parse o.address = .ok u := by
  unfold Origin.baseUrl at h
  cases hp : Url.parse o.address with
  | error fault => simp [hp, Except.mapError] at h
  | ok v => simpa [hp, Except.mapError] using h

/-- A configuration that is accepted has an address. It is that of the configured origin, and no more, exactly
if the host name is one. -/
theorem resolve_isOrigin_iff {c : Config} (h : resolve raw env = .ok c) :
    ∃ u, c.api.baseUrl = .ok u ∧ (IsOrigin c.api u ↔ NamesHost c.api.hostname) := by
  obtain ⟨hs, -, u, hu⟩ := resolve_accepted h
  exact ⟨u, hu, parse_isOrigin_iff hs (baseUrl_ok hu)⟩

/-- An address of the sixth version in its brackets, with the usual port of an encrypted connection. -/
theorem bracketed_host_isOrigin :
    let raw : Raw := ⟨some ⟨some "HTTPS", some " [::1] ", some 443⟩, none⟩
    let c : Config := ⟨⟨"https", "[::1]", 443⟩, none⟩
    resolve raw (fun _ => none) = .ok c ∧ ∃ u, c.api.baseUrl = .ok u ∧ IsOrigin c.api u := by
  intro raw c
  have hc : resolve raw (fun _ => none) = .ok c := by decide +kernel
  have hw : writtenHost "[::1]" = ['[', ':', ':', '1', ']'] := by decide +kernel
  have hnames : NamesHost "[::1]" := by
    refine ⟨by simp [hw, endsAuthority, isSlash], ?_⟩
    intro before after hat _
    have hsign : '@' ∈ writtenHost "[::1]" := hat ▸ by simp
    exact absurd hsign (by simp [hw])
  obtain ⟨u, hu, horigin⟩ := resolve_isOrigin_iff hc
  exact ⟨hc, u, hu, horigin.mpr hnames⟩

/-- A host name that goes on with a path is accepted. The port of the configuration then belongs to the path,
and the address has the usual one. -/
theorem path_in_hostname :
    let env : Environment := fun name => if name = hostnameVariable then some "h/x" else none
    let c : Config := ⟨⟨"http", "h/x", 8080⟩, none⟩
    resolve .empty env = .ok c ∧ ∃ u, c.api.baseUrl = .ok u ∧ u.text = "http://h/x:8080/" ∧
      u.effectivePort? = some 80 ∧ ¬ IsOrigin c.api u := by
  intro env c
  have hu : c.api.baseUrl =
      .ok ⟨"http", "", none, some (.name "h"), none, .segments ["x:8080", ""], none, none⟩ := by
    decide +kernel
  refine ⟨by decide +kernel, _, hu, by decide +kernel, by decide +kernel, ?_⟩
  intro h
  exact absurd h.port (by decide +kernel)

end ChatClient.Config
