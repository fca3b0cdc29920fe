import ChatClient.Proofs.HostNames
import ChatClient.Url.Reader
import Mathlib.Data.List.TakeDrop

/-!
What addresses are read from. The part between the two slashes and the path is perhaps a user, a host, and perhaps
a port: an address that is read has these as they are written there, and nothing else stands between them; a
host with a colon in it stands in brackets. The rest changes none of these parts.
-/
namespace ChatClient.Url

open Text (digit?)

variable {scheme user : String} {password : Option String} {cs rest before after : List Char} {host : Host}
  {port : Option Nat} {set : CharSet}

theorem except_bind_eq_ok {x : Except ε α} {f : α → Except ε β} :
    x >>= f = .ok b ↔ ∃ a, x = .ok a ∧ f a = .ok b := by
  cases x <;> simp [bind, Except.bind]

theorem web_known (hs : scheme = "http" ∨ scheme = "https") : isKnownScheme scheme = true ∧ scheme ≠ "file" := by
  rcases hs with rfl | rfl <;> exact ⟨by decide, by decide⟩

/-! ### Where a text is cut -/

/-- The place of a cut is known from what stands on its two sides. -/
theorem cut_eq {p : α → Bool} {front rest : List α} (hf : ∀ a ∈ front, p a = true)
    (hr : ∀ a, rest.head? = some a → p a = false) :
    (front ++ rest).takeWhile p = front ∧ (front ++ rest).dropWhile p = rest := by
  rw [List.takeWhile_append_of_pos hf, List.dropWhile_append_of_pos hf]
  cases rest with
  | nil => simp
  | cons a rest => simp [hr a rfl]

theorem head?_dropWhile {p : α → Bool} {l : List α} (h : (l.dropWhile p).head? = some a) : p a = false := by
  have hstop := List.head?_dropWhile_not p l
  rwa [h] at hstop

/-- So is the last place where a sign stands. -/
theorem last_eq {s : α} {xs ys xs' ys' : List α} (h : xs ++ s :: ys = xs' ++ s :: ys') (hy : s ∉ ys)
    (hy' : s ∉ ys') : xs = xs' ∧ ys = ys' := by
  rcases List.append_eq_append_iff.mp h with ⟨as, rfl, has⟩ | ⟨as, rfl, has⟩
  · cases as with
    | nil => simpa using has
    | cons a as =>
      obtain ⟨rfl, rfl⟩ := List.cons.inj has
      exact absurd (by simp) hy
  · cases as with
    | nil => simpa using has.symm
    | cons a as =>
      obtain ⟨rfl, rfl⟩ := List.cons.inj has
      exact absurd (by simp) hy'

theorem exists_last {s : α} {l : List α} (h : s ∈ l) : ∃ xs ys, l = xs ++ s :: ys ∧ s ∉ ys := by
  obtain ⟨ys, xs, hl, hn⟩ := List.eq_append_cons_of_mem (List.mem_reverse.mpr h)
  refine ⟨xs.reverse, ys.reverse, ?_, by simpa using hn⟩
  rw [← List.reverse_reverse l, hl]
  simp

/-- The part of a text up to the first sign that ends a host. -/
def authorityOf (cs : List Char) : List Char := cs.takeWhile (!endsAuthority true ·)

def afterAuthority (cs : List Char) : List Char := cs.dropWhile (!endsAuthority true ·)

theorem endsAuthority_of_mem (h : c ∈ authorityOf cs) : endsAuthority true c = false := by
  simpa using List.mem_takeWhile_imp h

theorem authorityOf_eq {front : List Char} (hf : ∀ c ∈ front, endsAuthority true c = false)
    (hr : ∀ c, rest.head? = some c → endsAuthority true c = true) :
    authorityOf (front ++ rest) = front ∧ afterAuthority (front ++ rest) = rest :=
  cut_eq (by simpa using hf) (by simpa using hr)

theorem head?_afterAuthority (h : (afterAuthority cs).head? = some c) : endsAuthority true c = true := by
  simpa using head?_dropWhile h

/-! ### Users -/

theorem ne_at_of_mem_reverse (hn : '@' ∉ cs) : ∀ c ∈ cs.reverse, decide (c ≠ '@') = true := by
  intro c hc
  simpa using ne_of_mem_of_not_mem (List.mem_reverse.mp hc) hn

theorem cutAtLast_append (hn : '@' ∉ after) :
    cutAtLast (before ++ '@' :: after) = some (before, after) := by
  have hstop : ∀ c, ('@' :: before.reverse).head? = some c → decide (c ≠ '@') = false := by simp
  obtain ⟨ht, hd⟩ := cut_eq (ne_at_of_mem_reverse hn) hstop
  rw [cutAtLast, List.span_eq_takeWhile_dropWhile, List.reverse_append, List.reverse_cons, List.append_assoc,
    List.singleton_append, ht, hd]
  simp

theorem cutAtLast_notMem (hn : '@' ∉ cs) : cutAtLast cs = none := by
  have hnil := List.dropWhile_eq_nil_iff.mpr (ne_at_of_mem_reverse hn)
  rw [cutAtLast, List.span_eq_takeWhile_dropWhile, hnil]

/-- A user as it stands in front of a host. -/
def userPart (user : Option (List Char)) : List Char := user.elim [] (· ++ ['@'])

/-- The user that is written before an `@`. -/
def userOf (before : List Char) : String := escape userSet (before.takeWhile (· ≠ ':'))

/-- The password that is written before an `@`, behind the first colon there. -/
def passwordOf (before : List Char) : Option String :=
  match before.dropWhile (· ≠ ':') with
  | _ :: c :: password => some (escape userSet (c :: password))
  | _ => none

theorem escapeChar_ne_nil (set : CharSet) (c : Char) : escapeChar set c ≠ [] := by
  unfold escapeChar
  split
  · simp
  · rw [Text.encodeUtf8_eq, String.toList_ofList, List.flatMap_singleton]
    obtain ⟨b, bs, hb⟩ := List.exists_cons_of_ne_nil (String.utf8EncodeChar_ne_nil (c := c))
    simp [hb, escapeByte]

theorem escape_eq_empty : escape set cs = "" ↔ cs = [] := by
  have hnil : escape set cs = "" ↔ ∀ c ∈ cs, escapeChar set c = [] := by simp [escape]
  rw [hnil]
  constructor
  · intro h
    exact List.eq_nil_iff_forall_not_mem.mpr fun c hc => escapeChar_ne_nil set c (h c hc)
  · rintro rfl
    simp

/-- No user and no password are those of an empty text and of a colon. -/
theorem noUser_iff :
    userOf before = "" ∧ passwordOf before = none ↔ before = [] ∨ before = [':'] := by
  rw [userOf, escape_eq_empty]
  match before with
  | [] => simp [passwordOf]
  | [c] => by_cases hc : c = ':' <;> simp [passwordOf, hc]
  | c :: d :: rest => by_cases hc : c = ':' <;> simp [passwordOf, hc]

theorem cutUser_none (hn : '@' ∉ authorityOf cs) : cutUser true cs = .ok ("", none, cs) := by
  rw [cutUser, List.span_eq_takeWhile_dropWhile]
  simp only [cutAtLast_notMem (show '@' ∉ cs.takeWhile (!endsAuthority true ·) from hn)]

/-- A user may stand in front, and is cut off together with its `@`. -/
theorem cutUser_some (ha : authorityOf cs = before ++ '@' :: after) (hn : '@' ∉ after)
    (h : cutUser true cs = .ok parts) :
    parts = (userOf before, passwordOf before, after ++ afterAuthority cs) := by
  have hcut : cutAtLast (cs.takeWhile (!endsAuthority true ·)) = some (before, after) := by
    rw [← cutAtLast_append hn, ← ha]
    rfl
  rw [cutUser, List.span_eq_takeWhile_dropWhile] at h
  simp only [hcut] at h
  cases before with
  | nil =>
    simp only at h
    split at h
    · cases h
    · exact (Except.ok.inj h).symm
  | cons c before =>
    simp only [List.span_eq_takeWhile_dropWhile] at h
    exact (Except.ok.inj h).symm

theorem cutUser_ok (h : cutUser true cs = .ok (user, password, left)) :
    ∃ front : Option (List Char),
      userPart front ++ authorityOf left = authorityOf cs ∧
        afterAuthority left = afterAuthority cs ∧ '@' ∉ authorityOf left ∧
        user = userOf (front.getD []) ∧ password = passwordOf (front.getD []) := by
  by_cases hm : '@' ∈ authorityOf cs
  · obtain ⟨before, after, ha, hn⟩ := exists_last hm
    obtain ⟨rfl, rfl, rfl⟩ : user = userOf before ∧ password = passwordOf before ∧
        left = after ++ afterAuthority cs := by
      simpa using cutUser_some ha hn h
    have hgo : ∀ c ∈ after, endsAuthority true c = false := by
      intro c hc
      have hin : c ∈ authorityOf cs := by simp [ha, hc]
      exact endsAuthority_of_mem hin
    obtain ⟨hfront, hrest⟩ := authorityOf_eq hgo fun c (hc : (afterAuthority cs).head? = some c) =>
      head?_afterAuthority hc
    refine ⟨some before, ?_, hrest, by rwa [hfront], rfl, rfl⟩
    simp [userPart, hfront, ha]
  · obtain ⟨rfl, rfl, rfl⟩ : "" = user ∧ none = password ∧ cs = left := by
      simpa [cutUser_none hm] using h
    exact ⟨none, rfl, rfl, hm, rfl, rfl⟩

/-! ### Hosts and ports -/

/-- A host goes up to a colon or to a sign that ends it. -/
theorem cutHost_ok {text : List Char} (h : cutHost true inBrackets cs = (text, rest)) :
    text ++ rest = cs ∧ (∀ c ∈ text, endsAuthority true c = false) ∧
      ∀ c, rest.head? = some c → c = ':' ∨ endsAuthority true c = true := by
  induction cs generalizing inBrackets text with
  | nil =>
    obtain ⟨rfl, rfl⟩ := Prod.mk.inj h
    simp
  | cons c cs ih =>
    rw [cutHost] at h
    split at h
    · rename_i hstop
      obtain ⟨rfl, rfl⟩ := Prod.mk.inj h
      have hc : c = ':' ∨ endsAuthority true c = true := by
        have hcases : c = ':' ∧ inBrackets = false ∨ endsAuthority true c = true := by simpa using hstop
        exact hcases.imp_left And.left
      simpa using hc
    · rename_i hgo
      have hc : endsAuthority true c = false := by
        simp only [Bool.or_eq_true, not_or, Bool.not_eq_true] at hgo
        exact hgo.2
      simp only at h
      generalize (if c = '[' then true else if c = ']' then false else inBrackets) = next at h
      rcases hcut : cutHost true next cs with ⟨host, left⟩
      obtain ⟨rfl, rfl⟩ : c :: host = text ∧ left = rest := by simpa [hcut] using h
      obtain ⟨happ, hend, hhead⟩ := ih hcut
      refine ⟨by rw [List.cons_append, happ], ?_, hhead⟩
      rintro d (_ | ⟨_, hd⟩)
      · exact hc
      · exact hend d hd

/-- The number of a port as an address keeps it, none for the usual one. -/
def portOf (scheme : String) (digits : List Char) (n : Nat) : Option Nat :=
  if digits.isEmpty || defaultPort? scheme = some n then none else some n

theorem endsAuthority_of_digit {c : Char} (h : (digit? c).isSome = true) : endsAuthority true c = false := by
  by_contra hends
  have hc : ((c = '/' ∨ c = '\\') ∨ c = '?') ∨ c = '#' := by
    simpa only [endsAuthority, isSlash, Bool.not_eq_false, Bool.or_eq_true, Bool.true_and, decide_eq_true_eq]
      using hends
  rcases hc with ((rfl | rfl) | rfl) | rfl <;> exact absurd h (by decide)

theorem endsAuthority_portSign {digits : List Char} (hd : ∀ c ∈ digits, (digit? c).isSome = true) :
    ∀ c ∈ ':' :: digits, endsAuthority true c = false := by
  intro c hc
  rcases List.mem_cons.mp hc with rfl | hc
  · rfl
  · exact endsAuthority_of_digit (hd c hc)

/-- A port has digits only, and what follows it is no part of the host. -/
theorem readPort_ok (h : readPort scheme cs = .ok (port, rest)) :
    ∃ digits n, digits ++ rest = cs ∧ (∀ c ∈ digits, (digit? c).isSome = true) ∧
      (∀ c, rest.head? = some c → endsAuthority true c = true) ∧
      Text.digitsFrom? 10 0 digits = some n ∧ n < Text.limit16 ∧ port = portOf scheme digits n := by
  rw [readPort, List.span_eq_takeWhile_dropWhile] at h
  cases hn : Text.digitsFrom? 10 0 (cs.takeWhile (digit? · |>.isSome)) with
  | none => simp [hn] at h
  | some n =>
    simp only [hn] at h
    rcases ite_eq_iff.mp h with ⟨hb, h⟩ | ⟨-, h⟩
    · obtain ⟨rfl, rfl⟩ := Prod.mk.inj (Except.ok.inj h)
      obtain ⟨hlt, hbound⟩ := Bool.and_eq_true_iff.mp hb
      have hdigits : ∀ c ∈ cs.takeWhile (digit? · |>.isSome), (digit? c).isSome = true :=
        fun c hc => List.mem_takeWhile_imp (p := (digit? · |>.isSome)) hc
      refine ⟨_, n, List.takeWhile_append_dropWhile, hdigits, ?_, hn, of_decide_eq_true hlt, rfl⟩
      intro c hc
      cases hd : cs.dropWhile (digit? · |>.isSome) with
      | nil => simp [hd] at hc
      | cons d rest =>
        obtain rfl : d = c := by simpa [hd] using hc
        simpa [hd] using hbound
    · cases h

/-- A host with a port behind it. -/
theorem cutHost_port {text behind : List Char} (hcut : cutHost true false cs = (text, ':' :: behind))
    (hport : readPort scheme behind = .ok (port, rest)) :
    ∃ digits n, text ++ ':' :: digits = authorityOf cs ∧ rest = afterAuthority cs ∧
      (∀ c ∈ digits, (digit? c).isSome = true) ∧
      Text.digitsFrom? 10 0 digits = some n ∧ n < Text.limit16 ∧ port = portOf scheme digits n := by
  obtain ⟨happ, hgo, -⟩ := cutHost_ok hcut
  obtain ⟨digits, n, hbehind, hdigits, hstop, hread⟩ := readPort_ok hport
  have hgo' : ∀ c ∈ text ++ ':' :: digits, endsAuthority true c = false :=
    fun c hc => (List.mem_append.mp hc).elim (hgo c) (endsAuthority_portSign hdigits c)
  obtain ⟨hfront, hrest⟩ := authorityOf_eq hgo' hstop
  have hcs : (text ++ ':' :: digits) ++ rest = cs := by simp [← happ, ← hbehind]
  rw [hcs] at hfront hrest
  exact ⟨digits, n, hfront.symm, hrest.symm, hdigits, hread⟩

theorem cutHost_noPort {text : List Char} (hcut : cutHost true false cs = (text, rest))
    (hc : rest.head? ≠ some ':') : text = authorityOf cs ∧ rest = afterAuthority cs := by
  obtain ⟨rfl, hgo, hhead⟩ := cutHost_ok hcut
  obtain ⟨hfront, hrest⟩ := authorityOf_eq hgo fun c hr => (hhead c hr).resolve_left fun h => hc (h ▸ hr)
  exact ⟨hfront.symm, hrest.symm⟩

/-- A host with a colon in it stands in brackets: it is an address of the sixth version, since no name has a
colon in it. -/
theorem readHost_colon (h : readHost true cs = .ok host) (hm : ':' ∈ cs) :
    ∃ inner, cs = '[' :: (inner ++ [']']) := by
  unfold readHost at h
  split at h
  · rename_i rest
    cases hu : unbracket? rest with
    | none => simp [hu] at h
    | some inner =>
      refine ⟨inner, ?_⟩
      unfold unbracket? at hu
      split at hu
      · rename_i reversed hr
        obtain rfl := Option.some.inj hu
        rw [← List.reverse_reverse rest, hr, List.reverse_cons]
      · cases hu
  · simp only [if_true] at h
    split at h
    · cases h
    · obtain ⟨name, hname, -⟩ := except_bind_eq_ok.mp h
      exact absurd hm (Domain.parse_noColon hname)

/-! ### The whole part -/

/-- What stands between the two slashes and the path: before the last `@`, then the host, and behind the colon
that follows it. -/
structure Authority where
  user : Option (List Char)
  host : List Char
  port : Option (List Char)

def Authority.text (a : Authority) : List Char :=
  userPart a.user ++ (a.host ++ a.port.elim [] (':' :: ·))

/-- What is read from it, with a path behind it. -/
structure Authority.Reads (a : Authority) (scheme : String) (rest : List Char) (u : Url) : Prop where
  noAt : '@' ∉ a.host
  digits : ∀ digits, a.port = some digits → ∀ c ∈ digits, (digit? c).isSome = true
  read : ∃ host port, readHost true a.host = .ok host ∧
    (a.port = none ∧ port = none ∨ ∃ digits n, a.port = some digits ∧
      Text.digitsFrom? 10 0 digits = some n ∧ n < Text.limit16 ∧ port = portOf scheme digits n) ∧
    u = withPathAfterHost ⟨scheme, userOf (a.user.getD []), passwordOf (a.user.getD []), some host, port,
      .segments [], none, none⟩ rest

theorem readAuthority_ok {u : Url} (hk : isKnownScheme scheme = true) (h : readAuthority scheme cs = .ok u) :
    ∃ a : Authority, a.text = authorityOf cs ∧ a.Reads scheme (afterAuthority cs) u := by
  unfold readAuthority at h
  simp only [hk] at h
  obtain ⟨⟨user, password, left⟩, huser, h⟩ := except_bind_eq_ok.mp h
  obtain ⟨front, hauthority, hafter, hn, rfl, rfl⟩ := cutUser_ok huser
  simp only at h
  rcases hcut : cutHost true false left with ⟨text, behind⟩
  simp only [hcut] at h
  obtain ⟨host, hread, h⟩ := except_bind_eq_ok.mp h
  rw [← hauthority, ← hafter]
  split at h
  · split at h
    · cases h
    · obtain ⟨⟨port, rest⟩, hport, h⟩ := except_bind_eq_ok.mp h
      obtain ⟨digits, n, htext, rfl, hdigits, hnumber⟩ := cutHost_port hcut hport
      rcases ite_eq_iff.mp h with ⟨-, h⟩ | ⟨-, h⟩
      · cases h
      · obtain rfl := Except.ok.inj h
        refine ⟨⟨front, text, some digits⟩, by rw [← htext]; rfl, ?_, ?_, ?_⟩
        · exact fun hm => hn (by simp [← htext, hm])
        · rintro _ ⟨⟩
          exact hdigits
        · exact ⟨host, port, hread, .inr ⟨digits, n, rfl, hnumber⟩, rfl⟩
  · rename_i hcolon
    obtain ⟨⟨port, rest⟩, hport, h⟩ := except_bind_eq_ok.mp h
    obtain ⟨rfl, rfl⟩ := Prod.mk.inj (Except.ok.inj hport)
    have hhead : behind.head? ≠ some ':' := by
      intro hc
      obtain ⟨tail, rfl⟩ := List.head?_eq_some_iff.mp hc
      exact hcolon tail rfl
    obtain ⟨rfl, rfl⟩ := cutHost_noPort hcut hhead
    rcases ite_eq_iff.mp h with ⟨-, h⟩ | ⟨-, h⟩
    · cases h
    · obtain rfl := Except.ok.inj h
      refine ⟨⟨front, authorityOf left, none⟩, by simp [Authority.text], hn, nofun, ?_⟩
      exact ⟨host, none, hread, .inl ⟨rfl, rfl⟩, rfl⟩

/-! ### The rest -/

/-- The parts in front of the path are the same. -/
structure SameFront (u v : Url) : Prop where
  scheme : u.scheme = v.scheme
  user : u.user = v.user
  password : u.password = v.password
  host : u.host = v.host
  port : u.port = v.port

variable {u : Url} {above : List String}

theorem withPath_front (u : Url) (above : List String) (cs : List Char) : SameFront (u.withPath above cs) u :=
  ⟨rfl, rfl, rfl, rfl, rfl⟩

theorem withEndings_front (u : Url) (cs : List Char) : SameFront (u.withEndings cs) u :=
  ⟨rfl, rfl, rfl, rfl, rfl⟩

theorem withPathAfterHost_front (u : Url) (cs : List Char) : SameFront (u.withPathAfterHost cs) u := by
  unfold withPathAfterHost
  simp only
  split
  · split
    · exact withPath_front ..
    · split
      · exact ⟨rfl, rfl, rfl, rfl, rfl⟩
      · exact withPath_front ..
  · exact ⟨rfl, rfl, rfl, rfl, rfl⟩

/-- Without a query and a fragment, all that is left is the path. -/
theorem inPath_of_noEndings (hq : (u.withPath above cs).query = none)
    (hf : (u.withPath above cs).fragment = none) : ∀ c ∈ cs, inPath c = true := by
  have hquery : (endings (isKnownScheme u.scheme) (cs.dropWhile inPath)).1 = none := hq
  have hfragment : (endings (isKnownScheme u.scheme) (cs.dropWhile inPath)).2 = none := hf
  cases hd : cs.dropWhile inPath with
  | nil => exact List.dropWhile_eq_nil_iff.mp hd
  | cons c rest =>
    have hc : inPath c = false := head?_dropWhile (l := cs) (by rw [hd]; rfl)
    have hmark : c = '?' ∨ c = '#' := by
      simpa [inPath, Decidable.or_iff_not_imp_left] using hc
    rw [hd] at hquery hfragment
    rcases hmark with rfl | rfl
    · simp [endings, List.span_eq_takeWhile_dropWhile] at hquery
    · simp [endings, List.span_eq_takeWhile_dropWhile] at hfragment

theorem text_eq_slash {parts : List String} (h : (Path.segments parts).text = "/") : parts = [""] := by
  have hchars : (parts.map ("/" ++ ·)).flatMap String.toList = ['/'] := by
    simpa [Path.text, String.toList_join] using congrArg String.toList h
  cases parts with
  | nil => cases hchars
  | cons first rest =>
    have hnil : first = "" ∧ (rest.map ("/" ++ ·)).flatMap String.toList = [] := by simpa using hchars
    cases rest with
    | nil => rw [hnil.1]
    | cons next rest => simp at hnil

theorem mem_escape_colon (hm : ':' ∈ cs) : ':' ∈ (escape pathSet cs).toList := by
  rw [escape, String.toList_ofList]
  exact List.mem_flatMap.mpr ⟨':', hm, by decide⟩

theorem toList_toLower (s : String) : s.toLower.toList = s.toList.map Char.toLower := String.toList_map

/-- A segment with a colon in it is no dots. -/
theorem colon_noDots {s : String} (hm : ':' ∈ s.toList) : isDoubleDot s = false ∧ isSingleDot s = false := by
  have hlower : ':' ∈ s.toLower.toList := by
    rw [toList_toLower]
    exact List.mem_map.mpr ⟨':', hm, rfl⟩
  have hne : ∀ t : String, ':' ∉ t.toList → s.toLower ≠ t := by
    rintro t ht rfl
    exact ht hlower
  simp [isDoubleDot, isSingleDot, hne]

theorem escape_nil (set : CharSet) : escape set [] = "" := rfl

theorem empty_noDots : isDoubleDot "" = false ∧ isSingleDot "" = false := by
  have hlower : "".toLower = "" := String.toList_inj.mp (toList_toLower "")
  simp [isDoubleDot, isSingleDot, hlower]

/-- A path that leads into a directory with a colon in its name stays there. -/
theorem walk_colon {part : List Char} (hm : ':' ∈ part) (front : List (List Char)) (above : List String) :
    ∃ dirs, walk false above (front ++ [part, []]) = dirs ++ [escape pathSet part, ""] := by
  induction front generalizing above with
  | nil =>
    obtain ⟨hdouble, hsingle⟩ := colon_noDots (mem_escape_colon hm)
    refine ⟨above, ?_⟩
    simp [walk, hdouble, hsingle, escape_nil, empty_noDots]
  | cons first front ih =>
    have hne : (front ++ [part, []]).isEmpty = false := by simp
    rw [List.cons_append, walk]
    simp only [hne]
    exact ih _

/-- The last part of a text, if something without separators stands at its end. -/
theorem cutAll_append {sep : Char} {tail : List Char} (hn : sep ∉ tail) (cs : List Char) :
    ∃ front part, Text.cutAll sep (cs ++ tail) = front ++ [part ++ tail] := by
  by_cases hm : sep ∈ cs
  · obtain ⟨before, after, rfl, ha⟩ := exists_last hm
    refine ⟨Text.cutAll sep before, after, ?_⟩
    rw [List.append_assoc, List.cons_append, Text.cutAll_append_cons, Text.cutAll_eq_splitOn sep (after ++ tail),
      List.splitOn_eq_singleton (by simp [ha, hn])]
  · refine ⟨[], cs, ?_⟩
    rw [Text.cutAll_eq_splitOn, List.splitOn_eq_singleton (by simp [hm, hn]), List.nil_append]

end ChatClient.Url
