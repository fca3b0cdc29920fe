import ChatClient.Proofs.Admission

/-!
A store in a file against a store in memory. From the first token that is put in or taken out on, the file
answers as memory does, without the white space around a token; what it held before does not matter. The
client puts in nothing but tokens without white space around them, so that it cannot tell one store from the
other.
-/
namespace ChatClient

namespace Token.Store

open Files (Tree)

/-- What is done with a store. -/
inductive Access
  | set (token : String)
  | clear
  | get

inductive Answer
  | done (result : Except StoreError Unit)
  | found (token : Option String)
deriving DecidableEq

def access (s : Store) : Access → Answer × Store
  | .set token => Prod.map .done id (s.set token)
  | .clear => Prod.map .done id s.clear
  | .get => (.found s.get?, s)

/-- What a store answers, one access after the other. -/
def answers (s : Store) : List Access → List Answer
  | [] => []
  | a :: as => (s.access a).1 :: (s.access a).2.answers as

/-- The store that a list of accesses leaves. -/
def after (s : Store) : List Access → Store
  | [] => s
  | a :: as => (s.access a).2.after as

/-- An answer without the white space around the token in it; a blank token is none. -/
def Answer.trimmed : Answer → Answer
  | .done result => .done result
  | .found token => .found (token.bind kept?)

/-- A token that is put in has no white space around it, and is not empty. -/
def Access.Clean : Access → Prop
  | .set token => Text.trim token = token ∧ token ≠ ""
  | _ => True

/-- A path for a token file: its directories can be made, and with them it leads to a place where no
directory stands. The system lets all of that be done. -/
structure Fits (path : String) (tree : Tree) : Prop where
  willing : ∀ fate ∈ tree.fates, fate = .granted
  room : (makeRoom tree.nextFate path tree.dropFate).1 = .ok ()
  free : ∃ place, (makeRoom tree.nextFate path tree.dropFate).2.locate path = .ok place ∧
    (makeRoom tree.nextFate path tree.dropFate).2.node? place ≠ some .directory
  name : Files.namesDirectory path = false

variable {tree : Tree}

theorem nextFate_willing (h : ∀ fate ∈ tree.fates, fate = .granted) : tree.nextFate = .granted := by
  cases hf : tree.fates with
  | nil => simp [Tree.nextFate, hf]
  | cons fate fates => simp [Tree.nextFate, hf, h fate]

theorem Fits.of_locate (hw : ∀ fate ∈ tree.fates, fate = .granted) (hl : tree.locate path = .ok place)
    (hn : tree.node? place ≠ some .directory) (hname : Files.namesDirectory path = false) :
    Fits path tree := by
  have hr : makeRoom tree.nextFate path tree.dropFate = (.ok (), tree.dropFate) := makeRoom_of_locate hl
  exact ⟨hw, by rw [hr], ⟨place, by rw [hr]; exact ⟨hl, hn⟩⟩, hname⟩

theorem Fits.set (h : Fits path tree) (token : String) :
    ∃ tree', (Store.file path tree).set token = (.ok (), .file path tree') ∧
      (Store.file path tree').get? = kept? token ∧ Fits path tree' := by
  obtain ⟨hwilling, hr, ⟨place, hl, hn⟩, hname⟩ := h
  have hgrown := makeRoom_grown tree.nextFate path tree.dropFate
  have hgranted := nextFate_willing hwilling
  set made := (makeRoom tree.nextFate path tree.dropFate).2
  have hf : tree.nextFate.unfinished? = none := by rw [hgranted]; rfl
  have hw : made.writeAs tree.nextFate path (Text.encodeUtf8 token) privateMode = .ok _ :=
    Tree.writeAs_eq_ok.mpr ⟨by simp [hgranted], Tree.write_eq_ok.mpr ⟨place, hl, hn, hname, rfl⟩⟩
  refine ⟨_, Sets.set_eq (.written (Prod.ext hr rfl) hw hf), get?_writeAs hf hw, ?_⟩
  refine .of_locate (fun fate hm => ?_) (Tree.locate_put hn _ hl) ?_ hname
  · have hmade : fate ∈ made.fates := hm
    rw [hgrown.fates] at hmade
    exact hwilling fate (List.mem_of_mem_tail hmade)
  · rw [Tree.node_put _ (Tree.ne_nil_of_node hn), if_pos rfl]
    simp

/-- So much it takes to put a token in, whatever the token is. -/
theorem fits_iff (token : String) : Fits path tree ↔
    (∀ fate ∈ tree.fates, fate = .granted) ∧ ((Store.file path tree).set token).1 = .ok () := by
  constructor
  · intro h
    obtain ⟨tree', hs, -⟩ := h.set token
    exact ⟨h.willing, by rw [hs]⟩
  · rintro ⟨hwilling, h⟩
    rcases hs : (Store.file path tree).set token with ⟨result, s'⟩
    rw [hs] at h
    subst h
    cases Sets.of_set hs with
    | written hr hw hf =>
      obtain ⟨place, hl, hn, hname, -⟩ := Tree.write_eq_ok.mp (Tree.writeAs_eq_ok.mp hw).2
      exact ⟨hwilling, by rw [hr], ⟨place, by rw [hr]; exact ⟨hl, hn⟩⟩, hname⟩

/-- Without the directories above it the path leads nowhere. -/
theorem Fits.locate (h : Fits path tree) :
    tree.locate path = .error .notFound ∨
      ∃ place, tree.locate path = .ok place ∧ tree.node? place ≠ some .directory := by
  obtain ⟨-, -, ⟨place, hl, hn⟩, -⟩ := h
  rcases (makeRoom_grown tree.nextFate path tree.dropFate).locate hl with hb | hb
  · rw [makeRoom_of_locate hb] at hn
    exact .inr ⟨place, hb, hn⟩
  · exact .inl hb

theorem Fits.clear (h : Fits path tree) :
    ∃ tree', (Store.file path tree).clear = (.ok (), .file path tree') ∧ Fits path tree' := by
  rcases h.locate with hl | ⟨place, hl, hn⟩
  · exact ⟨tree, by simp [Store.clear, Tree.remove, hl, bind, Except.bind], h⟩
  · cases hnode : tree.node? place with
    | none =>
      exact ⟨tree, by simp [Store.clear, Tree.remove, hl, h.name, hnode, bind, Except.bind], h⟩
    | some node =>
      cases node with
      | directory => exact absurd hnode hn
      | file data mode =>
        refine ⟨tree.erase place, ?_, .of_locate h.willing (Tree.locate_erase hn hl) ?_ h.name⟩
        · simp [Store.clear, Tree.remove, hl, h.name, hnode, bind, Except.bind]
        · rw [Tree.node_erase _ (Tree.ne_nil_of_node hn), if_pos rfl]
          simp

/-- A file gives back what memory gives back, without the white space around it. -/
inductive Follows : Store → Store → Prop
  | intro {tree : Tree} (hf : Fits path tree)
      (ht : (Store.file path tree).get? = held.bind kept?) :
      Follows (.file path tree) (.memory held writes)

/-- What is put in or taken out first brings the two stores together. -/
theorem Fits.access (h : Fits path tree) {a : Access} (ha : a ≠ .get) (held : Option String)
    (writes : Nat) :
    ((Store.file path tree).access a).1 = ((Store.memory held writes).access a).1.trimmed ∧
      Follows ((Store.file path tree).access a).2 ((Store.memory held writes).access a).2 := by
  cases a with
  | get => exact absurd rfl ha
  | set token =>
    obtain ⟨tree', hs, hg, hf⟩ := h.set token
    simp only [Store.access, hs]
    exact ⟨rfl, .intro hf (by simpa using hg)⟩
  | clear =>
    obtain ⟨tree', hc, hf⟩ := h.clear
    have hg := get?_clear (.file path tree)
    rw [hc] at hg
    simp only [Store.access, hc]
    exact ⟨rfl, .intro hf (by simpa using hg)⟩

theorem Follows.access {file memory : Store} (h : Follows file memory) (a : Access) :
    (file.access a).1 = (memory.access a).1.trimmed ∧ Follows (file.access a).2 (memory.access a).2 := by
  cases h with
  | intro hf ht =>
    cases a with
    | get => exact ⟨congrArg Answer.found ht, .intro hf ht⟩
    | _ => exact hf.access (by simp) ..

theorem Follows.answers {file memory : Store} (h : Follows file memory) (as : List Access) :
    file.answers as = (memory.answers as).map Answer.trimmed := by
  induction as generalizing file memory with
  | nil => rfl
  | cons a as ih =>
    obtain ⟨ha, hf⟩ := h.access a
    rw [Store.answers, Store.answers, List.map_cons, ← ha, ih hf]

/-- Clean tokens come back from memory as a file would give them back, unless memory held another one. -/
theorem trimmed_clean (hc : ∀ a ∈ as, Access.Clean a)
    (hh : as.head? = some .get → held.bind kept? = held) :
    ((Store.memory held writes).answers as).map Answer.trimmed = (Store.memory held writes).answers as := by
  induction as generalizing held writes with
  | nil => rfl
  | cons a as ih =>
    obtain ⟨ha, has⟩ := List.forall_mem_cons.mp hc
    rw [Store.answers, List.map_cons]
    cases a with
    | get => exact congrArg₂ _ (congrArg Answer.found (hh rfl)) (ih has fun _ => hh rfl)
    | clear => exact congrArg _ (ih has fun _ => rfl)
    | set token =>
      have hkept : (some token).bind kept? = some token := by
        rw [Option.bind_some, kept?_trimmed ha.1 ha.2]
      exact congrArg _ (ih has fun _ => hkept)

/-- What a client makes of its store by one event. -/
inductive Used (s : Store) : Store → Prop
  | same : Used s s
  | cleared : Used s s.clear.2
  | given (ht : Text.trim token = token) (hne : token ≠ "") : Used s (s.set token).2

theorem Used.accesses {s s' : Store} (h : Used s s') :
    ∃ as, (∀ a ∈ as, Access.Clean a) ∧ s' = s.after as := by
  cases h with
  | same => exact ⟨[], by simp, rfl⟩
  | cleared => exact ⟨[.clear], by simp [Access.Clean], rfl⟩
  | given ht hne => exact ⟨[.set _], by simp [Access.Clean, ht, hne], rfl⟩

theorem after_append (s : Store) (as as' : List Access) :
    s.after (as ++ as') = (s.after as).after as' := by
  induction as generalizing s with
  | nil => rfl
  | cons a as ih => exact ih (s.access a).2

end Token.Store

open Token.Store (Used)

theorem Session.finishLogin_used (reply : Http.Reply) (s : Session) :
    Used s.tokens (s.finishLogin reply).2.tokens := by
  unfold finishLogin
  split
  · exact .same
  · rename_i credential hi
    obtain ⟨-, ht, hne⟩ := issued_raw hi
    have hg : Used s.tokens (s.tokens.set credential.raw).2 := .given ht hne
    split <;> rename_i hs <;> rwa [hs] at hg

namespace Client

theorem checked_used (now : Time.Instant) (c : Client) :
    Used c.session.tokens (c.checked now).session.tokens := by
  unfold checked
  split
  · exact .cleared
  · exact .same

theorem logoutIf_used (refused : Bool) (c : Client) :
    Used c.session.tokens (c.logoutIf refused).session.tokens := by
  cases refused
  · exact .same
  · exact .cleared

theorem Begins.used {c c' : Client} (h : Begins now c call begun c') :
    Used c.session.tokens c'.session.tokens := by
  cases h with
  | blank => rw [opened_session]; exact .same
  | unusable => rw [← opened_session call c]; exact checked_used now _
  | shut => exact checked_used now c
  | _ => exact .same

theorem Finishes.used {c c' : Client} (h : Finishes c ticket reply outcome c') :
    Used c.session.tokens c'.session.tokens := by
  cases h with
  | loggedIn hi hs =>
    obtain ⟨-, ht, hne⟩ := Session.issued_raw hi
    have hg : Used c.session.tokens (c.session.tokens.set _).2 := .given ht hne
    rwa [hs] at hg
  | rejected hf =>
    have hs := congrArg (·.2.session) hf
    have hu := c.session.finishLogin_used reply
    exact hs ▸ hu
  | superseded => exact logoutIf_used _ c.sync
  | failed | unfetched => exact logoutIf_used _ (c.modify _)
  | _ => exact .same

end Client

namespace World

theorem Steps.used {w w' : World} (h : Steps w e o w') (he : ∀ tokens, e ≠ .outside tokens) :
    Used w.client.session.tokens w'.client.session.tokens := by
  cases h with
  | outside => exact absurd rfl (he _)
  | done hb | sent hb => exact hb.used
  | finished _ hf => exact hf.used
  | loggedOut | forgotten => exact .cleared
  | checked => exact Client.checked_used _ _
  | _ => exact .same

/-- All that a client does with its store is to take tokens out, and to put clean ones in. -/
theorem store_accesses (w : World) (es : List Event) (he : ∀ tokens, .outside tokens ∉ es) :
    ∃ as, (∀ a ∈ as, Token.Store.Access.Clean a) ∧
      (w.after es).client.session.tokens = w.client.session.tokens.after as := by
  induction es generalizing w with
  | nil => exact ⟨[], by simp, rfl⟩
  | cons e es ih =>
    have hu := (step_steps e w).used fun tokens ht => he tokens (by simp [ht])
    obtain ⟨as, hc, ha⟩ := hu.accesses
    obtain ⟨as', hc', ha'⟩ := ih (w.step e).2 fun tokens ht => he tokens (by simp [ht])
    refine ⟨as ++ as', fun a hm => ?_, ?_⟩
    · rcases List.mem_append.mp hm with hm | hm
      · exact hc a hm
      · exact hc' a hm
    · rw [after, ha', ha, Token.Store.after_append]

end World

namespace Token.Store

open Files (Tree)

/-- A file is used for tokens, and memory is used in the same way, beginning with a token that is put in or
taken out. The file answers as memory does, without the white space around the tokens, whatever either held
before. If all tokens are clean the answers are the same, and a client puts in no others. -/
theorem file_answers_as_memory {tree : Tree} (h : Fits path tree) (held : Option String) (writes : Nat)
    {a : Access} (ha : a ≠ .get) (as : List Access) :
    (Store.file path tree).answers (a :: as) =
        ((Store.memory held writes).answers (a :: as)).map Answer.trimmed ∧
      ((∀ b ∈ a :: as, b.Clean) →
        (Store.file path tree).answers (a :: as) = (Store.memory held writes).answers (a :: as)) ∧
      ∀ (w : World) (es : List Event), (∀ tokens, .outside tokens ∉ es) →
        ∃ bs, (∀ b ∈ bs, Access.Clean b) ∧
          (w.after es).client.session.tokens = w.client.session.tokens.after bs := by
  obtain ⟨hfirst, hfollows⟩ := h.access ha held writes
  have hall : (Store.file path tree).answers (a :: as) =
      ((Store.memory held writes).answers (a :: as)).map Answer.trimmed := by
    rw [answers, answers, List.map_cons, ← hfirst, hfollows.answers]
  exact ⟨hall, fun hc => hall.trans (trimmed_clean hc (by simp [ha])), World.store_accesses⟩

/-- A file that is no text, and that others may read. -/
def strayFile : Tree := ⟨[(["home", "token"], .file [0xFF] 0o644), (["home"], .directory)], [], []⟩

theorem stray_file_answers :
    (Store.file "/home/token" strayFile).answers [.set " a\n", .get, .clear, .get] =
        [.done (.ok ()), .found (some "a"), .done (.ok ()), .found none] ∧
      (Store.file "/home/token" strayFile).answers [.clear, .get, .set "a", .get] =
        (Store.memory (some "b") 1).answers [.clear, .get, .set "a", .get] := by
  have hfits : Fits "/home/token" strayFile := by
    refine ⟨by simp [strayFile], ?_, ⟨["home", "token"], ?_, ?_⟩, ?_⟩ <;> decide +kernel
  obtain ⟨hpadded, -, -⟩ := file_answers_as_memory hfits none 0 (a := .set " a\n") (by simp) [.get, .clear, .get]
  obtain ⟨-, hclean, -⟩ := file_answers_as_memory hfits (some "b") 1 (a := .clear) (by simp) [.get, .set "a", .get]
  constructor
  · rw [hpadded]
    decide +kernel
  · refine hclean ?_
    have ha : Text.trim "a" = "a" := by decide +kernel
    simp [Access.Clean, ha]

end Token.Store

end ChatClient
