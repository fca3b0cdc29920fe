import ChatClient.Files.Tree
import ChatClient.Proofs.Keyed
import Mathlib.Data.List.TakeWhile

/-!
Paths and the places that they lead to. A path leads to a place only if the directory above it stands, and
making that directory fails only if it cannot be made to stand. So nothing can be read through a path
whose directories could not be made.
-/
namespace ChatClient

namespace Text

theorem cutAll_eq_splitOn [DecidableEq α] (c : α) (l : List α) : cutAll c l = l.splitOn c := by
  induction l with
  | nil => rfl
  | cons d ds ih =>
    rw [cutAll, ih, List.splitOn, List.splitOn, List.splitOnP_cons_eq_if_modifyHead]
    by_cases hd : d = c
    · simp [hd]
    · cases hs : ds.splitOnP (· == c) with
      | nil => exact absurd hs (List.splitOnP_ne_nil _ ds)
      | cons part parts => simp [hd]

theorem cutAll_append_cons [DecidableEq α] (c : α) (front rest : List α) :
    cutAll c (front ++ c :: rest) = cutAll c front ++ cutAll c rest := by
  rw [cutAll_eq_splitOn, List.splitOn_append_cons_self, ← cutAll_eq_splitOn, ← cutAll_eq_splitOn]

theorem cutAll_ne_nil [DecidableEq α] (c : α) (l : List α) : cutAll c l ≠ [] := by
  rw [cutAll_eq_splitOn]
  exact List.splitOn_ne_nil c l

theorem cutAll_notMem [DecidableEq α] {c : α} {l : List α} (h : part ∈ cutAll c l) : c ∉ part := by
  induction l generalizing part with
  | nil => simp_all [cutAll]
  | cons d ds ih =>
    rw [cutAll] at h
    by_cases hd : d = c
    · rw [if_pos hd] at h
      rcases List.mem_cons.mp h with rfl | h
      · simp
      · exact ih h
    · rw [if_neg hd] at h
      cases hs : cutAll c ds with
      | nil =>
        rw [hs] at h
        simpa [List.mem_singleton.mp h] using Ne.symm hd
      | cons first rest =>
        rw [hs] at h
        rcases List.mem_cons.mp h with rfl | h
        · have hf : c ∉ first := ih (by simp [hs])
          simp [hf, Ne.symm hd]
        · exact ih (by simp [hs, h])

end Text

namespace Files

theorem parts_noSlash (h : part ∈ parts path) : '/' ∉ part.toList := by
  obtain ⟨cs, hc, rfl⟩ := List.mem_map.mp h
  simpa using Text.cutAll_notMem hc

/-- Parts put together with slashes between them are the parts of the whole. -/
theorem parts_intercalate (hn : ps ≠ []) (hs : ∀ part ∈ ps, '/' ∉ part.toList) :
    parts (String.intercalate "/" ps) = ps := by
  have hslash : "/".toList = ['/'] := rfl
  rw [parts, Text.cutAll_eq_splitOn, String.toList_intercalate, hslash,
    List.splitOn_intercalate _ (by simpa using hs) (by simpa using hn)]
  simp

theorem filter_dropWhile (p : α → Bool) (l : List α) :
    (l.dropWhile p).filter (!p ·) = l.filter (!p ·) := by
  induction l with
  | nil => rfl
  | cons a l ih => cases h : p a <;> simp [h, ih]

/-- The last name of a path, and the parts before it up to the one that counts. -/
theorem parent_cases (h : parent? path = some above) :
    ∃ up last, up <+: parts path ∧ names path = up.filter (!staysHere ·) ++ [last] ∧
      above = if up = [] then (if isAbsolute path then "/" else "") else String.intercalate "/" up := by
  -- The parts are read from the last one on, without those that stay in the same directory.
  unfold parent? at h
  split at h
  · cases h
  · rename_i last rest hparts
    have hr : (parts path).reverse.dropWhile staysHere = last :: rest := hparts
    have hlast : staysHere last = false := by
      have hne := List.head_dropWhile_not staysHere (l := (parts path).reverse) (by simp [hr])
      simpa [hr] using hne
    refine ⟨(rest.dropWhile staysHere).reverse, last, ?_, ?_, ?_⟩
    · have hsuf : rest.dropWhile staysHere <:+ (parts path).reverse :=
        (List.dropWhile_suffix staysHere).trans
          ((List.suffix_cons last rest).trans (hr ▸ List.dropWhile_suffix staysHere))
      simpa using List.reverse_prefix.mpr hsuf
    · have hf := filter_dropWhile staysHere (parts path).reverse
      rw [hr, List.filter_cons_of_pos (by simp [hlast]), ← filter_dropWhile] at hf
      rw [names, ← List.reverse_reverse (parts path), List.filter_reverse, ← hf]
      simp
    · split at h
      · rename_i hup
        have hu : rest.dropWhile staysHere = [] := hup
        simpa [hu] using (Option.some.inj h).symm
      · rename_i hup
        have hu : rest.dropWhile staysHere ≠ [] := hup
        have ha : above = String.intercalate "/" (rest.dropWhile staysHere).reverse :=
          (Option.some.inj h).symm
        simpa [hu] using ha

/-- A path goes on from where the path above it ends, by one name. -/
theorem names_parent (h : parent? path = some above) : ∃ last, names path = names above ++ [last] := by
  obtain ⟨up, last, hpre, hn, rfl⟩ := parent_cases h
  refine ⟨last, ?_⟩
  rw [hn, List.append_cancel_right_eq]
  by_cases hu : up = []
  · subst hu
    cases isAbsolute path <;> decide
  · rw [if_neg hu, names, parts_intercalate hu fun part hm => parts_noSlash (hpre.subset hm)]

theorem isAbsolute_parent (h : parent? path = some above) (hne : above ≠ "") :
    isAbsolute above = isAbsolute path := by
  have hpath : path ≠ "" := by
    rintro rfl
    obtain ⟨last, hn⟩ := names_parent h
    have he : names "" = [] := by decide
    simp [he] at hn
  obtain ⟨up, last, hpre, -, rfl⟩ := parent_cases h
  by_cases hu : up = []
  · subst hu
    cases ha : isAbsolute path with
    | false => simp [ha] at hne
    | true => decide
  · have hhead : up.head? = (parts path).head? := by
      obtain ⟨rest, hr⟩ := hpre
      obtain ⟨part, up', rfl⟩ := List.exists_cons_of_ne_nil hu
      rw [← hr]
      rfl
    rw [if_neg hu] at hne ⊢
    rw [isAbsolute, isAbsolute, parts_intercalate hu fun part hm => parts_noSlash (hpre.subset hm), hhead]
    simp [hne, hpath]

namespace Tree

variable {t t' : Tree}

/-- A place is entered only from a directory. -/
theorem enter_directory (h : t.enter place name = .ok place') : t.node? place = some .directory := by
  unfold enter at h
  split at h
  · assumption
  · cases h
  · cases h

theorem find_eq_ok : t.find path = .ok node ↔
    ∃ place, t.locate path = .ok place ∧ t.node? place = some node ∧
      (node = .directory ∨ namesDirectory path = false) := by
  unfold find
  cases hl : t.locate path with
  | error e => simp [bind, Except.bind]
  | ok place =>
    cases hn : t.node? place with
    | none => simp [bind, Except.bind, hn]
    | some found =>
      cases found with
      | directory =>
        simp only [bind, Except.bind, hn, Except.ok.injEq, exists_eq_left', Option.some.injEq]
        exact ⟨fun h => ⟨h, .inl h.symm⟩, And.left⟩
      | file =>
        cases namesDirectory path with
        | true =>
          simp only [bind, Except.bind, hn, Except.ok.injEq, exists_eq_left', Option.some.injEq]
          exact iff_of_false (by simp) (by rintro ⟨rfl, h | h⟩ <;> cases h)
        | false => simp [bind, Except.bind, hn]

theorem isDirectory_iff : t.isDirectory path = true ↔
    ∃ place, t.locate path = .ok place ∧ t.node? place = some .directory := by
  have hf : t.isDirectory path = true ↔ t.find path = .ok .directory := by
    unfold isDirectory
    split <;> simp_all
  simpa using hf.trans find_eq_ok

theorem read_iff : t.read path = .ok data ↔
    ∃ place mode, t.locate path = .ok place ∧ t.node? place = some (.file data mode) ∧
      namesDirectory path = false := by
  have hf : t.read path = .ok data ↔ ∃ mode, t.find path = .ok (.file data mode) := by
    unfold read
    cases hfind : t.find path with
    | error e => simp [bind, Except.bind]
    | ok node => cases node <;> simp [bind, Except.bind]
  simp only [hf, find_eq_ok, reduceCtorEq, false_or]
  exact exists_comm

theorem remove_eq_ok : t.remove path = .ok t' ↔
    ∃ place data mode, t.locate path = .ok place ∧ t.node? place = some (.file data mode) ∧
      namesDirectory path = false ∧ t' = t.erase place := by
  unfold remove
  cases hl : t.locate path with
  | error e => simp [bind, Except.bind]
  | ok place =>
    cases namesDirectory path with
    | true => simp [bind, Except.bind]
    | false =>
      cases hn : t.node? place with
      | none => simp [bind, Except.bind, hn]
      | some node => cases node <;> simp [bind, Except.bind, hn, eq_comm]

/-- A path leads to a place only if the directory above it stands. -/
theorem locate_parent (h : parent? path = some above) (hl : t.locate path = .ok place) :
    above = "" ∨ t.isDirectory above = true := by
  by_cases ha : above = ""
  · exact .inl ha
  · refine .inr (isDirectory_iff.mpr ?_)
    obtain ⟨last, hn⟩ := names_parent h
    unfold locate at hl
    split at hl
    · cases hl
    · rw [hn, List.foldlM_append] at hl
      simp only [List.foldlM_cons, List.foldlM_nil, bind_pure] at hl
      cases hf : (names above).foldlM t.enter (if isAbsolute path then [] else t.workPlace) with
      | error e => rw [hf] at hl; cases hl
      | ok mid =>
        rw [hf] at hl
        have hmid : t.enter mid last = .ok place := hl
        refine ⟨mid, ?_, enter_directory hmid⟩
        rw [locate, if_neg ha, isAbsolute_parent h ha, hf]

theorem isDirectory_parent (h : parent? path = some above) (hd : t.isDirectory path = true) :
    above = "" ∨ t.isDirectory above = true := by
  obtain ⟨place, hl, _⟩ := isDirectory_iff.mp hd
  exact locate_parent h hl

section Smaller

/-! A path that leads somewhere in one tree leads to the same place in another one that has its directories. -/

variable (hn : ∀ place, t'.node? place = some .directory → t.node? place = some .directory)
include hn

theorem enter_mono (h : t'.enter place name = .ok place') : t.enter place name = .ok place' := by
  have hd := enter_directory h
  simpa [enter, hd, hn place hd] using h

theorem foldlM_enter_mono {names : List String} (h : names.foldlM t'.enter start = .ok place) :
    names.foldlM t.enter start = .ok place := by
  induction names generalizing start with
  | nil => exact h
  | cons name names ih =>
    rw [List.foldlM_cons] at h ⊢
    cases he : t'.enter start name with
    | error e => rw [he] at h; cases h
    | ok next =>
      rw [he] at h
      rw [enter_mono hn he]
      exact ih h

theorem locate_mono (hw : t'.workPlace = t.workPlace) (h : t'.locate path = .ok place) :
    t.locate path = .ok place := by
  unfold locate at h ⊢
  split at h
  · cases h
  · rename_i hp
    rw [if_neg hp]
    exact foldlM_enter_mono hn (hw ▸ h)

end Smaller

theorem node_erase (t : Tree) {place : Place} (hp : place ≠ []) (p : Place) :
    (t.erase place).node? p = if p = place then none else t.node? p := by
  by_cases he : p = []
  · subst he
    simp [node?, Ne.symm hp]
  · by_cases hpp : p = place
    · subst hpp
      simp [node?, erase, hp]
    · have hf : (t.nodes.filter (·.1 ≠ place)).find? (·.1 = p) = t.nodes.find? (·.1 = p) := by
        rw [Keyed.find?_without, if_neg (Ne.symm hpp)]
      simp only [node?, erase, he, hpp, ↓reduceIte, hf]

theorem node_put (t : Tree) {place : Place} (hp : place ≠ []) (node : Node) (p : Place) :
    (t.put place node).node? p = if p = place then some node else t.node? p := by
  by_cases hpp : p = place
  · subst hpp
    simp [node?, put, hp]
  · have hne := node_erase t hp p
    rw [if_neg hpp] at hne
    rw [if_neg hpp, ← hne]
    simp [node?, put, Ne.symm hpp]

theorem ne_nil_of_node {place : Place} (h : t.node? place ≠ some .directory) : place ≠ [] := by
  rintro rfl
  exact h rfl

/-- The mode of the file at a place, or another one if no file stands there. -/
def modeOr (mode : Nat) (t : Tree) (place : Place) : Nat :=
  match t.node? place with
  | some (.file _ old) => old
  | _ => mode

theorem write_eq_ok : t.write path data mode = .ok t' ↔
    ∃ place, t.locate path = .ok place ∧ t.node? place ≠ some .directory ∧
      namesDirectory path = false ∧ t' = t.put place (.file data (t.modeOr mode place)) := by
  unfold write
  cases hl : t.locate path with
  | error e => simp [bind, Except.bind]
  | ok place =>
    cases namesDirectory path with
    | true => simp [bind, Except.bind]
    | false =>
      cases hn : t.node? place with
      | none => simp [bind, Except.bind, hn, modeOr, eq_comm]
      | some node => cases node <;> simp [bind, Except.bind, hn, modeOr, eq_comm]

theorem writeAs_eq_ok : t.writeAs fate path data mode = .ok t' ↔
    (∀ cause, fate ≠ .refused cause) ∧ t.write path (fate.written data) mode = .ok t' := by
  cases fate <;> simp [writeAs]

@[simp] theorem locate_dropFate (t : Tree) (path : String) : t.dropFate.locate path = t.locate path := rfl

@[simp] theorem node_dropFate (t : Tree) (place : Place) : t.dropFate.node? place = t.node? place := rfl

/-- A place where no directory stands is on the way to no other one. -/
theorem locate_except {place : Place} (hn : t.node? place ≠ some .directory)
    (hw : t.workPlace = t'.workPlace) (he : ∀ p, p ≠ place → t'.node? p = t.node? p)
    (h : t.locate path = .ok q) : t'.locate path = .ok q := by
  have hkeep (p : Place) (hp : t.node? p = some .directory) : t'.node? p = some .directory := by
    rw [he p, hp]
    rintro rfl
    exact hn hp
  exact locate_mono hkeep hw h

theorem locate_put {place : Place} (hn : t.node? place ≠ some .directory) (node : Node)
    (h : t.locate path = .ok p) : (t.put place node).locate path = .ok p :=
  locate_except hn rfl (fun q hq => by rw [node_put t (ne_nil_of_node hn), if_neg hq]) h

theorem locate_erase {place : Place} (hn : t.node? place ≠ some .directory)
    (h : t.locate path = .ok p) : (t.erase place).locate path = .ok p :=
  locate_except hn rfl (fun q hq => by rw [node_erase t (ne_nil_of_node hn), if_neg hq]) h

/-- What has been written to a file is what it holds. -/
theorem read_write (h : t.write path data mode = .ok t') : t'.read path = .ok data := by
  obtain ⟨place, hl, hn, hd, rfl⟩ := write_eq_ok.mp h
  exact read_iff.mpr ⟨place, _, locate_put hn _ hl,
    by rw [node_put t (ne_nil_of_node hn), if_pos rfl], hd⟩

/-- A file that has been removed cannot be read, nor can one that cannot be removed. -/
theorem read_remove (h : t.remove path = .ok t') : t'.read path ≠ .ok data := by
  obtain ⟨place, _, _, hl, hn, -, rfl⟩ := remove_eq_ok.mp h
  have hp : place ≠ [] := by
    rintro rfl
    cases hn
  intro hr
  obtain ⟨q, mode, hq, hnode, -⟩ := read_iff.mp hr
  have hless (p : Place) (hnode : (t.erase place).node? p = some .directory) :
      t.node? p = some .directory := by
    rw [node_erase t hp] at hnode
    split at hnode
    · cases hnode
    · exact hnode
  cases hl.symm.trans (locate_mono hless rfl hq)
  simp [node_erase t hp] at hnode

theorem read_unremoved (h : t.remove path = .error e) : t.read path ≠ .ok data := by
  intro hr
  obtain ⟨place, mode, hl, hn, hd⟩ := read_iff.mp hr
  have hok := remove_eq_ok.mpr ⟨place, data, mode, hl, hn, hd, rfl⟩
  rw [h] at hok
  cases hok

theorem ensureDirectory_of_isDirectory (h : t.isDirectory path = true) :
    t.ensureDirectory path = (.ok (), t) := by
  obtain ⟨place, hl, hn⟩ := isDirectory_iff.mp h
  have hm : t.makeDirectory path = .error .exists := by
    simp [makeDirectory, hl, hn, bind, Except.bind]
  simp [ensureDirectory, hm, h]

theorem ensureDirectory_error (h : t.ensureDirectory path = (.error e, t')) :
    t' = t ∧ t.isDirectory path = false := by
  unfold ensureDirectory at h
  split at h
  · cases h
  · cases hd : t.isDirectory path with
    | true => simp [hd] at h
    | false => exact ⟨(Prod.mk.inj h).2.symm, rfl⟩

/-- Where a directory could not be made, none stands afterwards. The empty path needs none. -/
theorem makeDirectoriesWith_error (h : makeDirectoriesWith fuel t path = (.error e, t')) :
    fuel = 0 ∧ t' = t ∨ path ≠ "" ∧ t'.isDirectory path = false := by
  induction fuel generalizing path e t' with
  | zero => exact .inl ⟨rfl, (Prod.mk.inj h).2.symm⟩
  | succ fuel ih =>
    by_cases hp : path = ""
    · simp [makeDirectoriesWith, hp] at h
    refine .inr ⟨hp, ?_⟩
    rw [makeDirectoriesWith, if_neg hp] at h
    rcases he : t.ensureDirectory path with ⟨cause | _, t₁⟩ <;> rw [he] at h
    · obtain ⟨rfl, hnot⟩ := ensureDirectory_error he
      by_cases hc : cause = .notFound
      · subst hc
        cases ha : parent? path with
        | none =>
          simp only [ha, Prod.mk.injEq] at h
          exact h.2 ▸ hnot
        | some above =>
          rcases hm : makeDirectoriesWith fuel t₁ above with ⟨cause | _, t₂⟩ <;> simp only [ha, hm] at h
          · obtain ⟨-, rfl⟩ := Prod.mk.inj h
            rw [Bool.eq_false_iff]
            intro hd
            rcases ih hm with ⟨_, rfl⟩ | ⟨hne, hno⟩
            · rw [hnot] at hd; cases hd
            · -- Without the directory above it the path leads nowhere.
              rcases isDirectory_parent ha hd with hz | hz
              · exact hne hz
              · rw [hno] at hz; cases hz
          · obtain ⟨rfl, hd⟩ := ensureDirectory_error h
            exact hd
      · have hf : ((.error cause : Except OsError Unit), t₁) = (.error e, t') := by
          cases cause <;> first | exact absurd rfl hc | exact h
        exact (Prod.mk.inj hf).2 ▸ hnot
    · cases h

theorem makeDirectories_error (h : t.makeDirectories path = (.error e, t')) :
    path ≠ "" ∧ t'.isDirectory path = false :=
  (makeDirectoriesWith_error h).resolve_left fun h => absurd h.1 (Nat.succ_ne_zero _)

theorem makeDirectories_of_isDirectory (h : path = "" ∨ t.isDirectory path = true) :
    t.makeDirectories path = (.ok (), t) := by
  by_cases hp : path = ""
  · simp [makeDirectories, makeDirectoriesWith, hp]
  · rw [makeDirectories, makeDirectoriesWith, if_neg hp,
      ensureDirectory_of_isDirectory (h.resolve_left hp)]

theorem makeDirectoriesAs_error (h : t.makeDirectoriesAs fate path = (.error e, t')) :
    path ≠ "" ∧ t'.isDirectory path = false := by
  unfold makeDirectoriesAs at h
  split at h
  · split at h
    · cases h
    · rename_i hd
      obtain ⟨-, rfl⟩ := Prod.mk.inj h
      simpa using hd
  · exact makeDirectories_error h

theorem makeDirectoriesAs_of_isDirectory (h : path = "" ∨ t.isDirectory path = true) :
    t.makeDirectoriesAs fate path = (.ok (), t) := by
  unfold makeDirectoriesAs
  split
  · rw [if_pos h]
  · exact makeDirectories_of_isDirectory h

end Tree

end Files

end ChatClient
