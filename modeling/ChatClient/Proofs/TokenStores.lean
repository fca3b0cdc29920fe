import ChatClient.Proofs.Directories
import ChatClient.Proofs.Texts
import ChatClient.Token.Store

/-!
What a store of tokens holds after it has been used. One that has taken a token in holds that token, one that
has been cleared holds none. One that could not take a token in holds what it held, unless its file had been
opened by then.
-/
namespace ChatClient.Token.Store

/-- What becomes of a store by putting a token in. A file is written where its directories stand or can be
made, and where it can be opened; it is finished if the system brings all of it to the disk. -/
inductive Sets (token : String) : Store → Except StoreError Unit → Store → Prop
  | memory : Sets token (.memory held writes) (.ok ()) (.memory (some token) (writes + 1))
  | uncreated {tree made : Files.Tree} (hp : Files.parent? path = some above)
      (hm : tree.dropFate.makeDirectoriesAs tree.nextFate above = (.error cause, made)) :
      Sets token (.file path tree) (.error (.create above cause)) (.file path made)
  | unopened {tree made : Files.Tree} (hr : makeRoom tree.nextFate path tree.dropFate = (.ok (), made))
      (hw : made.writeAs tree.nextFate path (Text.encodeUtf8 token) privateMode = .error cause) :
      Sets token (.file path tree) (.error (.openFile path cause)) (.file path made)
  | unfinished {tree made tree' : Files.Tree}
      (hr : makeRoom tree.nextFate path tree.dropFate = (.ok (), made))
      (hw : made.writeAs tree.nextFate path (Text.encodeUtf8 token) privateMode = .ok tree')
      (hf : tree.nextFate.unfinished? = some cause) :
      Sets token (.file path tree) (.error (.writeFile cause)) (.file path tree')
  | written {tree made tree' : Files.Tree}
      (hr : makeRoom tree.nextFate path tree.dropFate = (.ok (), made))
      (hw : made.writeAs tree.nextFate path (Text.encodeUtf8 token) privateMode = .ok tree')
      (hf : tree.nextFate.unfinished? = none) :
      Sets token (.file path tree) (.ok ()) (.file path tree')

/-- The path of a file leads somewhere, whether or not a file stands there. -/
def Reached : Store → Prop
  | .memory .. => True
  | .file path tree => ∃ place, tree.locate path = .ok place

/-- Whether the system lets the next token be put in wherever what stands there allows it. -/
def granted : Store → Bool
  | .memory .. => true
  | .file _ tree => tree.nextFate = .granted

variable {tree tree' : Files.Tree} {s s' : Store}

theorem get?_file (h : ∀ data, tree.read path ≠ .ok data) : (Store.file path tree).get? = none := by
  rw [get?]
  cases hr : tree.read path with
  | ok data => exact absurd hr (h data)
  | error => rfl

/-- Where a file could be, its directories stand. -/
theorem makeRoom_of_locate (h : tree.locate path = .ok place) :
    makeRoom fate path tree = (.ok (), tree) := by
  unfold makeRoom
  cases ha : Files.parent? path with
  | none => rfl
  | some above =>
    simp [Files.Tree.makeDirectoriesAs_of_isDirectory (Files.Tree.locate_parent ha h)]

theorem makeRoom_uncreated (hp : Files.parent? path = some above)
    (hm : tree.makeDirectoriesAs fate above = (.error cause, tree')) :
    makeRoom fate path tree = (.error (.create above cause), tree') := by
  rw [makeRoom, hp]
  simp only [hm]

theorem makeRoom_eq_error (h : makeRoom fate path tree = (.error e, tree')) :
    ∃ above cause, Files.parent? path = some above ∧
      tree.makeDirectoriesAs fate above = (.error cause, tree') ∧ e = .create above cause := by
  unfold makeRoom at h
  cases hp : Files.parent? path with
  | none => simp [hp] at h
  | some above =>
    rcases hm : tree.makeDirectoriesAs fate above with ⟨cause | _, made⟩
    · simp only [hp, hm, Prod.mk.injEq, Except.error.injEq] at h
      obtain ⟨rfl, rfl⟩ := h
      exact ⟨above, cause, rfl, hm, rfl⟩
    · simp [hp, hm] at h

theorem makeRoom_error (h : makeRoom fate path tree = (.error e, tree')) :
    tree'.locate path ≠ .ok place := by
  intro hl
  obtain ⟨above, cause, ha, hm, -⟩ := makeRoom_eq_error h
  obtain ⟨hne, hno⟩ := Files.Tree.makeDirectoriesAs_error hm
  rcases Files.Tree.locate_parent ha hl with hd | hd
  · exact hne hd
  · rw [hno] at hd; cases hd

theorem makeRoom_grown (fate : Files.Fate) (path : String) (tree : Files.Tree) :
    tree.Grown (makeRoom fate path tree).2 := by
  unfold makeRoom
  split
  · exact .refl tree
  · rename_i above _
    have hg := tree.makeDirectoriesAs_grown fate above
    split <;> rename_i hm <;> rwa [hm] at hg

/-- A file that can be read can be written again. -/
theorem read_of_write_error (h : tree.write path bytes mode = .error e) : tree.read path ≠ .ok data := by
  intro hd
  obtain ⟨place, _, hl, hn, hname⟩ := Files.Tree.read_iff.mp hd
  rw [Files.Tree.write_eq_ok.mpr ⟨place, hl, by simp [hn], hname, rfl⟩] at h
  cases h

theorem set_sets (token : String) (s : Store) : Sets token s (s.set token).1 (s.set token).2 := by
  cases s with
  | memory held writes => exact .memory
  | file path tree =>
    rcases hr : makeRoom tree.nextFate path tree.dropFate with ⟨e | _, made⟩
    · obtain ⟨above, cause, hp, hm, rfl⟩ := makeRoom_eq_error hr
      simpa [set, hr] using Sets.uncreated hp hm
    · cases hw : made.writeAs tree.nextFate path (Text.encodeUtf8 token) privateMode with
      | error cause => simpa [set, hr, hw] using Sets.unopened hr hw
      | ok tree' =>
        cases hf : tree.nextFate.unfinished? with
        | some cause => simpa [set, hr, hw, hf] using Sets.unfinished hr hw hf
        | none => simpa [set, hr, hw, hf] using Sets.written hr hw hf

theorem Sets.of_set (h : s.set token = (r, s')) : Sets token s r s' := by
  simpa [h] using set_sets token s

theorem Sets.set_eq (h : Sets token s r s') : s.set token = (r, s') := by
  cases h with
  | memory => rfl
  | uncreated hp hm => simp [set, makeRoom_uncreated hp hm]
  | unopened hr hw => simp [set, hr, hw]
  | unfinished hr hw hf | written hr hw hf => simp [set, hr, hw, hf]

/-- A token can be read only where the path leads. -/
theorem get?_unreached (h : ¬ s.Reached) : s.get? = none := by
  cases s with
  | memory => exact absurd trivial h
  | file path tree =>
    refine get?_file fun data hd => h ?_
    obtain ⟨place, _, hl, _⟩ := Files.Tree.read_iff.mp hd
    exact ⟨place, hl⟩

/-- If a token cannot be put in where the path leads, the old one is there as before, unless the file has been
opened. -/
theorem get?_set_error (h : s.set token = (.error e, s')) (hs : s.Reached)
    (he : ∀ cause, e ≠ .writeFile cause) : s'.get? = s.get? := by
  cases Sets.of_set h with
  | @uncreated path above cause tree made hp hm =>
    obtain ⟨place, hl⟩ := hs
    have hr := makeRoom_uncreated hp hm
    rw [makeRoom_of_locate (by simpa using hl)] at hr
    cases hr
  | @unopened path cause tree made hr hw =>
    obtain ⟨place, hl⟩ := hs
    rw [makeRoom_of_locate (by simpa using hl)] at hr
    cases hr
    rfl
  | unfinished => exact absurd rfl (he _)

/-- If a token cannot be put in though the system lets it, there is none then. -/
theorem get?_set_granted (h : s.set token = (.error e, s')) (hg : s.granted = true) : s'.get? = none := by
  cases Sets.of_set h with
  | uncreated hp hm =>
    have hr := makeRoom_uncreated hp hm
    refine get?_file fun data hd => ?_
    obtain ⟨place, _, hl, _⟩ := Files.Tree.read_iff.mp hd
    exact makeRoom_error hr hl
  | @unopened path cause tree made hr hw =>
    have hgranted : tree.nextFate = .granted := by simpa [granted] using hg
    rw [hgranted] at hw
    exact get?_file fun _ => read_of_write_error hw
  | @unfinished path cause tree made tree' hr hw hf =>
    have hgranted : tree.nextFate = .granted := by simpa [granted] using hg
    rw [hgranted] at hf
    cases hf

/-- A token that cannot be finished leaves in its file as much as was written of it. -/
theorem set_unfinished (h : s.set token = (.error (.writeFile cause), s')) :
    ∃ path tree tree', s = .file path tree ∧ s' = .file path tree' ∧
      tree.nextFate.unfinished? = some cause ∧
      tree'.read path = .ok (tree.nextFate.written (Text.encodeUtf8 token)) := by
  cases Sets.of_set h with
  | unfinished hr hw hf =>
    exact ⟨_, _, _, rfl, rfl, hf, Files.Tree.read_write (Files.Tree.writeAs_eq_ok.mp hw).2⟩

/-- What a file gives back of a token: the text without the white space around it, if there is any. -/
def kept? (token : String) : Option String :=
  if Text.trim token = "" then none else some (Text.trim token)

theorem kept?_trimmed (ht : Text.trim token = token) (hne : token ≠ "") : kept? token = some token := by
  simp [kept?, ht, hne]

theorem tokenOfBytes?_encodeUtf8 (token : String) :
    tokenOfBytes? (Text.encodeUtf8 token) = kept? token := by
  simp [tokenOfBytes?, Text.decodeUtf8_encodeUtf8, kept?]

theorem written_finished {fate : Files.Fate} (h : fate.unfinished? = none) (data : List UInt8) :
    fate.written data = data := by
  cases fate <;> first | rfl | cases h

theorem get?_writeAs {fate : Files.Fate} {mode : Nat} (hf : fate.unfinished? = none)
    (h : tree.writeAs fate path (Text.encodeUtf8 token) mode = .ok tree') :
    (Store.file path tree').get? = kept? token := by
  have hw := (Files.Tree.writeAs_eq_ok.mp h).2
  rw [written_finished hf] at hw
  simp only [get?, Files.Tree.read_write hw, tokenOfBytes?_encodeUtf8]

/-- A file is read without the white space around its text, so that only a trimmed token comes back as it
was. -/
theorem get?_set (ht : Text.trim token = token) (hne : token ≠ "") (h : s.set token = (.ok (), s')) :
    s'.get? = some token := by
  cases Sets.of_set h with
  | memory => rfl
  | written hr hw hf => rw [get?_writeAs hf hw, kept?_trimmed ht hne]

/-- A cleared store holds no token. -/
theorem get?_clear (s : Store) : s.clear.2.get? = none := by
  cases s with
  | memory held writes => rfl
  | file path tree =>
    cases hr : tree.remove path with
    | ok rest => simpa only [clear, hr] using get?_file fun _ => Files.Tree.read_remove hr
    | error cause =>
      cases cause <;> simpa only [clear, hr] using get?_file fun _ => Files.Tree.read_unremoved hr

end ChatClient.Token.Store
