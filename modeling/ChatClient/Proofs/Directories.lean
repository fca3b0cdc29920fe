import ChatClient.Proofs.Places

/-!
What making directories leaves of a tree: everything that stood there, with directories where nothing was. So
no file comes or goes by it, and a path that leads somewhere afterwards led there before, or nowhere.
-/
namespace ChatClient.Files.Tree

variable {t t' : Tree}

/-- A tree with more directories in it. -/
structure Grown (t t' : Tree) : Prop where
  workPlace : t'.workPlace = t.workPlace
  fates : t'.fates = t.fates
  node : ∀ p, t'.node? p = t.node? p ∨ t.node? p = none ∧ t'.node? p = some .directory

theorem Grown.refl (t : Tree) : t.Grown t := ⟨rfl, rfl, fun _ => .inl rfl⟩

theorem Grown.trans {t₁ t₂ t₃ : Tree} (h : t₁.Grown t₂) (h' : t₂.Grown t₃) : t₁.Grown t₃ where
  workPlace := h'.workPlace.trans h.workPlace
  fates := h'.fates.trans h.fates
  node p := by
    rcases h.node p with he | ⟨hn, hd⟩ <;> rcases h'.node p with he' | ⟨hn', hd'⟩
    · exact .inl (he'.trans he)
    · exact .inr ⟨he ▸ hn', hd'⟩
    · exact .inr ⟨hn, he'.trans hd⟩
    · exact .inr ⟨hn, hd'⟩

theorem Grown.modeOr (h : t.Grown t') (mode : Nat) (p : Place) : t'.modeOr mode p = t.modeOr mode p := by
  rcases h.node p with he | ⟨hn, hd⟩
  · simp [Tree.modeOr, he]
  · simp [Tree.modeOr, hn, hd]

theorem Grown.enter (h : t.Grown t') {p q : Place} (he : t'.enter p name = .ok q) :
    t.enter p name = .ok q ∨ t.enter p name = .error .notFound := by
  have hd := enter_directory he
  rcases h.node p with hp | ⟨hn, -⟩
  · exact .inl (by simpa [Tree.enter, hp ▸ hd, hd] using he)
  · exact .inr (by simp [Tree.enter, hn])

theorem Grown.foldlM_enter (h : t.Grown t') {names : List String} {p q : Place}
    (he : names.foldlM t'.enter p = .ok q) :
    names.foldlM t.enter p = .ok q ∨ names.foldlM t.enter p = .error .notFound := by
  induction names generalizing p with
  | nil => exact .inl he
  | cons name names ih =>
    rw [List.foldlM_cons] at he ⊢
    cases hn : t'.enter p name with
    | error e => rw [hn] at he; cases he
    | ok next =>
      rw [hn] at he
      rcases h.enter hn with hb | hb <;> rw [hb]
      · exact ih he
      · exact .inr rfl

theorem Grown.locate (h : t.Grown t') (hl : t'.locate path = .ok place) :
    t.locate path = .ok place ∨ t.locate path = .error .notFound := by
  unfold Tree.locate at hl ⊢
  split at hl
  · cases hl
  · rename_i hp
    rw [if_neg hp]
    exact h.foldlM_enter (h.workPlace ▸ hl)

theorem makeDirectory_grown (h : t.makeDirectory path = .ok t') : t.Grown t' := by
  unfold makeDirectory at h
  cases hl : t.locate path with
  | error e => rw [hl] at h; cases h
  | ok place =>
    cases hn : t.node? place with
    | some node => simp [hl, hn, bind, Except.bind] at h
    | none =>
      have he : t' = t.put place .directory := by simpa [hl, hn, bind, Except.bind, eq_comm] using h
      subst he
      have hfree : t.node? place ≠ some .directory := by simp [hn]
      refine ⟨rfl, rfl, fun p => ?_⟩
      rw [node_put t (ne_nil_of_node hfree)]
      split
      · rename_i hp
        exact .inr ⟨hp ▸ hn, rfl⟩
      · exact .inl rfl

theorem ensureDirectory_grown (t : Tree) (path : String) : t.Grown (t.ensureDirectory path).2 := by
  unfold ensureDirectory
  split
  · rename_i hm
    exact makeDirectory_grown hm
  · exact .refl t

theorem makeDirectoriesWith_grown (fuel : Nat) (t : Tree) (path : String) :
    t.Grown (makeDirectoriesWith fuel t path).2 := by
  induction fuel generalizing t path with
  | zero => exact .refl t
  | succ fuel ih =>
    unfold makeDirectoriesWith
    split
    · exact .refl t
    · have he := t.ensureDirectory_grown path
      split
      · rename_i t₁ hm
        rw [hm] at he
        split
        · exact he
        · rename_i above _
          have ha := ih t₁ above
          split
          · rename_i t₂ hm'
            rw [hm'] at ha
            exact (he.trans ha).trans (t₂.ensureDirectory_grown path)
          · exact he.trans ha
      · exact he

theorem makeDirectories_grown (t : Tree) (path : String) : t.Grown (t.makeDirectories path).2 :=
  makeDirectoriesWith_grown ..

theorem makeDirectoriesAs_grown (fate : Fate) (t : Tree) (path : String) :
    t.Grown (t.makeDirectoriesAs fate path).2 := by
  unfold makeDirectoriesAs
  split
  · split <;> exact .refl t
  · exact t.makeDirectories_grown path

end ChatClient.Files.Tree
