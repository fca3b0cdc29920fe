import ChatClient.Proofs.TokenStores

/-!
Who may look into a token file. One that is made for the token is its owner's alone. One that stands there
already is written over and keeps its mode, so that a token can come to lie where others may read it.
-/
namespace ChatClient

/-- A mode with no permission for the group or for others. -/
def Files.ownerOnly (mode : Nat) : Bool := mode &&& 0o077 = 0

namespace Token.Store

open Files (Tree ownerOnly)

theorem ownerOnly_privateMode : ownerOnly privateMode = true := rfl

/-- A token that has been put into a file stands where the path leads, and is for its owner alone exactly if no
file stood there that was also for others. -/
theorem set_ownerOnly_iff {tree tree' : Tree}
    (h : (Store.file path tree).set token = (.ok (), .file path tree')) :
    ∃ place mode, tree'.locate path = .ok place ∧
      tree'.node? place = some (.file (Text.encodeUtf8 token) mode) ∧
      (ownerOnly mode = true ↔
        ∀ data old, tree.node? place = some (.file data old) → ownerOnly old = true) := by
  cases Sets.of_set h with
  | written hr hw hf =>
    obtain ⟨-, hw⟩ := Tree.writeAs_eq_ok.mp hw
    rw [written_finished hf] at hw
    obtain ⟨place, hl, hn, -, rfl⟩ := Tree.write_eq_ok.mp hw
    have hg := makeRoom_grown tree.nextFate path tree.dropFate
    rw [hr] at hg
    refine ⟨place, _, Tree.locate_put hn _ hl, by rw [Tree.node_put _ (Tree.ne_nil_of_node hn), if_pos rfl], ?_⟩
    rw [hg.modeOr, Tree.modeOr, Tree.node_dropFate]
    split
    · rename_i data old hf
      simp [hf]
    · rename_i hno
      exact iff_of_true ownerOnly_privateMode fun data old hf => absurd hf (hno data old)

theorem new_file_ownerOnly :
    ∃ tree' place mode, (Store.file "/home/token" .empty).set "secret" = (.ok (), .file "/home/token" tree') ∧
      tree'.locate "/home/token" = .ok place ∧
      tree'.node? place = some (.file (Text.encodeUtf8 "secret") mode) ∧ ownerOnly mode = true := by
  have h : (Store.file "/home/token" .empty).set "secret" = (.ok (), .file "/home/token"
      ⟨[(["home", "token"], .file (Text.encodeUtf8 "secret") 0o600), (["home"], .directory)], [], []⟩) := by
    decide +kernel
  obtain ⟨place, mode, hl, hn, hiff⟩ := set_ownerOnly_iff h
  refine ⟨_, place, mode, h, hl, hn, hiff.mpr ?_⟩
  intro data old hf
  simp [Tree.node?, Tree.empty] at hf

/-- A file that everybody may read takes the token in as it is. -/
theorem old_file_stays_readable :
    (Store.file "/token" ⟨[(["token"], .file (Text.encodeUtf8 "old") 0o644)], [], []⟩).set "secret" =
        (.ok (), .file "/token" ⟨[(["token"], .file (Text.encodeUtf8 "secret") 0o644)], [], []⟩) ∧
      ownerOnly 0o644 = false := by
  decide +kernel

end Token.Store

end ChatClient
