import Mathlib.Data.List.Find

/-!
Lists in which things are looked up by a key: the headers of a request, the replies that are scripted for the
paths, the nodes of a tree of files. What is looked up is the first one that has the key, and what has a key is
left out before another one takes its place.
-/
namespace ChatClient.Keyed

variable {α κ : Type} [DecidableEq κ] (key : α → κ) (k : κ)

/-- Leaving out one key hides nothing that has another one. -/
theorem find?_without (out : κ) (xs : List α) :
    (xs.filter (key · ≠ out)).find? (key · = k) = if out = k then none else xs.find? (key · = k) := by
  rw [List.find?_filter]
  split
  · rename_i hout
    rw [List.find?_eq_none]
    intro x _
    simp [hout]
  · rename_i hout
    apply List.find?_congr
    intro x _
    have hother : key x = k → key x ≠ out := fun hk ho => hout (ho.symm.trans hk)
    simpa using hother

/-- What takes the place of all that have its key is seen as if it stood in front of them. -/
theorem find?_replaced (x : α) (xs : List α) :
    (x :: xs.filter (key · ≠ key x)).find? (key · = k) = (x :: xs).find? (key · = k) := by
  rw [List.find?_cons, List.find?_cons, find?_without]
  by_cases hx : key x = k <;> simp [hx]

end ChatClient.Keyed
