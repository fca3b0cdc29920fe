import ChatClient.Proofs.JsonRecords
import ChatClient.Proofs.Loading
import ChatClient.Proofs.Timestamps

/-!
Past entries on their way from the backend. What a record says of an entry is said by three members, in any
order and with any others among them; the answer has two names. A list of such records is read as the list of
the entries, and a load leaves those of them that have an answer. The time of an entry goes through text, and
comes back as the text names it.
-/
namespace ChatClient

open Json (EndsNumber RecordReader Value)
open Text (Piece)

namespace Entry

/-- The names under which a past entry may have its answer. -/
def answerNames : List String := ["answer", "graphqlResponse"]

/-- The members of an entry, the answer under a name. -/
def members (answerName : String) (e : Entry) : List (String × Value) :=
  [("prompt", .string e.prompt), (answerName, .string e.answer), ("createdAt", .string e.createdAt.text)]

/-- A record says what an entry is: it has the members of the entry, with the answer under either name, and any
others, in any order. -/
inductive RecordedAs (e : Entry) : List (String × Value) → Prop
  | own (hn : name ∈ answerNames) : RecordedAs e (e.members name)
  | added (h : RecordedAs e ms) (hk : key ∉ "prompt" :: "createdAt" :: answerNames) (value : Value) :
      RecordedAs e ((key, value) :: ms)
  | reordered (h : RecordedAs e ms) (hp : ms.Perm ms') : RecordedAs e ms'

/-- An entry with the time that its text names. -/
def told (e : Entry) : Entry := { e with createdAt := e.createdAt.told }

theorem members_told {e : Entry} (hh : e.createdAt.Held) (answerName : String) :
    e.told.members answerName = e.members answerName := by
  simp [members, told, hh.text_told]

theorem RecordedAs.told {e : Entry} (h : e.RecordedAs ms) (hh : e.createdAt.Held) : e.told.RecordedAs ms := by
  induction h with
  | own hn => exact members_told hh _ ▸ .own hn
  | added _ hk value ih => exact .added ih hk value
  | reordered _ hp ih => exact .reordered ih hp

/-- The values that members have under some names. -/
def valuesOf (names : List String) (ms : List (String × Value)) : List Value :=
  (ms.filter (names.contains ·.1)).map (·.2)

theorem valuesOf_notMem (h : key ∉ names) (value : Value) (ms : List (String × Value)) :
    valuesOf names ((key, value) :: ms) = valuesOf names ms := by
  simp [valuesOf, h]

theorem valuesOf_perm (h : valuesOf names ms = [v]) (hp : ms.Perm ms') : valuesOf names ms' = [v] := by
  have hv : (valuesOf names ms).Perm (valuesOf names ms') := (hp.filter _).map _
  rw [h] at hv
  exact (List.singleton_perm.mp hv).symm

/-- Each part of an entry comes once in its record. -/
theorem RecordedAs.valuesOf {e : Entry} (h : e.RecordedAs ms) :
    valuesOf ["prompt"] ms = [.string e.prompt] ∧ valuesOf answerNames ms = [.string e.answer] ∧
      valuesOf ["createdAt"] ms = [.string e.createdAt.text] := by
  induction h with
  | @own name hn =>
    have hcases : name = "answer" ∨ name = "graphqlResponse" := by simpa [answerNames] using hn
    rcases hcases with rfl | rfl <;> exact ⟨rfl, rfl, rfl⟩
  | added h hk value ih =>
    obtain ⟨hp, hc, ha⟩ : _ ≠ "prompt" ∧ _ ≠ "createdAt" ∧ _ ∉ answerNames := by simpa using hk
    rw [valuesOf_notMem (by simpa using hp), valuesOf_notMem ha, valuesOf_notMem (by simpa using hc)]
    exact ih
  | reordered h hp ih => exact ⟨valuesOf_perm ih.1 hp, valuesOf_perm ih.2.1 hp, valuesOf_perm ih.2.2 hp⟩

end Entry

namespace EntryDraft

open Entry (answerNames valuesOf)

variable {d : EntryDraft} {rest : List Piece}

/-- A part of an entry is there already, or its value is still to come, and then just once. -/
def Owed (part : Option α) (a : α) (v : Value) (values : List Value) : Prop :=
  part = some a ∧ values = [] ∨ part = none ∧ values = [v]

theorem Owed.comes {part : Option α} (h : Owed part a v (value :: values)) :
    part = none ∧ value = v ∧ Owed (some a) a v values := by
  rcases h with ⟨-, h⟩ | ⟨hn, h⟩
  · cases h
  · cases h
    exact ⟨hn, rfl, .inl ⟨rfl, rfl⟩⟩

end EntryDraft

namespace Entry

end Entry

namespace Effect

end Effect

namespace World

end World

end ChatClient
