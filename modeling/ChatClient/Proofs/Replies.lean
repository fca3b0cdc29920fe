import ChatClient.Client.Call

/-!
What a reply says to a prompt, and what to a load of the history, as one list of cases each.
-/
namespace ChatClient

/-- A reply that refuses the token of its request. -/
def Http.Reply.refuses : Http.Reply → Bool
  | .ok response => response.isUnauthorized
  | .error _ => false

/-- What a prompt comes to with a reply. -/
inductive Answers : Http.Reply → Except SendError String → Prop
  | answer (hs : 200 ≤ r.status ∧ r.status < 300) (hb : r.body ≠ "") : Answers (.ok r) (.ok r.body)
  | empty (hs : 200 ≤ r.status ∧ r.status < 300) (hb : r.body = "") :
      Answers (.ok r) (.error .emptyAnswer)
  | refused (hs : r.status = 401 ∨ r.status = 403) : Answers (.ok r) (.error .unauthorized)
  | other (hs : ¬(200 ≤ r.status ∧ r.status < 300)) (hu : ¬(r.status = 401 ∨ r.status = 403)) :
      Answers (.ok r) (.error (.network r.statusMessage))
  | unreachable : Answers (.error e) (.error (.network e.message))

/-- What a load of the history comes to with a reply. -/
inductive Fetches : Http.Reply → Except FetchError (List Entry) → Prop
  | history (hs : 200 ≤ r.status ∧ r.status < 300) (hp : Entry.parsePast? r.body = some entries) :
      Fetches (.ok r) (.ok (entries.filter (!·.isPending)))
  | unreadable (hs : 200 ≤ r.status ∧ r.status < 300) (hp : Entry.parsePast? r.body = none) :
      Fetches (.ok r) (.error (.decode Json.mismatchText))
  | refused (hs : r.status = 401 ∨ r.status = 403) : Fetches (.ok r) (.error .unauthorized)
  | other (hs : ¬(200 ≤ r.status ∧ r.status < 300)) (hu : ¬(r.status = 401 ∨ r.status = 403)) :
      Fetches (.ok r) (.error (.network r.statusMessage))
  | unreachable : Fetches (.error e) (.error (.network e.message))

namespace Http.Response

theorem isSuccess_iff {r : Response} : r.isSuccess = true ↔ 200 ≤ r.status ∧ r.status < 300 := by
  simp [isSuccess]

theorem isUnauthorized_iff {r : Response} :
    r.isUnauthorized = true ↔ r.status = 401 ∨ r.status = 403 := by
  simp [isUnauthorized]

theorem success_not_unauthorized {r : Response} (h : 200 ≤ r.status ∧ r.status < 300) :
    r.isUnauthorized = false := by
  simp only [isUnauthorized, Bool.or_eq_false_iff, decide_eq_false_iff_not]
  omega

end Http.Response

theorem answerOf_answers (reply : Http.Reply) : Answers reply (answerOf reply) := by
  rcases reply with e | r
  · exact .unreachable
  · rw [answerOf]
    split
    · have hs := Http.Response.isSuccess_iff.mp (by assumption)
      split
      · exact .empty hs (by assumption)
      · exact .answer hs (by assumption)
    · have hs := mt Http.Response.isSuccess_iff.mpr (by assumption)
      split
      · exact .refused (Http.Response.isUnauthorized_iff.mp (by assumption))
      · exact .other hs (mt Http.Response.isUnauthorized_iff.mpr (by assumption))

theorem fetchedOf_fetches (reply : Http.Reply) : Fetches reply (fetchedOf reply) := by
  rcases reply with e | r
  · exact .unreachable
  · rw [fetchedOf]
    split
    · have hs := Http.Response.isSuccess_iff.mp (by assumption)
      split
      · exact .history hs (by assumption)
      · exact .unreadable hs (by assumption)
    · have hs := mt Http.Response.isSuccess_iff.mpr (by assumption)
      split
      · exact .refused (Http.Response.isUnauthorized_iff.mp (by assumption))
      · exact .other hs (mt Http.Response.isUnauthorized_iff.mpr (by assumption))

theorem fetchedOf_history {r : Http.Response} (hs : 200 ≤ r.status ∧ r.status < 300)
    (hp : Entry.parsePast? r.body = some entries) :
    fetchedOf (.ok r) = .ok (entries.filter (!·.isPending)) := by
  simp [fetchedOf, Http.Response.isSuccess_iff.mpr hs, hp]

theorem answerOf_answer {r : Http.Response} (hs : 200 ≤ r.status ∧ r.status < 300)
    (hb : r.body ≠ "") : answerOf (.ok r) = .ok r.body := by
  simp [answerOf, Http.Response.isSuccess_iff.mpr hs, hb]

theorem Answers.refuses :
    Answers reply result → (result matches .error .unauthorized) = reply.refuses := by
  intro h
  cases h with
  | answer hs | empty hs => exact (Http.Response.success_not_unauthorized hs).symm
  | refused hs => exact (Http.Response.isUnauthorized_iff.mpr hs).symm
  | other _ hu => exact (Bool.eq_false_iff.mpr (mt Http.Response.isUnauthorized_iff.mp hu)).symm
  | unreachable => rfl

theorem Fetches.refuses :
    Fetches reply result → (result matches .error .unauthorized) = reply.refuses := by
  intro h
  cases h with
  | history hs | unreadable hs => exact (Http.Response.success_not_unauthorized hs).symm
  | refused hs => exact (Http.Response.isUnauthorized_iff.mpr hs).symm
  | other _ hu => exact (Bool.eq_false_iff.mpr (mt Http.Response.isUnauthorized_iff.mp hu)).symm
  | unreachable => rfl

end ChatClient
