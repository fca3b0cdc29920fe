import ChatClient.Proofs.Keyed
import ChatClient.Proofs.Steps

/-!
The headers of requests. A header that is set stands in place of all that have its name, in whatever letters, and
the others keep their order. So after any settings a name has the value that was set last, and there are never
two headers of one name where there were none before. The token of a session is put on its requests in this way:
no other token goes with it.
-/
namespace ChatClient

namespace Text

theorem sameName_eq (a b : String) : sameName a b = decide (lowerAscii a = lowerAscii b) := by
  rw [Bool.eq_iff_iff, decide_eq_true_eq, ← String.toList_inj, lowerAscii, lowerAscii, String.toList_ofList,
    String.toList_ofList]
  exact beq_iff_eq

theorem afterLead?_append (lead s : String) : afterLead? lead (lead ++ s) = some s := by
  have hlead : lead.toList.isPrefixOf (lead ++ s).toList = true := by
    rw [String.toList_append]
    exact List.isPrefixOf_iff_prefix.mpr (List.prefix_append ..)
  rw [afterLead?, if_pos hlead, String.toList_append, List.drop_left, String.ofList_toList]

end Text

namespace Http.Request

open Text (lowerAscii)

theorem headers_setHeader (name value : String) (r : Request) :
    (r.setHeader name value).headers =
      r.headers.filter (lowerAscii ·.1 ≠ lowerAscii name) ++ [(name, value)] := by
  simp [setHeader, Text.sameName_eq]

theorem header?_eq (name : String) (r : Request) :
    r.header? name = (r.headers.find? (lowerAscii ·.1 = lowerAscii name)).map (·.2) := by
  simp [header?, Text.sameName_eq]

/-- Sets headers, one after the other. -/
def setHeaders (sets : List (String × String)) (r : Request) : Request :=
  sets.foldl (fun r h => r.setHeader h.1 h.2) r

/-- Who looks for a name finds the header that was set, or does not see that it was set. -/
theorem find?_setHeader (key name value : String) (r : Request) :
    (r.setHeader name value).headers.find? (lowerAscii ·.1 = key) =
      ((name, value) :: r.headers).find? (lowerAscii ·.1 = key) := by
  rw [headers_setHeader, List.find?_append, Keyed.find?_without]
  by_cases hkey : lowerAscii name = key <;> simp [hkey]

/-- The last setting of a name comes first, and after all settings what was there before. -/
theorem find?_setHeaders (key : String) (sets : List (String × String)) (r : Request) :
    (r.setHeaders sets).headers.find? (lowerAscii ·.1 = key) =
      (sets.reverse ++ r.headers).find? (lowerAscii ·.1 = key) := by
  induction sets generalizing r with
  | nil => rfl
  | cons h sets ih =>
    have hstep : (r.setHeaders (h :: sets)) = (r.setHeader h.1 h.2).setHeaders sets := rfl
    rw [hstep, ih, List.find?_append, find?_setHeader, ← List.find?_append, List.reverse_cons,
      List.append_assoc, List.singleton_append]

/-- No two headers have the same name. -/
def NamesDiffer (r : Request) : Prop := r.headers.Pairwise fun h k => lowerAscii h.1 ≠ lowerAscii k.1

theorem NamesDiffer.setHeader {r : Request} (hr : r.NamesDiffer) (name value : String) :
    (r.setHeader name value).NamesDiffer := by
  rw [NamesDiffer, headers_setHeader, List.pairwise_append]
  refine ⟨hr.filter _, List.pairwise_singleton _ _, ?_⟩
  intro h hh k hk
  rw [List.mem_singleton.mp hk]
  simpa using (List.mem_filter.mp hh).2

theorem NamesDiffer.setHeaders {r : Request} (hr : r.NamesDiffer) (sets : List (String × String)) :
    (r.setHeaders sets).NamesDiffer := by
  induction sets generalizing r with
  | nil => exact hr
  | cons h sets ih => exact ih (hr.setHeader h.1 h.2)

/-- A request with a token: it asks the same, the headers of other names stand as they stood, and the token
stands behind them, where it is found. -/
structure Bears (r : Request) (token : String) (r' : Request) : Prop where
  method : r'.method = r.method
  path : r'.path = r.path
  body : r'.body = r.body
  headers : r'.headers =
    r.headers.filter (lowerAscii ·.1 ≠ "authorization") ++ [("authorization", "Bearer " ++ token)]
  found : r'.bearer? = some token

theorem bearer?_setHeader (token : String) (r : Request) :
    (r.setHeader authorizationName ("Bearer " ++ token)).bearer? = some token := by
  rw [bearer?, header?_eq, find?_setHeader, List.find?_cons_of_pos (by simp)]
  exact Text.afterLead?_append "Bearer " token

theorem withToken_bears (token : String) (r : Request) : r.Bears token (r.withToken (some token)) where
  method := rfl
  path := rfl
  body := rfl
  headers := headers_setHeader authorizationName ("Bearer " ++ token) r
  found := bearer?_setHeader token r

end Http.Request

open Client (Begins)
open Http (Request)

/-- A request goes out with the stored token in place of any that was on it, or as it is if no token is stored.
And whatever headers are set one after the other, a name has the value that was set last, or else its first value
before, and two headers have one name only if that was so before. -/
theorem Session.authorize_bears (s : Session) (r : Request) :
    (∀ token, s.tokens.get? = some token → r.Bears token (s.authorize r)) ∧
      (s.tokens.get? = none → s.authorize r = r) ∧
      ∀ sets : List (String × String),
        (∀ name, (r.setHeaders sets).header? name =
          ((sets.reverse ++ r.headers).find? (Text.lowerAscii ·.1 = Text.lowerAscii name)).map (·.2)) ∧
        (r.NamesDiffer → (r.setHeaders sets).NamesDiffer) := by
  refine ⟨fun token ht => ?_, fun ht => ?_, fun sets => ⟨fun name => ?_, fun hr => hr.setHeaders sets⟩⟩
  · rw [authorize, ht]
    exact Request.withToken_bears token r
  · rw [authorize, ht]
    rfl
  · rw [Request.header?_eq, Request.find?_setHeaders]

/-- A request that has two tokens of its own goes out with the stored one alone, and of two settings of a name the
second counts. -/
theorem Session.stale_tokens_replaced :
    let s : Session := ⟨.memory (some "T") 0, .authenticated, 0, 0⟩
    let r : Request := ⟨.get, "/client", [("AUTHORIZATION", "Bearer S"), ("Accept", "a"), ("authorization", "R")], .empty⟩
    s.tokens.get? = some "T" ∧ r.Bears "T" (s.authorize r) ∧
      ((r.setHeaders [("accept", "b"), ("X", "c"), ("ACCEPT", "d")]).header? "Accept") = some "d" := by
  intro s r
  have ht : s.tokens.get? = some "T" := rfl
  obtain ⟨hbears, -, hset⟩ := s.authorize_bears r
  refine ⟨ht, hbears "T" ht, ?_⟩
  rw [(hset _).1]
  decide +kernel

theorem Session.authorize_bearer (s : Session) {bare : Request} (hb : bare.headers = []) :
    (s.authorize bare).bearer? = s.tokens.get? := by
  rw [authorize]
  cases ht : s.tokens.get? with
  | some token => exact (Request.withToken_bears token bare).found
  | none => simp [Request.withToken, Request.bearer?, Request.header?, hb]

theorem Client.Begins.bearer {c d : Client} (h : Begins now c call (.waiting request ticket) d) :
    request.bearer? = c.session.tokens.get? := by
  cases h with
  | login | register | asked | loading => exact c.session.authorize_bearer rfl

/-- Whatever a client sends, and whenever, goes out with the token that is stored then, or without one if none
is. -/
theorem World.sent_bearer {w w' : World} (h : w.step e = (.sent request, w')) :
    request.bearer? = w.client.session.tokens.get? := by
  have hs := step_steps e w
  rw [h] at hs
  cases hs with
  | sent hb => exact hb.bearer

end ChatClient
