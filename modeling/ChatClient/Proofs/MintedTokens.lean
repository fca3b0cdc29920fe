import ChatClient.Proofs.Base64
import ChatClient.Proofs.JsonRecords
import ChatClient.Proofs.Places
import ChatClient.Proofs.TokenClaims
import ChatClient.Token.Mint

/-!
Tokens as the backend writes them. A minted token goes through the writing of JSON, the bytes of the text, base 64
and the dots between the segments, and each of them is undone by reading it: the token decodes to the expiry and the
subject that were put into it, whatever characters the subject has.
-/
namespace ChatClient.Token

open Json (EndsNumber RecordReader Value)
open Text (Piece)

variable {rest : List Piece}

/-! ### The claims as JSON -/

/-- The members of minted claims, in the order of their keys. -/
theorem mintedClaims_eq (subject : String) (issued expires : Time.Instant) :
    mintedClaims subject issued expires =
      .object [("exp", .ofInt expires.seconds), ("iat", .ofInt issued.seconds), ("sub", .string subject)] := by
  have hfirst : "exp" < "iat" := by decide
  have hlast : "iat" < "sub" := by decide
  simp [mintedClaims, Value.ofMembers, Json.insertMember, hfirst, hlast]

/-- A value that is not null is read as such. -/
theorem readOptional_present {v : Value} (h : v ≠ .null)
    (read : List Piece → Option (α × List Piece)) (rest : List Piece) :
    readOptional read (v.write.map .char ++ rest) =
      (read (v.write.map .char ++ rest)).map fun (a, rest) => (some a, rest) := by
  obtain ⟨c, cs, hc, hs, -⟩ := v.exists_head
  have hn : c ≠ 'n' := by
    rintro rfl
    exact Value.write_ne_null h cs hc
  rw [hc, List.map_cons, List.cons_append, readOptional, Json.skipSpace_cons hs]
  split
  · rename_i he
    simp [hn] at he
  · rfl

/-! How each member of the claims is read into the draft. -/

theorem member_exp {n : Int} (hlow : -(Text.limit 63 : Int) ≤ n) (hhigh : n < Text.limit64)
    (hr : EndsNumber rest) (subject : Option (Option String)) :
    claimsReader.member ⟨none, subject⟩ "exp" ((Value.ofInt n).write.map .char ++ rest) =
      some (⟨some (some (.ofInt n)), subject⟩, rest) := by
  have hpresent : Value.ofInt n ≠ .null := nofun
  have hread := Json.readValue_ofInt hlow hhigh hr (Json.depthLimit - 1)
  simp [claimsReader, ClaimsDraft.readMember, ClaimsDraft.readExpiry, readOptional_present hpresent, hread]

theorem member_sub (expiry : Option (Option Value)) (s : String) (rest : List Piece) :
    claimsReader.member ⟨expiry, none⟩ "sub" ((Value.string s).write.map .char ++ rest) =
      some (⟨expiry, some (some s)⟩, rest) := by
  have hpresent : Value.string s ≠ .null := nofun
  have hread : Json.readString ((Value.string s).write.map .char ++ rest) = some (s, rest) :=
    Json.readString_writeString s rest
  simp [claimsReader, ClaimsDraft.readMember, ClaimsDraft.readSubject, readOptional_present hpresent, hread]

theorem member_other (d : ClaimsDraft) (he : key ≠ "exp") (hs : key ≠ "sub") (v : Value)
    (hr : EndsNumber rest) : claimsReader.member d key (v.write.map .char ++ rest) = some (d, rest) := by
  simp [claimsReader, ClaimsDraft.readMember, he, hs, Json.skipValue_write v hr]

theorem ofBytes?_mintedClaims (subject : String) (issued : Time.Instant) {expires : Time.Instant}
    (hlow : -(Text.limit 63 : Int) ≤ expires.seconds) (hhigh : expires.seconds < Text.limit64) :
    Claims.ofBytes? (Text.encodeUtf8 (mintedClaims subject issued expires).text) =
      some ⟨some (.ofInt expires.seconds), some subject⟩ := by
  have htakes : claimsReader.Takes claimsReader.empty
      [("exp", .ofInt expires.seconds), ("iat", .ofInt issued.seconds), ("sub", .string subject)]
      ⟨some (some (.ofInt expires.seconds)), some (some subject)⟩ :=
    .cons (fun _ hr => member_exp hlow hhigh hr none)
      (.cons (fun _ hr => member_other _ (by decide) (by decide) _ hr)
        (.cons (fun rest _ => member_sub _ subject rest) .nil))
  have hread := htakes.read []
  rw [List.append_nil] at hread
  have hpieces : Text.pieces (Text.encodeUtf8 (mintedClaims subject issued expires).text) =
      (mintedClaims subject issued expires).write.map .char := by
    rw [Text.pieces, Text.decodeUtf8_encodeUtf8]
    simp only [Text.piecesOfText, Value.text, String.toList_ofList]
  rw [Claims.ofBytes?, hpieces, mintedClaims_eq, Json.document?_eq hread]
  rfl

/-! ### Segments and the dots between them -/

theorem toList_segment (s : String) :
    (segment s).toList = Text.Base64.encodeWith Text.Base64.urlDigit (Text.encodeUtf8 s) := by
  simp [segment, Text.Base64.encodeUrl]

theorem isUrlDigit_of_segment (h : c ∈ (segment s).toList) : Text.Base64.IsUrlDigit c := by
  rw [toList_segment] at h
  exact Text.Base64.isUrlDigit_of_mem h

/-- A segment is read as the bytes of the text that was written into it. -/
theorem ofSegment_segment (h : Claims.ofBytes? (Text.encodeUtf8 s) = some claims) :
    Claims.ofSegment (segment s).toList = .ok claims := by
  have hkept : Text.dropEnd (· = '=') (segment s).toList = (segment s).toList :=
    Text.dropEnd_noEnd fun c hc => decide_eq_false (isUrlDigit_of_segment hc).ne_padding
  rw [Claims.ofSegment, hkept, toList_segment, Text.Base64.decodeUrlChars?_encodeWith]
  simp only [h]

theorem segments?_dots {header payload signature : List Char} (hh : '.' ∉ header) (hp : '.' ∉ payload)
    (hs : '.' ∉ signature) :
    segments? (header ++ '.' :: (payload ++ '.' :: signature)) = some (header, payload, signature) := by
  have hcut : Text.cutAll '.' (header ++ '.' :: (payload ++ '.' :: signature)) = [header, payload, signature] := by
    rw [Text.cutAll_append_cons, Text.cutAll_append_cons, Text.cutAll_eq_splitOn, Text.cutAll_eq_splitOn,
      Text.cutAll_eq_splitOn, List.splitOn_eq_singleton hh, List.splitOn_eq_singleton hp,
      List.splitOn_eq_singleton hs]
    rfl
  rw [segments?, hcut]

theorem toList_mint (subject : String) (issued expires : Time.Instant) :
    (mint subject issued expires).toList = (segment mintedHeader.text).toList ++
      '.' :: ((segment (mintedClaims subject issued expires).text).toList ++
        '.' :: (segment "mock-signature").toList) := by
  simp [mint]

theorem trimChars_mint (subject : String) (issued expires : Time.Instant) :
    Text.trimChars (mint subject issued expires).toList = (mint subject issued expires).toList := by
  apply Text.trimChars_noBlank
  intro c hc
  simp only [toList_mint, List.mem_append, List.mem_cons] at hc
  rcases hc with hc | rfl | hc | rfl | hc
  · exact (isUrlDigit_of_segment hc).noBlank
  · decide
  · exact (isUrlDigit_of_segment hc).noBlank
  · decide
  · exact (isUrlDigit_of_segment hc).noBlank

theorem carries_mint (subject : String) (issued : Time.Instant) {expires : Time.Instant}
    (hlow : -(Text.limit 63 : Int) ≤ expires.seconds) (hhigh : expires.seconds < Text.limit64) :
    Carries (mint subject issued expires) ⟨some (.ofInt expires.seconds), some subject⟩ := by
  have hdot : ∀ s, '.' ∉ (segment s).toList := fun s hm => (isUrlDigit_of_segment hm).ne_dot rfl
  have hclaims := ofSegment_segment (ofBytes?_mintedClaims subject issued hlow hhigh)
  refine ⟨(segment mintedHeader.text).toList, _, (segment "mock-signature").toList, ?_, hclaims⟩
  rw [trimChars_mint, toList_mint]
  exact segments?_dots (hdot _) (hdot _) (hdot _)

/-- A minted token decodes to itself, to the second of the expiry, and to the subject that it was minted for: for
any text as the subject, at any time of issue, and for any expiry whose second fits sixty-four bits, as that of
every instant does whose year can be written. -/
theorem decode_mint (subject : String) (issued expires : Time.Instant)
    (hlow : -(Text.limit 63 : Int) ≤ expires.seconds) (hhigh : expires.seconds < Text.limit 63) :
    let token := mint subject issued expires
    ∃ credential, Credential.decode token = .ok credential ∧ credential.raw = token ∧
      credential.expiresAt = expires.seconds ∧ credential.subject? = some subject := by
  intro token
  have hwide : expires.seconds < Text.limit64 := Int.lt_trans hhigh (by decide)
  have hcarries : Carries token _ := carries_mint subject issued hlow hwide
  have hraw : Text.trim token = token := by
    rw [Text.trim, trimChars_mint, String.ofList_toList]
  have hseconds : expirySeconds? (.ofInt expires.seconds) = some expires.seconds := by
    simp only [Value.ofInt, expirySeconds?, clampSeconds]
    congr 1
    omega
  have hdecode := Credential.decode_of_carries hcarries hseconds
  rw [hraw] at hdecode
  exact ⟨_, hdecode, rfl, rfl, Credential.subject?_eq hraw.symm hcarries⟩

/-- A token that expired in the first second that can be written, for a subject with quotes, a backslash, control
characters and a character outside the first plane. -/
theorem first_second_minted :
    let subject := "a \"b\" \\ \u0001\n\u007f😀"
    let token := mint subject ⟨1740000000, 0⟩ ⟨Time.Instant.firstSecond, 5⟩
    ∃ credential, Credential.decode token = .ok credential ∧ credential.raw = token ∧
      credential.expiresAt = Time.Instant.firstSecond ∧ credential.subject? = some subject :=
  decode_mint _ ⟨1740000000, 0⟩ ⟨Time.Instant.firstSecond, 5⟩ (by decide +kernel) (by decide +kernel)

/-- The seconds of all instants whose year can be written fit. -/
example : -(Text.limit 63 : Int) ≤ Time.Instant.firstSecond ∧ Time.Instant.lastSecond < Text.limit 63 := by
  decide +kernel

end ChatClient.Token
