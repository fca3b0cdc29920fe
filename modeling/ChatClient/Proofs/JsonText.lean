import ChatClient.Proofs.JsonNumbers

/-!
JSON text that has been written is read again: a string as the same text, and any value is passed over up to its
end. What stands behind a value may be anything that a number could not go on with.
-/
namespace ChatClient.Json

open Text (Piece hexDigit? digitChar fixedDigits)

variable {rest : List Piece}

/-! ## Strings -/

/-- An element stands for one character, whatever follows it. -/
def Element.Means (e : Element) (c : Char) : Prop := ∀ es, textOf? (e :: es) = (textOf? es).map (c :: ·)

theorem Element.plain_means (c : Char) : (Element.plain c).Means c := by
  intro es
  rw [textOf?]

theorem Element.unit_means (h : n < 0xD800) : (Element.unit n).Means (Char.ofNat n) := by
  have hhigh : isHighUnit n = false := by
    simp [isHighUnit]
    omega
  have hlow : isLowUnit n = false := by
    simp [isLowUnit]
    omega
  intro es
  cases es with
  | nil => simp [textOf?, hhigh, hlow]
  | cons e es => cases e <;> simp [textOf?, hhigh, hlow]

theorem fixedDigits_control : ∀ n < 0x20, fixedDigits 16 4 n = ['0', '0', digitChar (n / 16), digitChar (n % 16)] := by
  decide

theorem unitOf?_control : ∀ n < 0x20, unitOf? '0' '0' (digitChar (n / 16)) (digitChar (n % 16)) = some n := by
  decide

theorem scanString_plain (hq : c ≠ '"') (hb : c ≠ '\\') (hc : ¬ c.toNat < 0x20) (rest : List Piece) :
    scanString (.char c :: rest) = (scanString rest).map fun (es, rest) => (.plain c :: es, rest) := by
  have hok : ¬ (c.toNat < 0x20 ∨ c = '\\') := by
    rintro (h | h)
    · exact hc h
    · exact hb h
  rw [scanString]
  · exact if_neg hok
  all_goals simp [hq, hb]

theorem scanString_writeChar (c : Char) : ∃ e : Element, e.Means c ∧ ∀ rest,
    scanString ((writeChar c).map .char ++ rest) = (scanString rest).map fun (es, rest) => (e :: es, rest) := by
  unfold writeChar
  split
  case h_8 h1 h2 h3 h4 h5 h6 h7 =>
    split
    · rename_i hc
      refine ⟨.unit c.toNat, ?_, fun rest => ?_⟩
      · have hm := Element.unit_means (n := c.toNat) (by omega)
        rwa [Char.ofNat_toNat] at hm
      · rw [fixedDigits_control _ hc]
        simp [scanString, unitOf?_control _ hc]
    · rename_i hc
      exact ⟨.plain _, Element.plain_means _, fun rest => scanString_plain h1 h2 hc rest⟩
  all_goals
    refine ⟨.plain _, Element.plain_means _, fun rest => ?_⟩
    simp [scanString, unescape?]

theorem scanString_write (cs : List Char) : ∃ es, textOf? es = some cs ∧
    ∀ rest, scanString ((cs.flatMap writeChar ++ ['"']).map .char ++ rest) = some (es, rest) := by
  induction cs with
  | nil => exact ⟨[], rfl, fun rest => by simp [scanString]⟩
  | cons c cs ih =>
    obtain ⟨e, he, hscan⟩ := scanString_writeChar c
    obtain ⟨es, hes, hrest⟩ := ih
    refine ⟨e :: es, ?_, fun rest => ?_⟩
    · rw [he, hes]
      rfl
    · rw [List.flatMap_cons, List.append_assoc, List.map_append, List.append_assoc, hscan, hrest]
      rfl

theorem readText_write (s : String) (rest : List Piece) :
    readText ((s.toList.flatMap writeChar ++ ['"']).map .char ++ rest) = some (s, rest) := by
  obtain ⟨es, hes, hscan⟩ := scanString_write s.toList
  simp only [readText, hscan, hes, Option.bind_eq_bind, Option.bind_some, String.ofList_toList]

theorem skipSpace_cons (h : isSpace (.char c) = false) (rest : List Piece) :
    skipSpace (.char c :: rest) = .char c :: rest := by
  simp [skipSpace, h]

theorem skipSpace_writeString (s : String) (rest : List Piece) :
    skipSpace ((writeString s).map .char ++ rest) =
      .char '"' :: ((s.toList.flatMap writeChar ++ ['"']).map .char ++ rest) := by
  rw [writeString, List.map_cons, List.cons_append]
  exact skipSpace_cons rfl _

theorem readString_writeString (s : String) (rest : List Piece) :
    readString ((writeString s).map .char ++ rest) = some (s, rest) := by
  rw [readString, skipSpace_writeString]
  exact readText_write s rest

/-! ## Values -/

/-- A character with which a value begins: no space, and no end of a container. -/
def Opens (c : Char) : Prop := isSpace (.char c) = false ∧ c ≠ ']' ∧ c ≠ '\x7d'

instance : DecidablePred Opens := fun c =>
  inferInstanceAs (Decidable (isSpace (.char c) = false ∧ c ≠ ']' ∧ c ≠ '\x7d'))

theorem opens_of_number (h : c = '-' ∨ c.isDigit = true) : Opens c := by
  rcases h with rfl | h
  · decide
  · have hs : c ≠ ' ' ∧ c ≠ '\n' ∧ c ≠ '\t' ∧ c ≠ '\r' ∧ c ≠ ']' ∧ c ≠ '\x7d' := by
      refine ⟨?_, ?_, ?_, ?_, ?_, ?_⟩ <;> (rintro rfl; cases h)
    simpa [Opens, isSpace, and_assoc] using hs

theorem Value.exists_head (v : Value) : ∃ c cs, v.write = c :: cs ∧ Opens c := by
  cases v with
  | null => exact ⟨'n', _, rfl, by decide⟩
  | bool b => cases b <;> exact ⟨_, _, rfl, by decide⟩
  | number n =>
    obtain ⟨s, hs, he⟩ := n.write_spelled
    obtain ⟨c, cs, hc, hopen⟩ := Spelling.exists_head hs
    exact ⟨c, cs, by rw [Value.write, he, hc], opens_of_number hopen⟩
  | string s => exact ⟨'"', _, rfl, by decide⟩
  | array items => exact ⟨'[', _, rfl, by decide⟩
  | object members => exact ⟨'\x7b', _, rfl, by decide⟩

/-- No other value begins like a number. -/
theorem startsNumber (h : c = '-' ∨ c.isDigit = true) :
    c ≠ '"' ∧ c ≠ '[' ∧ c ≠ '\x7b' ∧ c ≠ 'n' ∧ c ≠ 't' ∧ c ≠ 'f' := by
  rcases h with rfl | h
  · decide
  · refine ⟨?_, ?_, ?_, ?_, ?_, ?_⟩ <;> (rintro rfl; cases h)

/-- Only null begins with its first letter. -/
theorem Value.write_ne_null {v : Value} (h : v ≠ .null) (cs : List Char) : v.write ≠ 'n' :: cs := by
  cases v with
  | null => exact absurd rfl h
  | bool b => cases b <;> exact nofun
  | number n =>
    obtain ⟨s, hs, he⟩ := n.write_spelled
    obtain ⟨c, ds, hc, hopen⟩ := Spelling.exists_head hs
    rw [Value.write, he, hc]
    intro hn
    exact (startsNumber hopen).2.2.2.1 (List.cons.inj hn).1
  | string s => exact nofun
  | array items => exact nofun
  | object members => exact nofun

theorem skipValueWith_number {s : Spelling} (h : s.Valid) (hr : EndsNumber rest) (fuel : Nat) :
    skipValueWith (fuel + 1) (s.chars.map .char ++ rest) = some rest := by
  have hscan := scanNumber_chars h hr
  obtain ⟨c, cs, hc, hopen⟩ := Spelling.exists_head h
  have hspace := (opens_of_number hopen).1
  have hstart := startsNumber hopen
  rw [hc, List.map_cons, List.cons_append] at hscan ⊢
  rw [skipValueWith, skipSpace_cons hspace]
  split
  case h_7 => rw [hscan]; rfl
  all_goals
    rename_i he
    simp [hstart] at he

theorem readValueWith_number {s : Spelling} (h : s.Valid) (hv : s.text.value? = some n) (hr : EndsNumber rest)
    (fuel depth : Nat) :
    readValueWith (fuel + 1) depth (s.chars.map .char ++ rest) = some (.number n, rest) := by
  have hscan := scanNumber_chars h hr
  obtain ⟨c, cs, hc, hopen⟩ := Spelling.exists_head h
  have hspace := (opens_of_number hopen).1
  have hstart := startsNumber hopen
  rw [hc, List.map_cons, List.cons_append] at hscan ⊢
  rw [readValueWith, skipSpace_cons hspace]
  split
  case h_7 => simp only [hscan, hv, Option.bind_eq_bind, Option.bind_some]
  all_goals
    rename_i he
    simp [hstart] at he

/-- A whole number that fits sixty-four bits is read as it was written. -/
theorem readValue_ofInt {n : Int} (hlow : -(Text.limit 63 : Int) ≤ n) (hhigh : n < Text.limit64)
    (hr : EndsNumber rest) (depth : Nat) :
    readValue depth ((Value.ofInt n).write.map .char ++ rest) = some (.ofInt n, rest) := by
  have hread := readValueWith_number (Spelling.valid_ofInt n) (Spelling.value?_ofInt hlow hhigh) hr
  rw [readValue, Value.ofInt, Value.write, Number.write, writeInt_eq]
  exact hread _ depth

theorem closesAtOnce_cons (hs : isSpace (.char c) = false) (hc : c ≠ close) (rest : List Piece) :
    closesAtOnce close (.char c :: rest) = none := by
  simp [closesAtOnce, skipSpace_cons hs, hc]

theorem readSeparator_comma (close : Char) (rest : List Piece) :
    readSeparator close (.char ',' :: rest) = some (true, rest) := rfl

theorem readSeparator_bracket (rest : List Piece) :
    readSeparator ']' (.char ']' :: rest) = some (false, rest) := rfl

theorem readSeparator_brace (rest : List Piece) :
    readSeparator '\x7d' (.char '\x7d' :: rest) = some (false, rest) := rfl

theorem readColon_cons (rest : List Piece) : readColon (.char ':' :: rest) = some rest := rfl

theorem map_writeItems_last (item : Value) (rest : List Piece) :
    (writeItems [item]).map .char ++ rest = item.write.map .char ++ .char ']' :: rest := by
  simp [writeItems]

theorem map_writeItems_cons (item next : Value) (items : List Value) (rest : List Piece) :
    (writeItems (item :: next :: items)).map .char ++ rest =
      item.write.map .char ++ .char ',' :: ((writeItems (next :: items)).map .char ++ rest) := by
  simp [writeItems]

theorem map_writeMembers_last (key : String) (value : Value) (rest : List Piece) :
    (writeMembers [(key, value)]).map .char ++ rest =
      (writeString key).map .char ++ .char ':' :: (value.write.map .char ++ .char '\x7d' :: rest) := by
  simp [writeMembers]

theorem map_writeMembers_cons (key : String) (value : Value) (next : String × Value)
    (members : List (String × Value)) (rest : List Piece) :
    (writeMembers ((key, value) :: next :: members)).map .char ++ rest =
      (writeString key).map .char ++ .char ':' ::
        (value.write.map .char ++ .char ',' :: ((writeMembers (next :: members)).map .char ++ rest)) := by
  simp [writeMembers]

theorem writeItems_head (item : Value) (items : List Value) :
    ∃ c cs, writeItems (item :: items) = c :: cs ∧ Opens c := by
  obtain ⟨c, cs, hc, hopen⟩ := item.exists_head
  cases items <;> exact ⟨c, _, by simp only [writeItems, hc]; rfl, hopen⟩

theorem writeMembers_head (key : String) (value : Value) (members : List (String × Value)) :
    ∃ cs, writeMembers ((key, value) :: members) = '"' :: cs := by
  cases members <;> exact ⟨_, by simp only [writeMembers, writeString]; rfl⟩

mutual

theorem skipValueWith_write : ∀ (v : Value) (fuel : Nat) (rest : List Piece), v.write.length ≤ fuel →
    EndsNumber rest → skipValueWith fuel (v.write.map .char ++ rest) = some rest
  | v, 0, rest, h, _ => by
    obtain ⟨c, cs, hc, -⟩ := v.exists_head
    rw [hc] at h
    cases h
  | .null, fuel + 1, rest, _, _ => by
    simp [Value.write, skipValueWith, skipSpace, isSpace, expect]
  | .bool true, fuel + 1, rest, _, _ => by
    simp [Value.write, skipValueWith, skipSpace, isSpace, expect]
  | .bool false, fuel + 1, rest, _, _ => by
    simp [Value.write, skipValueWith, skipSpace, isSpace, expect]
  | .number n, fuel + 1, rest, _, hr => by
    obtain ⟨s, hs, he⟩ := n.write_spelled
    rw [Value.write, he]
    exact skipValueWith_number hs hr fuel
  | .string s, fuel + 1, rest, _, _ => by
    obtain ⟨es, -, hscan⟩ := scanString_write s.toList
    rw [Value.write, writeString, List.map_cons, List.cons_append, skipValueWith, skipSpace_cons rfl]
    simp only [hscan, Option.map_some]
  | .array [], fuel + 1, rest, _, _ => by
    simp [Value.write, writeItems, skipValueWith, skipSpace, isSpace, closesAtOnce]
  | .array (item :: items), fuel + 1, rest, h, _ => by
    rw [Value.write, List.length_cons] at h
    have hitems := skipItems_write item items fuel rest (by omega)
    obtain ⟨c, cs, hc, hs, hclose, -⟩ := writeItems_head item items
    rw [hc, List.map_cons, List.cons_append] at hitems
    rw [Value.write, hc, List.map_cons, List.map_cons, List.cons_append, List.cons_append, skipValueWith,
      skipSpace_cons rfl]
    simp only [closesAtOnce_cons hs hclose, hitems]
  | .object [], fuel + 1, rest, _, _ => by
    simp [Value.write, writeMembers, skipValueWith, skipSpace, isSpace, closesAtOnce]
  | .object ((key, value) :: members), fuel + 1, rest, h, _ => by
    rw [Value.write, List.length_cons] at h
    have hmembers := skipMembers_write key value members fuel rest (by omega)
    obtain ⟨cs, hc⟩ := writeMembers_head key value members
    rw [hc, List.map_cons, List.cons_append] at hmembers
    rw [Value.write, hc, List.map_cons, List.map_cons, List.cons_append, List.cons_append, skipValueWith,
      skipSpace_cons rfl]
    have hopen : closesAtOnce '\x7d' (.char '"' :: (cs.map .char ++ rest)) = none :=
      closesAtOnce_cons rfl (by decide) _
    simp only [hopen, hmembers]

theorem skipItems_write : ∀ (item : Value) (items : List Value) (fuel : Nat) (rest : List Piece),
    (writeItems (item :: items)).length ≤ fuel →
      skipItems fuel ((writeItems (item :: items)).map .char ++ rest) = some rest
  | item, items, 0, rest, h => by
    obtain ⟨c, cs, hc, -⟩ := writeItems_head item items
    rw [hc] at h
    cases h
  | item, [], fuel + 1, rest, h => by
    simp only [writeItems, List.length_append, List.length_cons] at h
    have hv := skipValueWith_write item fuel (.char ']' :: rest) (by omega) (endsNumber_bracket rest)
    rw [map_writeItems_last, skipItems]
    simp only [hv, Option.bind_eq_bind, Option.bind_some, readSeparator_bracket, Bool.false_eq_true, if_false]
  | item, next :: items, fuel + 1, rest, h => by
    simp only [writeItems, List.length_append, List.length_cons] at h
    have hv := skipValueWith_write item fuel (.char ',' :: ((writeItems (next :: items)).map .char ++ rest))
      (by omega) (endsNumber_comma _)
    have hmore := skipItems_write next items fuel rest (by omega)
    rw [map_writeItems_cons, skipItems]
    simp only [hv, Option.bind_eq_bind, Option.bind_some, readSeparator_comma, if_true, hmore]

theorem skipMembers_write : ∀ (key : String) (value : Value) (members : List (String × Value)) (fuel : Nat)
    (rest : List Piece), (writeMembers ((key, value) :: members)).length ≤ fuel →
      skipMembers fuel ((writeMembers ((key, value) :: members)).map .char ++ rest) = some rest
  | key, value, members, 0, rest, h => by
    obtain ⟨cs, hc⟩ := writeMembers_head key value members
    rw [hc] at h
    cases h
  | key, value, [], fuel + 1, rest, h => by
    obtain ⟨es, -, hscan⟩ := scanString_write key.toList
    simp only [writeMembers, List.length_append, List.length_cons] at h
    have hv := skipValueWith_write value fuel (.char '\x7d' :: rest) (by omega) (endsNumber_brace rest)
    rw [map_writeMembers_last, skipMembers, skipSpace_writeString]
    simp only [hscan, Option.map_some, readColon_cons, hv, Option.bind_eq_bind, Option.bind_some,
      readSeparator_brace, Bool.false_eq_true, if_false]
  | key, value, (key', value') :: members, fuel + 1, rest, h => by
    obtain ⟨es, -, hscan⟩ := scanString_write key.toList
    simp only [writeMembers, List.length_append, List.length_cons] at h
    have hv := skipValueWith_write value fuel
      (.char ',' :: ((writeMembers ((key', value') :: members)).map .char ++ rest)) (by omega) (endsNumber_comma _)
    have hmore := skipMembers_write key' value' members fuel rest (by omega)
    rw [map_writeMembers_cons, skipMembers, skipSpace_writeString]
    simp only [hscan, Option.map_some, readColon_cons, hv, Option.bind_eq_bind, Option.bind_some,
      readSeparator_comma, if_true, hmore]

end

theorem skipValue_write (v : Value) (hr : EndsNumber rest) :
    skipValue (v.write.map .char ++ rest) = some rest := by
  apply skipValueWith_write v _ rest ?_ hr
  rw [List.length_append, List.length_map]
  omega

end ChatClient.Json
