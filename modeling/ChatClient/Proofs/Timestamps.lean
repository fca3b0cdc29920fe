import ChatClient.Proofs.Calendar
import ChatClient.Proofs.Numerals
import ChatClient.Time.Rfc3339

/-!
Instants that go through text. What the loose reader can name are just the valid instants, and each of these it
reads back from its own text: with any fraction of a second, in a leap second, and in years of more than four
digits or before the year zero. Any other instant has the text of a valid one.
-/
namespace ChatClient.Time

open Text (digit? digitValue isBlankChar numeral)

/-- No digit comes next. -/
def NoDigit (cs : List Char) : Prop := ∀ c ∈ cs.head?, digit? c = none

theorem noDigit_cons (h : digit? c = none) (cs : List Char) : NoDigit (c :: cs) := by
  simpa [NoDigit] using h

theorem takeDigitsUpTo_append (hd : ∀ c ∈ ds, c.isDigit = true)
    (hm : ds.length = most ∨ ds.length ≤ most ∧ NoDigit rest) :
    takeDigitsUpTo most (ds ++ rest) = (ds.map digitValue, rest) := by
  induction ds generalizing most with
  | nil =>
    rcases hm with rfl | ⟨-, hr⟩
    · rfl
    · cases most with
      | zero => rfl
      | succ most =>
        cases rest with
        | nil => rfl
        | cons c cs => simp [takeDigitsUpTo, hr c rfl]
  | cons d ds ih =>
    cases most with
    | zero => simp at hm
    | succ most =>
      have hm' : ds.length = most ∨ ds.length ≤ most ∧ NoDigit rest := by
        simpa using hm
      have hrest := ih (fun c hc => hd c (List.mem_cons_of_mem _ hc)) hm'
      have hhead := Text.digit?_of_isDigit (hd d (List.mem_cons_self ..))
      simp [takeDigitsUpTo, hhead, hrest]

theorem decimalValue_map (cs : List Char) : decimalValue (cs.map digitValue) = Nat.ofDigitChars 10 cs 0 :=
  Text.foldl_digitValue cs 0

theorem readNumber_numeral (hl : least ≤ (numeral width n).length)
    (hm : (numeral width n).length = most ∨ (numeral width n).length ≤ most ∧ NoDigit rest) :
    readNumber least most (numeral width n ++ rest) = some (n, rest) := by
  have hd := takeDigitsUpTo_append (fun c => Text.isDigit_of_mem_numeral) hm
  have hlong : ¬ ((numeral width n).map digitValue).length < least := by
    rw [List.length_map]
    omega
  simp only [readNumber, hd, hlong, if_false, decimalValue_map, Text.ofDigitChars_numeral]

theorem exists_numeral (h0 : 0 < width) (n : Nat) :
    ∃ d ds, numeral width n = d :: ds ∧ d.isDigit = true := by
  cases hn : numeral width n with
  | nil =>
    have hl := Text.le_length_numeral width n
    rw [hn, List.length_nil] at hl
    omega
  | cons d ds => exact ⟨d, ds, rfl, Text.isDigit_of_mem_numeral (hn ▸ List.mem_cons_self ..)⟩

theorem skipBlanks_numeral (h0 : 0 < width) (n : Nat) (rest : List Char) :
    skipBlanks (numeral width n ++ rest) = numeral width n ++ rest := by
  obtain ⟨d, ds, hn, hd⟩ := exists_numeral h0 n
  simp [skipBlanks, hn, Text.isBlankChar_of_isDigit hd]

theorem readField_twoDigits (h : n < 100) (rest : List Char) :
    readField ((twoDigits n).toList ++ rest) = some (n, rest) := by
  have hl : (numeral 2 n).length = 2 := Text.length_numeral (by decide) h
  rw [readField, twoDigits, ← numeral, skipBlanks_numeral (by decide)]
  exact readNumber_numeral (by omega) (.inl hl)

theorem readYear_digits {n : Nat} (h : n ≤ 9999) (rest : List Char) :
    readYear (numeral 4 n ++ rest) = some ((n : Int), rest) := by
  have hl : (numeral 4 n).length = 4 := Text.length_numeral (by decide) (by omega)
  have hread : readNumber 1 4 (numeral 4 n ++ rest) = some (n, rest) :=
    readNumber_numeral (by omega) (.inl hl)
  obtain ⟨d, ds, hn, hd⟩ := exists_numeral (Nat.zero_lt_succ 3) n
  rw [readYear, skipBlanks_numeral (by decide)]
  split
  · rename_i he
    rw [hn] at he
    cases he
    cases hd
  · rename_i he
    rw [hn] at he
    cases he
    cases hd
  · rw [hread]
    rfl

/-- After a sign a year may have any number of digits. -/
theorem readNumber_signed (n : Nat) (hr : NoDigit rest) :
    readNumber 1 (numeral 4 n ++ rest).length (numeral 4 n ++ rest) = some (n, rest) := by
  have hl := Text.le_length_numeral 4 n
  refine readNumber_numeral (by omega) (.inr ⟨?_, hr⟩)
  rw [List.length_append]
  omega

theorem readYear_yearText (year : Int) (rest : List Char) :
    readYear ((yearText year).toList ++ '-' :: rest) = some (year, '-' :: rest) := by
  have hr : NoDigit ('-' :: rest) := noDigit_cons rfl rest
  unfold yearText
  split
  · have hs := readYear_digits (n := year.natAbs) (by omega) ('-' :: rest)
    rw [show (year.natAbs : Int) = year by omega] at hs
    simpa [numeral] using hs
  · have hread := readNumber_signed year.natAbs hr
    split
    · have hs : readYear ('-' :: (numeral 4 year.natAbs ++ '-' :: rest)) =
          some (-(year.natAbs : Int), '-' :: rest) := by
        simp only [readYear, skipBlanks, List.dropWhile_cons, show Text.isBlankChar '-' = false from rfl,
          Bool.false_eq_true, if_false, hread, Option.map_some]
      rw [show -(year.natAbs : Int) = year by omega] at hs
      simpa [numeral] using hs
    · have hs : readYear ('+' :: (numeral 4 year.natAbs ++ '-' :: rest)) =
          some ((year.natAbs : Int), '-' :: rest) := by
        simp only [readYear, skipBlanks, List.dropWhile_cons, show Text.isBlankChar '+' = false from rfl,
          Bool.false_eq_true, if_false, hread, Option.map_some]
      rw [show (year.natAbs : Int) = year by omega] at hs
      simpa [numeral] using hs

theorem readFraction_numeral (width n : Nat) (h0 : 0 < width) (hw : width ≤ 9) (h : n < 10 ^ width) :
    readFraction ('.' :: (numeral width n ++ ['Z'])) = some (n * 10 ^ (9 - width), ['Z']) := by
  have hl := Text.length_numeral h0 h
  have hd : takeDigitsUpTo 9 (numeral width n ++ ['Z']) = ((numeral width n).map digitValue, ['Z']) :=
    takeDigitsUpTo_append (fun _ => Text.isDigit_of_mem_numeral) (.inr ⟨by omega, noDigit_cons rfl []⟩)
  have hne : ((numeral width n).map digitValue).isEmpty = false := by
    rw [List.isEmpty_eq_false_iff, ← List.length_pos_iff, List.length_map]
    omega
  simp only [readFraction, hd, hne, decimalValue_map, Text.ofDigitChars_numeral, List.length_map, hl]
  rfl

theorem readFraction_fractionText (h : nanos < billion) :
    readFraction ((fractionText nanos).toList ++ ['Z']) = some (nanos, ['Z']) := by
  unfold billion at h
  unfold fractionText
  split
  · rename_i h0
    rw [h0]
    rfl
  · split
    · have hr := readFraction_numeral 3 (nanos / 1000000) (by decide) (by decide) (by omega)
      rw [show nanos / 1000000 * 10 ^ (9 - 3) = nanos by omega] at hr
      simpa [numeral] using hr
    · split
      · have hr := readFraction_numeral 6 (nanos / 1000) (by decide) (by decide) (by omega)
        rw [show nanos / 1000 * 10 ^ (9 - 6) = nanos by omega] at hr
        simpa [numeral] using hr
      · have hr := readFraction_numeral 9 nanos (by decide) (by decide) (by omega)
        simpa [numeral] using hr

theorem skipBlanks_cons (h : isBlankChar c = false) (cs : List Char) : skipBlanks (c :: cs) = c :: cs := by
  simp [skipBlanks, h]

theorem Date.isValid_twoDigits {d : Date} (h : d.isValid = true) : d.month < 100 ∧ d.day < 100 := by
  have hm : daysInMonth d.year d.month ≤ 31 := by
    unfold daysInMonth
    split
    · split <;> decide
    · split <;> decide
  simp only [Date.isValid, Bool.and_eq_true, decide_eq_true_eq] at h
  omega

theorem bind_eq_of_some {x : Option α} (h : x = some a) (f : α → Option β) : (x >>= f) = f a := by
  rw [h]
  rfl

namespace Fields

/-- The text of the fields, in universal time. -/
def written (f : Fields) : List Char :=
  (yearText f.date.year).toList ++ '-' :: ((twoDigits f.date.month).toList ++ '-' ::
    ((twoDigits f.date.day).toList ++ 'T' :: ((twoDigits f.hour).toList ++ ':' ::
      ((twoDigits f.minute).toList ++ ':' :: ((twoDigits f.second).toList ++
        ((fractionText f.nanos).toList ++ ['Z']))))))

theorem instant?_ranges {f : Fields} (h : f.instant? = some i) :
    f.date.isValid = true ∧ f.hour < 24 ∧ f.minute < 60 ∧ f.second ≤ 60 ∧ f.offset.natAbs < 86400 := by
  unfold Fields.instant? at h
  split at h
  · assumption
  · cases h

/-- Whatever fields a text writes, the loose reader finds them. -/
theorem readLoose?_written {f : Fields} (h : f.instant? = some i) (hnanos : f.nanos < billion)
    (hzone : f.offset = 0) {s : String} (hs : s.toList = f.written) : Instant.readLoose? s = some i := by
  obtain ⟨hdate, hhour, hminute, hsecond, -⟩ := instant?_ranges h
  obtain ⟨hmonth, hday⟩ := Date.isValid_twoDigits hdate
  have hh := readField_twoDigits (Nat.lt_trans hhour (by decide))
  have hm := readField_twoDigits (Nat.lt_trans hminute (by decide))
  have hc := readField_twoDigits (Nat.lt_of_le_of_lt hsecond (by decide))
  have hmark (c : Char) (cs : List Char) (hc : isBlankChar c = false) :
      readChar c (skipBlanks (c :: cs)) = some cs := by
    rw [skipBlanks_cons hc, readChar, if_pos rfl]
  have hdash : isBlankChar '-' = false := rfl
  have hcolon : isBlankChar ':' = false := rfl
  have htime (cs : List Char) : readTimeMark ('T' :: cs) = some cs := rfl
  have hzero : readLooseOffset (skipBlanks ['Z']) = some (0, []) := rfl
  have hend : (skipBlanks []).isEmpty = true := rfl
  rw [Instant.readLoose?, hs, written]
  refine (bind_eq_of_some (readYear_yearText _ _) _).trans ?_
  refine (bind_eq_of_some (hmark _ _ hdash) _).trans ?_
  refine (bind_eq_of_some (readField_twoDigits hmonth _) _).trans ?_
  refine (bind_eq_of_some (hmark _ _ hdash) _).trans ?_
  refine (bind_eq_of_some (readField_twoDigits hday _) _).trans ?_
  refine (bind_eq_of_some (htime _) _).trans ?_
  refine (bind_eq_of_some (hh _) _).trans ?_
  refine (bind_eq_of_some (hmark _ _ hcolon) _).trans ?_
  refine (bind_eq_of_some (hm _) _).trans ?_
  refine (bind_eq_of_some (hmark _ _ hcolon) _).trans ?_
  refine (bind_eq_of_some (hc _) _).trans ?_
  refine (bind_eq_of_some (readFraction_fractionText hnanos) _).trans ?_
  refine (bind_eq_of_some hzero _).trans ?_
  dsimp only
  rw [if_pos hend, ← hzone]
  exact h

end Fields

namespace Instant

/-- A second whose year can be written, and a part of it. A part past the whole second may be there in any
second: a leap second can be put anywhere. -/
structure Held (i : Instant) : Prop where
  first : firstSecond ≤ i.seconds
  last : i.seconds ≤ lastSecond
  nanos : i.nanos < 2 * billion

/-- An instant whose part goes past the whole second only in the last second of a minute. Left out of what can be
held are leap seconds that have been put into other seconds; no text names one. -/
structure Valid (i : Instant) : Prop extends Held i where
  leap : billion ≤ i.nanos → i.seconds % 60 = 59

instance (i : Instant) : Decidable i.Held :=
  decidable_of_iff (firstSecond ≤ i.seconds ∧ i.seconds ≤ lastSecond ∧ i.nanos < 2 * billion)
    ⟨fun ⟨hf, hl, hn⟩ => ⟨hf, hl, hn⟩, fun h => ⟨h.first, h.last, h.nanos⟩⟩

instance (i : Instant) : Decidable i.Valid :=
  decidable_of_iff (i.Held ∧ (billion ≤ i.nanos → i.seconds % 60 = 59))
    ⟨fun ⟨hh, hp⟩ => ⟨hh, hp⟩, fun h => ⟨h.toHeld, h.leap⟩⟩

/-- The fields that the text of an instant writes. -/
def fields (i : Instant) : Fields :=
  let leap := if billion ≤ i.nanos then 1 else 0
  ⟨.ofDays i.day, i.secondOfDay / 3600, i.secondOfDay / 60 % 60, i.secondOfDay % 60 + leap,
    i.nanos - leap * billion, 0⟩

theorem Valid.date_isValid {i : Instant} (h : i.Valid) : (Date.ofDays i.day).isValid = true := by
  have hfirst := h.first
  have hlast := h.last
  apply ofDays_isValid
  · unfold firstSecond at hfirst
    unfold day
    omega
  · unfold lastSecond at hlast
    unfold day
    omega

theorem secondOfDay_lt (i : Instant) : i.secondOfDay < 86400 := by
  unfold secondOfDay
  omega

/-- The second of an instant, counted from its date and its time of day. -/
theorem seconds_eq (i : Instant) :
    (Date.ofDays i.day).toDays * 86400 +
      ((i.secondOfDay / 3600 : Nat) * 3600 + (i.secondOfDay / 60 % 60 : Nat) * 60 +
        (i.secondOfDay % 60 : Nat)) - 0 = i.seconds := by
  have hsecond : (i.secondOfDay : Int) = i.seconds % 86400 := by
    unfold secondOfDay
    omega
  rw [toDays_ofDays, day]
  omega

theorem Valid.instant?_fields {i : Instant} (h : i.Valid) : i.fields.instant? = some i := by
  have hdate := h.date_isValid
  have hof : ofSeconds? i.seconds = some ⟨i.seconds, 0⟩ := if_pos ⟨h.first, h.last⟩
  have hseconds := i.seconds_eq
  have hday := i.secondOfDay_lt
  have hhour : i.secondOfDay / 3600 < 24 := by omega
  have hminute : i.secondOfDay / 60 % 60 < 60 := by omega
  have hzero : Int.natAbs 0 < 86400 := by decide
  by_cases hl : billion ≤ i.nanos
  · -- The sixtieth second is read as the second before it.
    have hlast : i.secondOfDay % 60 = 59 := by
      have h59 := h.leap hl
      unfold secondOfDay
      omega
    have hf : i.fields = ⟨.ofDays i.day, i.secondOfDay / 3600, i.secondOfDay / 60 % 60, 60,
        i.nanos - billion, 0⟩ := by
      simp [fields, hl, hlast]
    have hnanos : i.nanos - billion + billion = i.nanos := by omega
    rw [hlast] at hseconds
    rw [hf, Fields.instant?, if_pos ⟨hdate, hhour, hminute, Nat.le_refl 60, hzero⟩]
    simp only [if_true, hnanos]
    rw [hseconds, hof]
    rfl
  · have hf : i.fields = ⟨.ofDays i.day, i.secondOfDay / 3600, i.secondOfDay / 60 % 60,
        i.secondOfDay % 60, i.nanos, 0⟩ := by
      simp [fields, hl]
    have h60 : ¬ i.secondOfDay % 60 = 60 := by omega
    have hle : i.secondOfDay % 60 ≤ 60 := by omega
    rw [hf, Fields.instant?, if_pos ⟨hdate, hhour, hminute, hle, hzero⟩]
    simp only [h60, if_false]
    rw [hseconds, hof]
    rfl

theorem toList_text (i : Instant) : i.text.toList = i.fields.written := by
  simp [text, textWith, dateText, clockText, fields, Fields.written]

/-- A valid instant is read back from its text. -/
theorem Valid.readLoose?_text {i : Instant} (h : i.Valid) : readLoose? i.text = some i := by
  have hnanos : i.fields.nanos < billion := by
    have hn := h.nanos
    simp only [fields]
    split <;> omega
  exact Fields.readLoose?_written h.instant?_fields hnanos rfl (toList_text i)

/-- The instant that the text of an instant names. A leap second that is not in the last second of a minute reads
like the second after it. -/
def told (i : Instant) : Instant :=
  if billion ≤ i.nanos ∧ i.seconds % 60 ≠ 59 then ⟨i.seconds + 1, i.nanos - billion⟩ else i

theorem Held.told_valid {i : Instant} (h : i.Held) : i.told.Valid := by
  have hnanos := h.nanos
  unfold told
  split
  · rename_i hi
    obtain ⟨-, hne⟩ := hi
    have hfirst := h.first
    have hlast := h.last
    have hmax : lastSecond % 60 = 59 := by decide
    refine ⟨⟨?_, ?_, ?_⟩, fun hleap => ?_⟩ <;> dsimp only at * <;> omega
  · rename_i hi
    exact ⟨h, fun hleap => Decidable.byContradiction fun hne => hi ⟨hleap, hne⟩⟩

theorem Held.fields_told {i : Instant} (h : i.Held) : i.told.fields = i.fields := by
  unfold told
  split
  · rename_i hi
    obtain ⟨hleap, hne⟩ := hi
    have hnanos := h.nanos
    have hpart : ¬ billion ≤ i.nanos - billion := by omega
    have hday : day ⟨i.seconds + 1, i.nanos - billion⟩ = i.day := by
      unfold day
      dsimp only
      omega
    have hsecond : secondOfDay ⟨i.seconds + 1, i.nanos - billion⟩ = i.secondOfDay + 1 := by
      unfold secondOfDay
      dsimp only
      omega
    have hin : i.secondOfDay % 60 < 59 := by
      unfold secondOfDay
      omega
    have hhour : (i.secondOfDay + 1) / 3600 = i.secondOfDay / 3600 := by omega
    have hminute : (i.secondOfDay + 1) / 60 % 60 = i.secondOfDay / 60 % 60 := by omega
    have hlast : (i.secondOfDay + 1) % 60 = i.secondOfDay % 60 + 1 := by omega
    simp [fields, hleap, hpart, hday, hsecond, hhour, hminute, hlast]
  · rfl

theorem Held.text_told {i : Instant} (h : i.Held) : i.told.text = i.text := by
  rw [← String.toList_inj, toList_text, toList_text, h.fields_told]

/-- What is read back from the text of any instant. -/
theorem Held.readLoose?_text {i : Instant} (h : i.Held) : readLoose? i.text = some i.told := by
  rw [← h.text_told]
  exact h.told_valid.readLoose?_text

/-- A leap second in the fifth second of a minute. -/
example : readLoose? (text ⟨86164, 1333333333⟩) = some ⟨86165, 333333333⟩ := by decide +kernel

end Instant

theorem takeDigitsUpTo_bounds (most : Nat) (cs : List Char) :
    (takeDigitsUpTo most cs).1.length ≤ most ∧ ∀ d ∈ (takeDigitsUpTo most cs).1, d < 10 := by
  induction cs generalizing most with
  | nil => cases most <;> simp [takeDigitsUpTo]
  | cons c cs ih =>
    cases most with
    | zero => simp [takeDigitsUpTo]
    | succ most =>
      obtain ⟨hl, hd⟩ := ih most
      cases hc : digit? c with
      | none => simp [takeDigitsUpTo, hc]
      | some d =>
        simp only [takeDigitsUpTo, hc, List.length_cons, List.mem_cons, forall_eq_or_imp]
        exact ⟨by omega, Text.digit?_lt hc, hd⟩

theorem readFraction_lt (h : readFraction cs = some (nanos, rest)) : nanos < billion := by
  unfold readFraction at h
  split at h
  · rename_i cs
    obtain ⟨hl, hd⟩ := takeDigitsUpTo_bounds 9 cs
    dsimp only at h
    split at h
    · cases h
    · obtain ⟨rfl, -⟩ := Prod.mk.inj (Option.some.inj h)
      have hlt := Text.foldl_digits_lt hd 0
      calc decimalValue (takeDigitsUpTo 9 cs).1 * 10 ^ (9 - (takeDigitsUpTo 9 cs).1.length)
        _ < 10 ^ (takeDigitsUpTo 9 cs).1.length * 10 ^ (9 - (takeDigitsUpTo 9 cs).1.length) := by
          refine Nat.mul_lt_mul_of_pos_right ?_ (Nat.pow_pos (by decide))
          simpa [decimalValue] using hlt
        _ = 10 ^ 9 := by rw [← Nat.pow_add, Nat.add_sub_cancel' hl]
  · cases h
    decide

/-- Offsets are counted in whole minutes. -/
theorem readOffset_minutes (h : readOffset separator cs = some (offset, rest)) : offset % 60 = 0 := by
  unfold readOffset at h
  split at h
  · cases h
  · split at h
    · cases h
      rfl
    · split at h
      · simp only [Option.bind_eq_bind, Option.bind_eq_some_iff] at h
        obtain ⟨⟨hours, cs₁⟩, -, cs₂, -, ⟨minutes, cs₃⟩, -, h⟩ := h
        dsimp only at h
        split at h
        · cases h
        · obtain ⟨rfl, -⟩ := Prod.mk.inj (Option.some.inj h)
          split <;> omega
      · cases h

theorem readLooseOffset_minutes (h : readLooseOffset cs = some (offset, rest)) : offset % 60 = 0 := by
  unfold readLooseOffset at h
  split at h
  · cases h
    rfl
  · exact readOffset_minutes h

theorem Instant.ofSeconds?_eq_some (h : ofSeconds? n = some i) :
    firstSecond ≤ n ∧ n ≤ lastSecond ∧ i = ⟨n, 0⟩ := by
  unfold ofSeconds? at h
  split at h
  · rename_i hn
    exact ⟨hn.1, hn.2, (Option.some.inj h).symm⟩
  · cases h

theorem Fields.instant?_valid {f : Fields} (h : f.instant? = some i) (hnanos : f.nanos < billion)
    (hoffset : f.offset % 60 = 0) : i.Valid := by
  rw [instant?, if_pos (instant?_ranges h)] at h
  simp only [Option.map_eq_some_iff] at h
  obtain ⟨j, hj, rfl⟩ := h
  obtain ⟨hfirst, hlast, rfl⟩ := Instant.ofSeconds?_eq_some hj
  by_cases h60 : f.second = 60
  · simp only [h60, if_true] at hfirst hlast ⊢
    exact ⟨⟨hfirst, hlast, by dsimp only; omega⟩, fun _ => by dsimp only; omega⟩
  · simp only [h60, if_false] at hfirst hlast ⊢
    exact ⟨⟨hfirst, hlast, by dsimp only; omega⟩, fun hleap => absurd hleap (Nat.not_le.mpr hnanos)⟩

/-- An instant is valid exactly if there is a text that names it. -/
theorem Instant.valid_iff_text {i : Instant} : i.Valid ↔ ∃ s, readLoose? s = some i := by
  constructor
  · intro h
    exact ⟨i.text, h.readLoose?_text⟩
  · rintro ⟨s, h⟩
    -- Only the fraction and the offset limit what an instant can be.
    obtain ⟨⟨year, _⟩, -, h⟩ := Option.bind_eq_some_iff.mp h
    obtain ⟨_, -, h⟩ := Option.bind_eq_some_iff.mp h
    obtain ⟨⟨month, _⟩, -, h⟩ := Option.bind_eq_some_iff.mp h
    obtain ⟨_, -, h⟩ := Option.bind_eq_some_iff.mp h
    obtain ⟨⟨day, _⟩, -, h⟩ := Option.bind_eq_some_iff.mp h
    obtain ⟨_, -, h⟩ := Option.bind_eq_some_iff.mp h
    obtain ⟨⟨hour, _⟩, -, h⟩ := Option.bind_eq_some_iff.mp h
    obtain ⟨_, -, h⟩ := Option.bind_eq_some_iff.mp h
    obtain ⟨⟨minute, _⟩, -, h⟩ := Option.bind_eq_some_iff.mp h
    obtain ⟨_, -, h⟩ := Option.bind_eq_some_iff.mp h
    obtain ⟨⟨second, _⟩, -, h⟩ := Option.bind_eq_some_iff.mp h
    obtain ⟨⟨nanos, _⟩, hfraction, h⟩ := Option.bind_eq_some_iff.mp h
    obtain ⟨⟨offset, _⟩, hoffset, h⟩ := Option.bind_eq_some_iff.mp h
    dsimp only at h
    split at h
    · exact Fields.instant?_valid h (readFraction_lt hfraction) (readLooseOffset_minutes hoffset)
    · cases h

end ChatClient.Time
