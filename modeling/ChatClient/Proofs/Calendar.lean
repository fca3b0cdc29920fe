import ChatClient.Time.Calendar

/-!
Counting days and naming them by dates. The four hundred years of an era are cut as the calendar cuts them:
into centuries, those into groups of four years, those into years. Only the last of four years has a day
more, and only in the last century does the last group keep it.
-/
namespace ChatClient.Time

/-- Day `n` of an era is day `d` of year `k` of group `q` of century `c`. -/
structure Falls (n c q k d : Int) : Prop where
  day : n = 36524 * c + 1461 * q + 365 * k + d
  century : 0 ≤ c ∧ c ≤ 3
  group : 0 ≤ q ∧ q ≤ 24
  year : 0 ≤ k ∧ k ≤ 3
  inYear : 0 ≤ d ∧ d ≤ 365
  leap : d = 365 → k = 3 ∧ (q = 24 → c = 3)

theorem exists_falls {n : Int} (h0 : 0 ≤ n) (h1 : n < 146097) : ∃ c q k d, Falls n c q k d := by
  -- The last century, and the last year of a group, are a day longer than a division would have it.
  obtain ⟨c, r, hn, hc, hr, hlast⟩ :
      ∃ c r : Int, n = 36524 * c + r ∧ (0 ≤ c ∧ c ≤ 3) ∧ (0 ≤ r ∧ r ≤ 36524) ∧ (r = 36524 → c = 3) := by
    by_cases h : n = 146096
    · exact ⟨3, 36524, by omega⟩
    · exact ⟨n / 36524, n % 36524, by omega⟩
  obtain ⟨k, d, hs, hk, hd, hleap⟩ :
      ∃ k d : Int, r % 1461 = 365 * k + d ∧ (0 ≤ k ∧ k ≤ 3) ∧ (0 ≤ d ∧ d ≤ 365) ∧ (d = 365 → k = 3) := by
    by_cases h : r % 1461 = 1460
    · exact ⟨3, 365, by omega⟩
    · exact ⟨r % 1461 / 365, r % 1461 % 365, by omega⟩
  refine ⟨c, r / 1461, k, d, ?_, hc, ?_, hk, hd, ?_⟩ <;> omega

namespace Falls

variable {n c q k d days : Int}

/-- The day counted without the days that leap years add. -/
theorem withoutLeapDays (h : Falls n c q k d) :
    0 ≤ n - n / 1460 + n / 36524 - n / 146096 - 365 * (100 * c + 4 * q + k) ∧
      n - n / 1460 + n / 36524 - n / 146096 - 365 * (100 * c + 4 * q + k) < 365 := by
  obtain ⟨hn, hc, hq, hk, hd, hl⟩ := h
  have hcenturies : n / 36524 - n / 146096 = c := by
    by_cases hlast : 1461 * q + 365 * k + d < 36524
    · have h1 : n / 36524 = c := by omega
      have h2 : n / 146096 = 0 := by omega
      omega
    · have hend : n = 146096 := by omega
      rw [hend]
      omega
  have hgroups : n / 1460 = 25 * c + q ∧ d ≤ 364 ∨ n / 1460 = 25 * c + q + 1 ∧ 1 ≤ d := by
    by_cases hlast : 24 * c + q + 365 * k + d < 1460
    · left; omega
    · right; omega
  rcases hgroups with ⟨hg, hd'⟩ | ⟨hg, hd'⟩ <;> rw [hg] <;> omega

theorem yearOfEra (h : Falls n c q k d) :
    (n - n / 1460 + n / 36524 - n / 146096) / 365 = 100 * c + 4 * q + k := by
  have hw := h.withoutLeapDays
  omega

theorem dayOfYear (h : Falls n c q k d) :
    n - (365 * (100 * c + 4 * q + k) + (100 * c + 4 * q + k) / 4 - (100 * c + 4 * q + k) / 100) = d := by
  obtain ⟨hn, hc, hq, hk, -, -⟩ := h
  omega

theorem marchYear (h : Falls n c q k d) (era : Int) :
    (100 * c + 4 * q + k + era * 400) / 400 = era ∧
      (100 * c + 4 * q + k + era * 400) % 400 = 100 * c + 4 * q + k ∧
      (100 * c + 4 * q + k) / 4 = 25 * c + q ∧ (100 * c + 4 * q + k) / 100 = c := by
  obtain ⟨-, hc, hq, hk, -, -⟩ := h
  omega

/-- The months from March to December belong to the year that has begun in March. -/
theorem ofDays_fromMarch (h : Falls ((days + 719468) % 146097) c q k d) (hd : d < 306) :
    Date.ofDays days =
      ⟨100 * c + 4 * q + k + (days + 719468) / 146097 * 400, ((5 * d + 2) / 153 + 3).toNat,
        (d - (153 * ((5 * d + 2) / 153) + 2) / 5 + 1).toNat⟩ := by
  have h0 := h.inYear
  have hm : (5 * d + 2) / 153 < 10 := by omega
  have hm' : ¬ (5 * d + 2) / 153 + 3 ≤ 2 := by omega
  simp only [Date.ofDays, h.yearOfEra, h.dayOfYear, hm, hm', if_true, if_false]

/-- January and February belong to the next one. -/
theorem ofDays_fromJanuary (h : Falls ((days + 719468) % 146097) c q k d) (hd : 306 ≤ d) :
    Date.ofDays days =
      ⟨100 * c + 4 * q + k + (days + 719468) / 146097 * 400 + 1, ((5 * d + 2) / 153 - 9).toNat,
        (d - (153 * ((5 * d + 2) / 153) + 2) / 5 + 1).toNat⟩ := by
  have h0 := h.inYear
  have hm : ¬ (5 * d + 2) / 153 < 10 := by omega
  have hm' : (5 * d + 2) / 153 - 9 ≤ 2 := by omega
  simp only [Date.ofDays, h.yearOfEra, h.dayOfYear, hm, hm', if_true, if_false]

end Falls

theorem exists_falls_day (days : Int) : ∃ c q k d, Falls ((days + 719468) % 146097) c q k d :=
  exists_falls (by omega) (by omega)

theorem toDays_ofDays (days : Int) : (Date.ofDays days).toDays = days := by
  obtain ⟨c, q, k, d, h⟩ := exists_falls_day days
  obtain ⟨hera, hyear, hgroups, hcenturies⟩ := h.marchYear ((days + 719468) / 146097)
  obtain ⟨hn, -, -, -, hd, -⟩ := id h
  by_cases hm : d < 306
  · rw [h.ofDays_fromMarch hm]
    have hmonth : ¬ ((5 * d + 2) / 153 + 3).toNat ≤ 2 := by omega
    have hcount : (((5 * d + 2) / 153 + 3).toNat : Int) - 3 = (5 * d + 2) / 153 := by omega
    simp only [Date.toDays, hmonth, if_false, hera, hgroups, hcenturies, hyear, hcount]
    omega
  · rw [h.ofDays_fromJanuary (by omega)]
    have hmonth : ((5 * d + 2) / 153 - 9).toNat ≤ 2 := by omega
    have hcount : (((5 * d + 2) / 153 - 9).toNat : Int) + 9 = (5 * d + 2) / 153 := by omega
    simp only [Date.toDays, hmonth, if_true, Int.add_sub_cancel, hera, hgroups, hcenturies, hyear, hcount]
    omega

/-- The last day of a year that begins in March is there only if the year that it ends is a leap year. -/
theorem Falls.leapYear (h : Falls n c q k 365) (era : Int) :
    isLeapYear (100 * c + 4 * q + k + era * 400 + 1) = true := by
  obtain ⟨-, hc, hq, hk, -, hl⟩ := h
  obtain ⟨rfl, hlast⟩ := hl rfl
  have h4 : (100 * c + 4 * q + 3 + era * 400 + 1) % 4 = 0 := by omega
  have h100 : (100 * c + 4 * q + 3 + era * 400 + 1) % 100 ≠ 0 ∨
      (100 * c + 4 * q + 3 + era * 400 + 1) % 400 = 0 := by omega
  simpa [isLeapYear, h4] using h100

theorem daysInMonth_fromMarch {d : Int} (h0 : 0 ≤ d) (hd : d < 306) (year : Int) :
    (d - (153 * ((5 * d + 2) / 153) + 2) / 5 + 1).toNat ≤ daysInMonth year ((5 * d + 2) / 153 + 3).toNat := by
  unfold daysInMonth
  split
  · omega
  · split
    · rename_i hm
      rcases hm with hm | hm | hm | hm <;> omega
    · omega

theorem Falls.daysInMonth_fromJanuary (h : Falls n c q k d) (hd : 306 ≤ d) (era : Int) :
    (d - (153 * ((5 * d + 2) / 153) + 2) / 5 + 1).toNat ≤
      daysInMonth (100 * c + 4 * q + k + era * 400 + 1) ((5 * d + 2) / 153 - 9).toNat := by
  have h0 := h.inYear
  unfold daysInMonth
  split
  · split
    · omega
    · rename_i hleap
      -- Without the day of a leap year February ends at day 364.
      have hd' : d ≠ 365 := by
        rintro rfl
        exact hleap (h.leapYear era)
      omega
  · split <;> omega

/-- The first of the years that can be written stands late in its era, the last one early. -/
theorem Falls.year_mem (h : Falls n c q k d) (hfirst : 146097 * -656 + 93808 ≤ 146097 * era + n)
    (hlast : 146097 * era + n ≤ 146097 * 655 + 52169) :
    (d < 306 → firstYear ≤ 100 * c + 4 * q + k + era * 400 ∧ 100 * c + 4 * q + k + era * 400 ≤ lastYear) ∧
      (306 ≤ d → firstYear ≤ 100 * c + 4 * q + k + era * 400 + 1 ∧
        100 * c + 4 * q + k + era * 400 + 1 ≤ lastYear) := by
  obtain ⟨hn, hc, hq, hk, hd, -⟩ := h
  have hlow : -656 < era ∨ era = -656 ∧ 93808 ≤ n := by omega
  have hhigh : era < 655 ∨ era = 655 ∧ n ≤ 52169 := by omega
  unfold firstYear lastYear
  rcases hlow with hlow | ⟨he, hlow⟩ <;> rcases hhigh with hhigh | ⟨he', hhigh⟩ <;> omega

/-- A day in the years that can be written has a date that can be read. -/
theorem ofDays_isValid (hfirst : Date.toDays ⟨firstYear, 1, 1⟩ ≤ days)
    (hlast : days ≤ Date.toDays ⟨lastYear, 12, 31⟩) : (Date.ofDays days).isValid = true := by
  obtain ⟨c, q, k, d, h⟩ := exists_falls_day days
  have hfirst' : 146097 * -656 + 93808 ≤ days + 719468 := Int.add_le_add_right hfirst 719468
  have hlast' : days + 719468 ≤ 146097 * 655 + 52169 := Int.add_le_add_right hlast 719468
  rw [← Int.mul_ediv_add_emod (days + 719468) 146097] at hfirst' hlast'
  have hyear := h.year_mem hfirst' hlast'
  have hd := h.inYear
  by_cases hm : d < 306
  · rw [h.ofDays_fromMarch hm]
    have hday := daysInMonth_fromMarch hd.1 hm (100 * c + 4 * q + k + (days + 719468) / 146097 * 400)
    simp only [Date.isValid, Bool.and_eq_true, decide_eq_true_eq]
    refine ⟨⟨⟨⟨hyear.1 hm, ?_⟩, ?_⟩, ?_⟩, hday⟩ <;> omega
  · have hm' : 306 ≤ d := by omega
    rw [h.ofDays_fromJanuary hm']
    have hday := h.daysInMonth_fromJanuary hm' ((days + 719468) / 146097)
    simp only [Date.isValid, Bool.and_eq_true, decide_eq_true_eq]
    refine ⟨⟨⟨⟨hyear.2 hm', ?_⟩, ?_⟩, ?_⟩, hday⟩ <;> omega

end ChatClient.Time
