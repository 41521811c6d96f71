import AsmWt.WallClock

/-!
# Dates and their numbers

A constructor of dates takes any year, month and day: months outside a year and
days outside a month overflow into the neighbouring ones. The date of a day is
read off its place in a cycle of 400 years, and gives the day back.
-/

namespace WallClock

structure CivilDate where
  year : Int
  month : Int
  day : Int
  deriving DecidableEq

/-- The days of a year that have passed, the year beginning with March. -/
def dayOfYear (day : Int) : Int :=
  dayOfEra day - (365 * yearOfEra day + yearOfEra day / 4 - yearOfEra day / 100)

/-- The day of the month of a date. -/
def civilDay (day : Int) : Int := dayOfYear day - (153 * monthFromMarch day + 2) / 5 + 1

/-- The calendar's date of a day. -/
def dateOf (day : Int) : CivilDate := ⟨civilYear day, civilMonth day, civilDay day⟩

/-- The day a month begins with, the months being counted from a March. -/
def monthStart (months : Int) : Int :=
  365 * (months / 12) + months / 12 / 4 - months / 12 / 100 + months / 12 / 400 +
    (153 * (months % 12) + 2) / 5 - 719468

/-- The day of a date, overflowing months and days included. -/
def dayOf (d : CivilDate) : Int := monthStart (12 * d.year + (d.month - 3)) + (d.day - 1)

example : dayOf ⟨2024, 2, 30⟩ = dayOf ⟨2024, 3, 1⟩ ∧ dayOf ⟨2023, 14, 31⟩ = dayOf ⟨2024, 3, 2⟩ ∧
    dateOf (dayOf ⟨2024, -1, 30⟩) = ⟨2023, 11, 30⟩ := by decide

/-- The centuries of an era, their cycles of four years, and the years of these; a day of leap comes
at the end of its year. -/
theorem era_cases (day : Int) :
    (dayOfEra day = 146096 ∧ yearOfEra day = 399 ∧ dayOfYear day = 365) ∨
      ∃ c q t d, 0 ≤ c ∧ c ≤ 3 ∧ 0 ≤ q ∧ q ≤ 24 ∧ 0 ≤ t ∧ t ≤ 3 ∧ 0 ≤ d ∧ d ≤ 365 ∧
        yearOfEra day = 100 * c + 4 * q + t ∧ dayOfYear day = d := by
  have lower : 0 ≤ dayOfEra day := Int.emod_nonneg _ (by decide)
  have upper : dayOfEra day < 146097 := Int.emod_lt_of_pos _ (by decide)
  rw [dayOfYear, yearOfEra]
  generalize dayOfEra day = e at lower upper ⊢
  by_cases last : e = 146096
  · subst last
    exact Or.inl (by decide)
  refine Or.inr ?_
  obtain ⟨c, q, s, he, hc, hq, hs, hr⟩ : ∃ c q s, e = 36524 * c + 1461 * q + s ∧
      (0 ≤ c ∧ c ≤ 3) ∧ (0 ≤ q ∧ q ≤ 24) ∧ (0 ≤ s ∧ s ≤ 1460) ∧ 1461 * q + s ≤ 36523 :=
    ⟨e / 36524, e % 36524 / 1461, e % 36524 % 1461, by omega⟩
  obtain ⟨t, d, hd, ht, leap⟩ : ∃ t d, s = 365 * t + d ∧ (0 ≤ t ∧ t ≤ 3) ∧
      (0 ≤ d ∧ d ≤ 365 ∧ (t ≠ 3 → d ≤ 364)) :=
    ⟨min 3 (s / 365), s - 365 * min 3 (s / 365), by omega⟩
  have century : e / 36524 = c := by omega
  have whole : e / 146096 = 0 := by omega
  -- the last day of a leap year is counted one cycle of 1460 days too late
  have cycles : e / 1460 = 25 * c + q ∨ t = 3 ∧ e / 1460 = 25 * c + q + 1 := by omega
  have year : (e - e / 1460 + e / 36524 - e / 146096) / 365 = 100 * c + 4 * q + t := by
    rw [century, whole]
    omega
  refine ⟨c, q, t, d, hc.1, hc.2, hq.1, hq.2, ht.1, ht.2, leap.1, leap.2.1, year, ?_⟩
  have fours : (100 * c + 4 * q + t) / 4 = 25 * c + q := by omega
  have hundreds : (100 * c + 4 * q + t) / 100 = c := by omega
  rw [year, fours, hundreds]
  omega

theorem yearOfEra_range (day : Int) : 0 ≤ yearOfEra day ∧ yearOfEra day ≤ 399 := by
  rcases era_cases day with ⟨-, h, -⟩ | ⟨c, q, t, d, h⟩
  · omega
  · omega

theorem monthFromMarch_range (day : Int) : 0 ≤ monthFromMarch day ∧ monthFromMarch day ≤ 11 := by
  have range : 0 ≤ dayOfYear day ∧ dayOfYear day ≤ 365 := by
    rcases era_cases day with ⟨-, -, h⟩ | ⟨c, q, t, d, h⟩
    · omega
    · omega
  rw [show monthFromMarch day = (5 * dayOfYear day + 2) / 153 from rfl]
  omega

/-- The months that have passed before a date. -/
theorem months_dateOf (day : Int) :
    12 * (dateOf day).year + ((dateOf day).month - 3) =
      12 * (yearOfEra day + (day + 719468) / 146097 * 400) + monthFromMarch day := by
  have months := monthFromMarch_range day
  have month : civilMonth day = (monthFromMarch day + 2) % 12 + 1 := rfl
  simp only [dateOf, civilYear]
  by_cases early : civilMonth day ≤ 2
  · rw [if_pos early]
    omega
  · rw [if_neg early]
    omega

/-- The months of an era begin where those of the first one do, as many eras later. -/
theorem monthStart_era {year era month : Int} (hyear : 0 ≤ year ∧ year ≤ 399)
    (hmonth : 0 ≤ month ∧ month ≤ 11) :
    monthStart (12 * (year + era * 400) + month) =
      365 * year + year / 4 - year / 100 + (153 * month + 2) / 5 + era * 146097 - 719468 := by
  have years : (12 * (year + era * 400) + month) / 12 = year + era * 400 := by omega
  have months : (12 * (year + era * 400) + month) % 12 = month := by omega
  have fours : (year + era * 400) / 4 = year / 4 + era * 100 := by omega
  have hundreds : (year + era * 400) / 100 = year / 100 + era * 4 := by omega
  have eras : (year + era * 400) / 400 = era := by omega
  rw [monthStart, years, months, fours, hundreds, eras]
  omega

/-- The date of a day is one of that day. -/
@[simp] theorem dayOf_dateOf (day : Int) : dayOf (dateOf day) = day := by
  rw [dayOf, months_dateOf, monthStart_era (yearOfEra_range day) (monthFromMarch_range day)]
  simp only [dateOf, civilDay, dayOfYear, dayOfEra]
  omega

theorem dateOf_inj {day day' : Int} : dateOf day = dateOf day' ↔ day = day' := by
  constructor
  · intro h
    rw [← dayOf_dateOf day, h, dayOf_dateOf]
  · rintro rfl
    rfl

/-- Three months have 89 days at least. -/
theorem monthStart_add_three (months : Int) : monthStart months + 89 ≤ monthStart (months + 3) := by
  rw [monthStart, monthStart]
  generalize hy : months / 12 = y
  generalize hm : months % 12 = m
  by_cases early : m ≤ 8
  · have year : (months + 3) / 12 = y := by omega
    have month : (months + 3) % 12 = m + 3 := by omega
    rw [year, month]
    omega
  · have year : (months + 3) / 12 = y + 1 := by omega
    have month : (months + 3) % 12 = m - 9 := by omega
    have leap : y / 4 - y / 100 + y / 400 ≤ (y + 1) / 4 - (y + 1) / 100 + (y + 1) / 400 := by omega
    rw [year, month]
    omega

/-- Three months earlier or later a date is 89 days away at least. -/
theorem dayOf_months (d : CivilDate) :
    dayOf ⟨d.year, d.month - 3, d.day⟩ + 89 ≤ dayOf d ∧
      dayOf d + 89 ≤ dayOf ⟨d.year, d.month + 3, d.day⟩ := by
  have before := monthStart_add_three (12 * d.year + (d.month - 3 - 3))
  have after := monthStart_add_three (12 * d.year + (d.month - 3))
  rw [show 12 * d.year + (d.month - 3 - 3) + 3 = 12 * d.year + (d.month - 3) by omega] at before
  rw [show 12 * d.year + (d.month - 3) + 3 = 12 * d.year + (d.month + 3 - 3) by omega] at after
  simp only [dayOf]
  omega

namespace Zone

/-- `DateTime.year`, `DateTime.month` and `DateTime.day` of an instant. -/
def date (z : Zone) (t : Int) : CivilDate := dateOf (z.day t)

@[simp] theorem date_midnight_date (z : Zone) (t : Int) :
    z.date (z.midnight (dayOf (z.date t))) = z.date t := by
  rw [date, date, day_midnight, dayOf_dateOf]

end Zone

end WallClock
