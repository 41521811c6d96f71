import Mathlib.Data.Int.Order.Basic

/-!
# Instants and the wall clock

An instant is a number of microseconds, and so is what the wall clock shows at
it, counted from the start of day 0. A date is the number of its day, which
makes overflowing months and days plain arithmetic. A constructor that is given
a reading of the wall clock returns an instant; which one, when a change of the
offset skips or repeats the reading, is left to the zone, as long as the start
of a day stays on that day.
-/

namespace WallClock

def secondMicros : Int := 1000000
def minuteMicros : Int := 60000000
def hourMicros : Int := 60 * minuteMicros
def dayMicros : Int := 24 * hourMicros

structure Zone where
  wall : Int → Int
  instant : Int → Int
  day_start : ∀ d, wall (instant (d * dayMicros)) / dayMicros = d

namespace Zone

/-- A zone that never changes its offset. -/
def fixed (offset : Int) : Zone where
  wall t := t + offset
  instant w := w - offset
  day_start d := by
    rw [Int.sub_add_cancel]
    exact Int.mul_ediv_cancel d (by decide)

/-- The date of an instant. -/
def day (z : Zone) (t : Int) : Int := z.wall t / dayMicros

/-- The instant a date starts at. -/
def midnight (z : Zone) (d : Int) : Int := z.instant (d * dayMicros)

/-- The instant without its seconds. -/
def minute (z : Zone) (t : Int) : Int := z.instant (z.wall t / minuteMicros * minuteMicros)

@[simp] theorem day_midnight (z : Zone) (d : Int) : z.day (z.midnight d) = d := z.day_start d

@[simp] theorem midnight_inj (z : Zone) {d e : Int} : z.midnight d = z.midnight e ↔ d = e := by
  constructor
  · intro h
    have := congrArg z.day h
    rwa [day_midnight, day_midnight] at this
  · rintro rfl
    rfl

end Zone

/-- Where a date lies in its era, 400 years that begin with a March. Day 0 is the first of
January 1970. -/
def dayOfEra (day : Int) : Int := (day + 719468) % 146097

def yearOfEra (day : Int) : Int :=
  (dayOfEra day - dayOfEra day / 1460 + dayOfEra day / 36524 - dayOfEra day / 146096) / 365

/-- The month, with 0 for March. -/
def monthFromMarch (day : Int) : Int :=
  let dayOfYear := dayOfEra day - (365 * yearOfEra day + yearOfEra day / 4 - yearOfEra day / 100)
  (5 * dayOfYear + 2) / 153

/-- The month of a date in the calendar. -/
def civilMonth (day : Int) : Int := (monthFromMarch day + 2) % 12 + 1

/-- The year of a date; January and February belong to the year their era counts next. -/
def civilYear (day : Int) : Int :=
  yearOfEra day + (day + 719468) / 146097 * 400 + if civilMonth day ≤ 2 then 1 else 0

example : (civilYear 19722, civilMonth 19722) = (2023, 12) ∧
    (civilYear 19723, civilMonth 19723) = (2024, 1) ∧
    (civilYear 19782, civilMonth 19782) = (2024, 2) ∧
    (civilYear 19783, civilMonth 19783) = (2024, 3) := by decide

namespace Zone

/-- `DateTime.year` and `DateTime.month` of an instant. -/
def year (z : Zone) (t : Int) : Int := civilYear (z.day t)

def month (z : Zone) (t : Int) : Nat := (civilMonth (z.day t)).toNat

theorem month_range (z : Zone) (t : Int) : 1 ≤ z.month t ∧ z.month t ≤ 12 := by
  unfold month civilMonth
  omega

end Zone

/-- The whole hours of a duration, without the part of an hour that has begun. -/
def inHours (duration : Int) : Int := duration.tdiv hourMicros

/-- Rounding towards zero makes a bound of whole hours more generous above than below zero. -/
theorem inHours_le_iff (duration h : Int) :
    inHours duration ≤ h ↔
      if 0 ≤ h then duration < (h + 1) * hourMicros else duration ≤ h * hourMicros := by
  unfold inHours hourMicros minuteMicros
  rcases Int.le_total 0 duration with hd | hd
  · rw [Int.tdiv_eq_ediv_of_nonneg hd]
    split <;> omega
  · obtain ⟨n, rfl⟩ : ∃ n, duration = -n := ⟨-duration, (Int.neg_neg _).symm⟩
    have hn : 0 ≤ n := by omega
    rw [Int.neg_tdiv, Int.tdiv_eq_ediv_of_nonneg hn]
    split <;> omega

end WallClock
