/-
  Days and dates are the same.

  A day's number is taken apart into an era of four hundred years, a year of it, a day of that year and a month,
  each by one division.  `marchDate_dayOfEra` says that the second of these divisions is right: its divisor is no
  year's length, and the three corrections before it pay for the leap days.  From there on everything is
  linear: the date is one of the calendar (`dateOfDay_isDate`) and its number is the day's
  (`dayNumber_dateOfDay`).
-/
import DriveAdvisory.Time.Calendar

namespace DriveAdvisory

/-! ## Years that begin in March -/

/-- A day of an era, as a year of it and a day of that year.  The last day of a year is the 29th of February. -/
structure MarchDate (dayOfEra year day : Int) : Prop where
  year_nonneg : 0 ≤ year
  year_le : year ≤ 399
  day_nonneg : 0 ≤ day
  day_le : day ≤ 365
  leap : day = 365 → (year + 1) % 4 = 0 ∧ ((year + 1) % 100 ≠ 0 ∨ (year + 1) % 400 = 0)
  sum : dayOfEra = 365 * year + year / 4 - year / 100 + day

/-- The year is found by one division. -/
theorem marchDate_dayOfEra (dayOfEra : Int) {year : Int} (hlow : 0 ≤ dayOfEra) (hhigh : dayOfEra ≤ 146096)
    (hyear : year = (dayOfEra - dayOfEra / 1460 + dayOfEra / 36524 - dayOfEra / 146096) / 365) :
    MarchDate dayOfEra year (dayOfEra - (365 * year + year / 4 - year / 100)) := by
  rcases Int.lt_or_eq_of_le hhigh with hlt | rfl
  · have hlast : dayOfEra / 146096 = 0 := by omega
    have hbounds : 0 ≤ year ∧ year ≤ 399 := by omega
    have hcentury : year / 100 = dayOfEra / 36524 := by omega
    have hfours : 25 * (dayOfEra / 36524) ≤ dayOfEra / 1460 := by omega
    rw [hlast] at hyear
    rw [hcentury]
    refine ⟨hbounds.1, hbounds.2, by omega, by omega, ?_, by omega⟩
    intro hday
    -- a day too many can only come of a year before a leap day that was not counted
    have hfour : (year + 1) % 4 = 0 := by
      refine Decidable.byContradiction fun hne => ?_
      have hyears : year ≤ 4 * (year / 4) + 2 := by omega
      have hdays : year / 4 + 1 ≤ dayOfEra / 1460 := by omega
      omega
    omega
  · subst hyear
    exact ⟨by decide, by decide, by decide, by decide, by decide, by decide⟩

/-- The months of such a year, and where they begin. -/
theorem marchMonth {day month : Int} (hlow : 0 ≤ day) (hhigh : day ≤ 365)
    (hmonth : month = (5 * day + 2) / 153) :
    0 ≤ month ∧ month ≤ 11 ∧ (153 * month + 2) / 5 ≤ day ∧ day < (153 * (month + 1) + 2) / 5 := by
  omega

/-! ## Dates -/

/-- What a date is made of. -/
theorem dateOfDay_eq (n : Int) : ∃ era year day month,
    MarchDate (n + 719468 - era * 146097) year day ∧ month = (5 * day + 2) / 153 ∧
      dateOfDay n = (year + era * 400 + (if month < 10 then 0 else 1),
        if month < 10 then month + 3 else month - 9, day - (153 * month + 2) / 5 + 1) := by
  have hmarch := marchDate_dayOfEra (n + 719468 - (n + 719468) / 146097 * 146097)
    (by omega) (by omega) rfl
  refine ⟨_, _, _, _, hmarch, rfl, ?_⟩
  have hmonth := marchMonth hmarch.day_nonneg hmarch.day_le rfl
  unfold dateOfDay
  dsimp only
  refine Prod.ext ?_ rfl
  dsimp only
  congr 1
  split <;> split <;> omega

/-- The number of a date is the day that it is the date of. -/
theorem dayNumber_dateOfDay (n : Int) :
    dayNumber (dateOfDay n).1 (dateOfDay n).2.1 (dateOfDay n).2.2 = n := by
  obtain ⟨era, year, day, month, hmarch, hmonth, hdate⟩ := dateOfDay_eq n
  obtain ⟨hyear, hyear', hday, hday', -, hsum⟩ := hmarch
  have hm := marchMonth hday hday' hmonth
  rw [hdate]
  unfold dayNumber
  dsimp only
  have hback : (if (if month < 10 then month + 3 else month - 9) ≤ 2
      then year + era * 400 + (if month < 10 then 0 else 1) - 1
      else year + era * 400 + (if month < 10 then 0 else 1)) = year + era * 400 := by
    split <;> split <;> omega
  have hmonths : (if 2 < (if month < 10 then month + 3 else month - 9)
      then (if month < 10 then month + 3 else month - 9) - 3
      else (if month < 10 then month + 3 else month - 9) + 9) = month := by
    split <;> split <;> omega
  have hera : (year + era * 400) / 400 = era := by omega
  rw [hback, hmonths, hera, Int.add_sub_cancel]
  omega

/-- The date is one of the calendar. -/
structure IsDate (year month day : Int) : Prop where
  one_le_month : 1 ≤ month
  month_le : month ≤ 12
  one_le_day : 1 ≤ day
  day_le : day ≤ daysInMonth year month.toNat

theorem daysInMonth_le (year : Int) (month : Nat) : daysInMonth year month ≤ 31 := by
  unfold daysInMonth
  split
  · split <;> decide
  · split <;> decide

theorem daysInMonth_of_leap (year : Int) (h : year % 4 = 0 ∧ (year % 100 ≠ 0 ∨ year % 400 = 0)) :
    daysInMonth year 2 = 29 := by
  have hleap : isLeapYear year = true := by simpa [isLeapYear] using h
  rw [daysInMonth, if_pos rfl, if_pos hleap]

theorem daysInMonth_february (year : Int) : 28 ≤ daysInMonth year 2 := by
  rw [daysInMonth, if_pos rfl]
  split <;> decide

theorem dateOfDay_isDate (n : Int) :
    IsDate (dateOfDay n).1 (dateOfDay n).2.1 (dateOfDay n).2.2 := by
  obtain ⟨era, year, day, month, hmarch, hmonth, hdate⟩ := dateOfDay_eq n
  obtain ⟨hyear, hyear', hday, hday', hleap, hsum⟩ := hmarch
  obtain ⟨hm, hm', hstart, hend⟩ := marchMonth hday hday' hmonth
  rw [hdate]
  refine ⟨by dsimp only; split <;> omega, by dsimp only; split <;> omega, by dsimp only; omega, ?_⟩
  dsimp only
  rcases Int.lt_or_eq_of_le hm' with hlt | rfl
  · -- any month but February has the same length in all years
    have hcases : month = 0 ∨ month = 1 ∨ month = 2 ∨ month = 3 ∨ month = 4 ∨ month = 5 ∨ month = 6 ∨
        month = 7 ∨ month = 8 ∨ month = 9 ∨ month = 10 := by omega
    rcases hcases with rfl | rfl | rfl | rfl | rfl | rfl | rfl | rfl | rfl | rfl | rfl
    all_goals
      simp [daysInMonth]
      omega
  · -- February: the 29th is there only when the year of March has its last day
    rcases Int.lt_or_eq_of_le hday' with hlt | rfl
    · have := daysInMonth_february (year + era * 400 + 1)
      simp
      omega
    · have := daysInMonth_of_leap (year + era * 400 + 1) (by have := hleap rfl; omega)
      simp [this]

/-! ## The years that can be told apart -/

/-- Every day in range has a date in one of the years that can be told apart. -/
theorem dateOfDay_year {n : Int} (hlow : dayNumber Moment.firstYear 1 1 ≤ n)
    (hhigh : n ≤ dayNumber Moment.lastYear 12 31) :
    Moment.firstYear ≤ (dateOfDay n).1 ∧ (dateOfDay n).1 ≤ Moment.lastYear := by
  have hfirst : dayNumber Moment.firstYear 1 1 = -96465292 := by decide
  have hlast : dayNumber Moment.lastYear 12 31 = 95026236 := by decide
  obtain ⟨era, year, day, month, hmarch, hmonth, hdate⟩ := dateOfDay_eq n
  obtain ⟨hyear, hyear', hday, hday', -, hsum⟩ := hmarch
  obtain ⟨hm, hm', hstart, hend⟩ := marchMonth hday hday' hmonth
  rw [hfirst] at hlow
  rw [hlast] at hhigh
  rw [hdate, Moment.firstYear, Moment.lastYear]
  dsimp only
  constructor
  · rcases Int.lt_or_le era (-655) with hera | hera
    · have : era = -656 := by omega
      have : 256 ≤ year := by omega
      split <;> omega
    · split <;> omega
  · rcases Int.lt_or_le 654 era with hera | hera
    · have : era = 655 := by omega
      have : year ≤ 142 := by omega
      split <;> omega
    · split <;> omega

end DriveAdvisory
