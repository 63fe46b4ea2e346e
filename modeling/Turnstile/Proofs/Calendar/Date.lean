import Turnstile.Calendar.Date

/-!
# Days are numbered one by one

The day of a number is a day that the calendar has, and its number is the one that it was made from.
A year that is counted from March has its leap day at its end, so that the place of a day in such a
year fixes its month and its day of the month. Which years have a leap day follows from the place of
the year in its leap cycle, and of the cycle in its century.

## Main definitions

- `Date.ofYear` — the date with a given place in a year counted from March
- `Date.Places` — the places that a day has in its era

## Main statements

- `Date.valid_ofDays` — the day of a number is one of the calendar
- `Date.toDays_ofDays` — it has that number
-/

namespace Turnstile.Date

/-- The date with a given place in a year that is counted from March. -/
def ofYear (year dayOfYear : Int) : Date :=
  let monthFromMarch := (5 * dayOfYear + 2) / 153
  let day := dayOfYear - (153 * monthFromMarch + 2) / 5 + 1
  let month := if monthFromMarch < 10 then monthFromMarch + 3 else monthFromMarch - 9
  ⟨if month ≤ 2 then year + 1 else year, month.toNat, day.toNat⟩

/-- The places that a day has in its era: a century, a leap cycle, a year, and a day of that. Only
the last year of a cycle has a leap day, and the last cycle of a century has none, unless the
century is the last. -/
structure Places (dayOfEra century cycle year day : Int) : Prop where
  sum : dayOfEra = century * 36524 + cycle * 1461 + year * 365 + day
  century_mem : 0 ≤ century ∧ century ≤ 3
  cycle_mem : 0 ≤ cycle ∧ cycle ≤ 24
  year_mem : 0 ≤ year ∧ year ≤ 3
  day_mem : 0 ≤ day ∧ day ≤ 365
  leap : day = 365 → year = 3 ∧ (cycle = 24 → century = 3)

variable {dayOfEra century cycle year day : Int}

/-- Counting off centuries, cycles and years leads to the places of a day. -/
theorem exists_places (hmin : 0 ≤ dayOfEra) (hmax : dayOfEra < 146097) :
    let century := min (dayOfEra / 36524) 3
    let dayOfCentury := dayOfEra - century * 36524
    let cycle := dayOfCentury / 1461
    let dayOfCycle := dayOfCentury - cycle * 1461
    let yearOfCycle := min (dayOfCycle / 365) 3
    Places dayOfEra century cycle yearOfCycle (dayOfCycle - yearOfCycle * 365) := by
  intro century dayOfCentury cycle dayOfCycle yearOfCycle
  -- stage by stage, each from the range of what is left over from the one before
  have hcentury : 0 ≤ century ∧ century ≤ 3 := by omega
  have hdayOfCentury : 0 ≤ dayOfCentury ∧ dayOfCentury ≤ 36524 ∧
      (century < 3 → dayOfCentury < 36524) := by
    omega
  have hcycle : 0 ≤ cycle ∧ cycle ≤ 24 := by omega
  have hdayOfCycle : 0 ≤ dayOfCycle ∧ dayOfCycle ≤ 1460 := by omega
  exact {
    sum := by omega
    century_mem := hcentury
    cycle_mem := hcycle
    year_mem := by omega
    day_mem := by omega
    leap := by omega }

/-- The day of a number, by its places in its era. -/
theorem exists_ofDays (n : Int) :
    ∃ era dayOfEra century cycle year day, n + eraZero = era * 146097 + dayOfEra ∧
      Places dayOfEra century cycle year day ∧
      ofDays n = ofYear (era * 400 + century * 100 + cycle * 4 + year) day := by
  have hmin : 0 ≤ (n + eraZero) % 146097 := Int.emod_nonneg _ (by decide)
  have hmax : (n + eraZero) % 146097 < 146097 := Int.emod_lt_of_pos _ (by decide)
  refine ⟨_, _, _, _, _, _, ?_, exists_places hmin hmax, rfl⟩
  exact (Int.ediv_mul_add_emod _ _).symm

/-! ### Years counted from March -/

/-- From March to December the year is the same. -/
theorem ofYear_of_lt {month : Int} (hmonth : (5 * day + 2) / 153 = month) (hmin : 0 ≤ month)
    (hlt : month < 10) :
    ofYear year day = ⟨year, (month + 3).toNat, (day - (153 * month + 2) / 5 + 1).toNat⟩ := by
  have hmarch : ¬month + 3 ≤ 2 := by omega
  simp only [ofYear, hmonth, hlt, if_true, hmarch, if_false]

/-- January and February are those of the year after. -/
theorem ofYear_of_le {month : Int} (hmonth : (5 * day + 2) / 153 = month) (hle : 10 ≤ month)
    (hmax : month < 12) :
    ofYear year day = ⟨year + 1, (month - 9).toNat, (day - (153 * month + 2) / 5 + 1).toNat⟩ := by
  have hlt : ¬month < 10 := Int.not_lt.2 hle
  have hjanuary : month - 9 ≤ 2 := by omega
  simp only [ofYear, hmonth, hlt, if_false, hjanuary, if_true]

/-- A day has the number of its year and of its place in it. -/
theorem toDays_ofYear (year : Int) (hmin : 0 ≤ day) (hmax : day ≤ 365) :
    (ofYear year day).toDays =
      year / 400 * 146097 +
        (year % 400 * 365 + year % 400 / 4 - year % 400 / 100 + day) - eraZero := by
  obtain ⟨month, hmonth⟩ : ∃ month, (5 * day + 2) / 153 = month := ⟨_, rfl⟩
  have hrange : 0 ≤ month ∧ month < 12 := by omega
  rcases Int.lt_or_le month 10 with hlt | hle
  · have hmarch : ¬(month + 3).toNat ≤ 2 := by omega
    have hplace : (((month + 3).toNat : Int) + 9) % 12 = month := by omega
    rw [ofYear_of_lt hmonth hrange.1 hlt, toDays]
    simp only [hmarch, if_false, hplace]
    omega
  · have hjanuary : (month - 9).toNat ≤ 2 := by omega
    have hplace : (((month - 9).toNat : Int) + 9) % 12 = month := by omega
    rw [ofYear_of_le hmonth hle hrange.2, toDays]
    simp only [hjanuary, if_true, hplace, Int.add_sub_cancel]
    omega

theorem daysInMonth_of_ne {year : Int} {month : Nat} (h : month ≠ 2) :
    daysInMonth year month = if month = 4 ∨ month = 6 ∨ month = 9 ∨ month = 11 then 30 else 31 :=
  if_neg h

theorem daysInMonth_le (year : Int) (month : Nat) : daysInMonth year month ≤ 31 := by
  unfold daysInMonth
  repeat' split
  all_goals decide

/-- Every place in a year is a day of the calendar, the leap day if the year has one. -/
theorem valid_ofYear (year : Int) (hmin : 0 ≤ day) (hmax : day ≤ 365)
    (hleap : day = 365 → isLeapYear (year + 1) = true) : (ofYear year day).Valid := by
  obtain ⟨month, hmonth⟩ : ∃ month, (5 * day + 2) / 153 = month := ⟨_, rfl⟩
  have hrange : 0 ≤ month ∧ month < 12 := by omega
  rcases Int.lt_or_le month 10 with hlt | hle
  · have hmarch : (month + 3).toNat ≠ 2 := by omega
    rw [ofYear_of_lt hmonth hrange.1 hlt, Valid, daysInMonth_of_ne hmarch]
    dsimp only
    refine ⟨by omega, by omega, by omega, ?_⟩
    split <;> omega
  · rw [ofYear_of_le hmonth hle hrange.2, Valid]
    dsimp only
    refine ⟨by omega, by omega, by omega, ?_⟩
    obtain rfl | rfl : month = 10 ∨ month = 11 := by omega
    · rw [daysInMonth_of_ne (by decide)]
      split <;> omega
    · -- the last month of the year, which ends with the place of the leap day
      have hfebruary : ((11 : Int) - 9).toNat = 2 := by decide
      rw [daysInMonth, if_pos hfebruary]
      by_cases hlast : day = 365
      · rw [hleap hlast, if_pos rfl]
        omega
      · split <;> omega

/-! ### Days and their numbers -/

theorem isLeapYear_iff {year : Int} :
    isLeapYear year = true ↔ year % 4 = 0 ∧ (year % 100 ≠ 0 ∨ year % 400 = 0) := by
  simp [isLeapYear]

/-- The year that a leap day ends is a leap year. -/
theorem Places.isLeapYear (h : Places dayOfEra century cycle year 365) (era : Int) :
    isLeapYear (era * 400 + century * 100 + cycle * 4 + year + 1) = true := by
  obtain ⟨hyear, hcycle⟩ := h.leap rfl
  have hcentury := h.century_mem
  have hcycles := h.cycle_mem
  rw [isLeapYear_iff]
  omega

theorem valid_ofDays (n : Int) : (ofDays n).Valid := by
  obtain ⟨era, dayOfEra, century, cycle, year, day, -, hplaces, hdate⟩ := exists_ofDays n
  rw [hdate]
  refine valid_ofYear _ hplaces.day_mem.1 hplaces.day_mem.2 ?_
  rintro rfl
  exact hplaces.isLeapYear era

/-- The day of a number has that number. -/
theorem toDays_ofDays (n : Int) : (ofDays n).toDays = n := by
  obtain ⟨era, dayOfEra, century, cycle, year, day, hera, hplaces, hdate⟩ := exists_ofDays n
  obtain ⟨hsum, hcentury, hcycle, hyear, hday, -⟩ := hplaces
  have hyears : (era * 400 + century * 100 + cycle * 4 + year) / 400 = era ∧
      (era * 400 + century * 100 + cycle * 4 + year) % 400 = century * 100 + cycle * 4 + year := by
    omega
  rw [hdate, toDays_ofYear _ hday.1 hday.2, hyears.1, hyears.2]
  omega

end Turnstile.Date
