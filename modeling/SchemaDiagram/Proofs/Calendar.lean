import Mathlib.Tactic.IntervalCases
import SchemaDiagram.Timestamp

/-!
# The calendar

Counting days and naming dates are inverse to each other.  A cycle of 400 years is cut into
centuries, cycles of four years, years and days; the last century has one day more than the others,
and the last year of a cycle has one day more unless the cycle is the last one of a century that has
not.  Every number of days names a date that its month has.
-/

namespace SchemaDiagram.Timestamp

/-! ## A cycle of 400 years -/

/-- The year of a 400-year cycle that a day falls in, counted from March. -/
def yearOfCycle (day : Int) : Int :=
  (day - day / 1460 + day / 36524 - day / 146096) / 365

/-- The days in front of a year of a 400-year cycle. -/
def daysBefore (year : Int) : Int :=
  365 * year + year / 4 - year / 100

/-- Whether the last day of February is in a year of a 400-year cycle, counted from March. -/
def HasLeapDay (year : Int) : Prop :=
  year % 4 = 3 ∧ (year % 100 ≠ 99 ∨ year % 400 = 399)

/-- A day that is not the last one of its cycle falls into a century, a cycle of four years within
it, and a year of that. -/
theorem yearOfCycle_of_parts {century quad day : Int} (hcentury : 0 ≤ century ∧ century ≤ 3)
    (hquad : 0 ≤ quad ∧ quad ≤ 24) (hday : 0 ≤ day ∧ day ≤ 1460)
    (hshort : 1461 * quad + day < 36524) :
    ∃ year, (0 ≤ year ∧ year ≤ 3) ∧
      yearOfCycle (36524 * century + 1461 * quad + day) = 100 * century + 4 * quad + year ∧
      365 * year ≤ day ∧ (day < 365 * year + 365 ∨ day = 1460 ∧ year = 3) := by
  have hlast : (36524 * century + 1461 * quad + day) / 146096 = 0 := by omega
  have hcenturies : (36524 * century + 1461 * quad + day) / 36524 = century := by omega
  have hquads : (36524 * century + 1461 * quad + day) / 1460 =
      25 * century + quad + (24 * century + quad + day) / 1460 := by omega
  have hcarry : 0 ≤ (24 * century + quad + day) / 1460 ∧
      (24 * century + quad + day) / 1460 ≤ 1 := by omega
  refine ⟨min (day / 365) 3, by omega, ?_, by omega, by omega⟩
  rw [yearOfCycle, hlast, hcenturies, hquads]
  omega

/-- A day of a cycle lies in the year that it falls in: on one of its first 365 days, or on the leap
day at its end. -/
theorem yearOfCycle_spec {day : Int} (hday : 0 ≤ day ∧ day < 146097) :
    (0 ≤ yearOfCycle day ∧ yearOfCycle day < 400) ∧ daysBefore (yearOfCycle day) ≤ day ∧
      (day < daysBefore (yearOfCycle day) + 365 ∨
        day = daysBefore (yearOfCycle day) + 365 ∧ HasLeapDay (yearOfCycle day)) := by
  by_cases hlast : day = 146096
  · subst hlast
    have hyear : yearOfCycle 146096 = 399 := by decide
    have hbefore : daysBefore 399 = 145731 := by decide
    rw [hyear, hbefore]
    exact ⟨by decide, by decide, .inr ⟨rfl, rfl, .inr rfl⟩⟩
  · obtain ⟨century, quad, rest, rfl, hcentury, hquad, hrest, hshort⟩ :
        ∃ century quad rest, day = 36524 * century + 1461 * quad + rest ∧
          (0 ≤ century ∧ century ≤ 3) ∧ (0 ≤ quad ∧ quad ≤ 24) ∧ (0 ≤ rest ∧ rest ≤ 1460) ∧
          1461 * quad + rest < 36524 :=
      ⟨day / 36524, day % 36524 / 1461, day % 36524 % 1461, by omega, by omega, by omega, by omega,
        by omega⟩
    obtain ⟨year, hyear, hvalue, hlow, hhigh⟩ :=
      yearOfCycle_of_parts hcentury hquad hrest hshort
    have hbefore : daysBefore (100 * century + 4 * quad + year) =
        36524 * century + 1461 * quad + 365 * year := by
      rw [daysBefore]
      omega
    rw [hvalue, hbefore]
    refine ⟨by omega, by omega, ?_⟩
    rcases hhigh with hhigh | ⟨rfl, rfl⟩
    · exact .inl (by omega)
    · exact .inr ⟨by omega, by omega, .inl (by omega)⟩

/-! ## Months -/

/-- The month of a year that a day falls in, counted from March. -/
def monthOfYear (day : Int) : Int :=
  (5 * day + 2) / 153

/-- The days of a year in front of a month, both counted from March. -/
def daysBeforeMonth (month : Int) : Int :=
  (153 * month + 2) / 5

/-- The number that a month counted from March has in the calendar. -/
def monthNumber (month : Int) : Int :=
  if month < 10 then month + 3 else month - 9

theorem monthOfYear_spec {day : Int} (hday : 0 ≤ day ∧ day ≤ 365) :
    (0 ≤ monthOfYear day ∧ monthOfYear day ≤ 11) ∧ daysBeforeMonth (monthOfYear day) ≤ day := by
  unfold monthOfYear daysBeforeMonth
  omega

/-! ## Dates -/

namespace Date

/-- The date of a day of a year, for a year of a 400-year cycle, all of them counted from March. -/
def ofParts (cycle year day : Int) : Date :=
  ⟨year + cycle * 400 + (if monthNumber (monthOfYear day) ≤ 2 then 1 else 0),
    (monthNumber (monthOfYear day)).toNat,
    (day - daysBeforeMonth (monthOfYear day) + 1).toNat⟩

/-- A day that a year of a 400-year cycle has, both counted from March. -/
structure IsDay (year day : Int) : Prop where
  bounds : 0 ≤ year ∧ year < 400
  first : 0 ≤ day
  last : day < 365 ∨ day = 365 ∧ HasLeapDay year

/-- Every number of days is a number of cycles, years and days, and names the date of these. -/
theorem exists_parts (days : Int) :
    ∃ cycle year day, IsDay year day ∧
      days = cycle * 146097 + daysBefore year + day - 719468 ∧
      ofDays days = ofParts cycle year day := by
  obtain ⟨cycle, hcycle⟩ : ∃ cycle, cycle = Int.fdiv (days + 719468) 146097 := ⟨_, rfl⟩
  obtain ⟨rest, hrest⟩ : ∃ rest, rest = days + 719468 - cycle * 146097 := ⟨_, rfl⟩
  have hbounds : 0 ≤ rest ∧ rest < 146097 := by
    rw [Int.fdiv_eq_ediv_of_nonneg _ (by decide)] at hcycle
    omega
  obtain ⟨hyear, hlow, hhigh⟩ := yearOfCycle_spec hbounds
  refine ⟨cycle, yearOfCycle rest, rest - daysBefore (yearOfCycle rest),
    ⟨hyear, by omega, ?_⟩, by omega, by rw [hrest, hcycle]; rfl⟩
  rcases hhigh with hhigh | ⟨hhigh, hleap⟩
  · exact .inl (by omega)
  · exact .inr ⟨by omega, hleap⟩

theorem IsDay.bound {year day : Int} (h : IsDay year day) : 0 ≤ day ∧ day ≤ 365 :=
  ⟨h.first, h.last.elim Int.le_of_lt fun hlast => Int.le_of_eq hlast.1⟩

theorem monthNumber_pos {month : Int} (hmonth : 0 ≤ month ∧ month ≤ 11) :
    1 ≤ monthNumber month ∧ monthNumber month ≤ 12 := by
  unfold monthNumber
  split <;> omega

/-- A month counted from March is found from its number again. -/
theorem monthNumber_shifted {month : Int} (hmonth : 0 ≤ month ∧ month ≤ 11) :
    (((monthNumber month).toNat : Int) + 9) % 12 = month := by
  unfold monthNumber
  split <;> omega

theorem toDays_ofParts {cycle year day : Int} (h : IsDay year day) :
    (ofParts cycle year day).toDays = cycle * 146097 + daysBefore year + day - 719468 := by
  obtain ⟨hmonth, hbefore⟩ := monthOfYear_spec h.bound
  obtain ⟨hlow, hhigh⟩ := h.bounds
  have hpos := (monthNumber_pos hmonth).1
  have hyear : (if (ofParts cycle year day).month ≤ 2 then (ofParts cycle year day).year - 1
      else (ofParts cycle year day).year) = year + cycle * 400 := by
    simp only [ofParts, Int.toNat_le, Int.cast_ofNat_Int]
    by_cases hearly : monthNumber (monthOfYear day) ≤ 2
    · rw [if_pos hearly, if_pos hearly]
      omega
    · rw [if_neg hearly, if_neg hearly]
      omega
  have hcycle : Int.fdiv (year + cycle * 400) 400 = cycle := by
    rw [Int.fdiv_eq_ediv_of_nonneg _ (by decide)]
    omega
  have hshifted : (((ofParts cycle year day).month : Int) + 9) % 12 = monthOfYear day :=
    monthNumber_shifted hmonth
  have hday : (((ofParts cycle year day).day : Nat) : Int) =
      day - daysBeforeMonth (monthOfYear day) + 1 :=
    Int.toNat_of_nonneg (by omega)
  simp only [toDays]
  rw [hyear, hcycle, hshifted, hday, daysBeforeMonth, daysBefore]
  omega

theorem toDays_ofDays (days : Int) : (ofDays days).toDays = days := by
  obtain ⟨cycle, year, day, hday, hdays, hdate⟩ := exists_parts days
  rw [hdate, toDays_ofParts hday, hdays]

/-! ## Dates that there are -/

/-- A date that its month has. -/
structure IsValid (date : Date) : Prop where
  month : 1 ≤ date.month ∧ date.month ≤ 12
  day : 1 ≤ date.day ∧ date.day ≤ daysInMonth date.year date.month

theorem isLeap_iff (year : Int) :
    isLeap year = true ↔ year % 4 = 0 ∧ (year % 100 ≠ 0 ∨ year % 400 = 0) := by
  change (year % 4 == 0 && (year % 100 != 0 || year % 400 == 0)) = true ↔ _
  rw [Bool.and_eq_true, Bool.or_eq_true, beq_iff_eq, beq_iff_eq, bne_iff_ne]

theorem isLeap_ofCycle {year : Int} (h : HasLeapDay year) (cycle : Int) :
    isLeap (year + cycle * 400 + 1) = true := by
  obtain ⟨hfour, hcentury⟩ := h
  rw [isLeap_iff]
  omega

/-- A month other than February is as long as the distance to the next one. -/
theorem daysInMonth_monthNumber {month : Int} (hmonth : 0 ≤ month ∧ month ≤ 10) (year : Int) :
    (daysInMonth year (monthNumber month).toNat : Int) =
      daysBeforeMonth (month + 1) - daysBeforeMonth month := by
  obtain ⟨hlow, hhigh⟩ := hmonth
  interval_cases month <;> rfl

theorem le_daysInMonth_february (year : Int) : 28 ≤ daysInMonth year 2 := by
  rw [daysInMonth, if_pos rfl]
  split <;> decide

theorem daysBeforeMonth_monthOfYear_lt (day : Int) :
    day < daysBeforeMonth (monthOfYear day + 1) := by
  unfold monthOfYear daysBeforeMonth
  omega

theorem isValid_ofParts {cycle year day : Int} (h : IsDay year day) :
    (ofParts cycle year day).IsValid := by
  obtain ⟨hmonth, hbefore⟩ := monthOfYear_spec h.bound
  obtain ⟨hfirst, hlast⟩ := monthNumber_pos hmonth
  refine ⟨⟨Int.le_toNat (by omega) |>.mpr hfirst, Int.toNat_le.mpr hlast⟩,
    Int.le_toNat (by omega) |>.mpr (by omega), Int.toNat_le.mpr ?_⟩
  by_cases hfebruary : monthOfYear day = 11
  · have hmonth' : (ofParts cycle year day).month = 2 := by
      change (monthNumber (monthOfYear day)).toNat = 2
      rw [hfebruary]
      rfl
    have hyear : (ofParts cycle year day).year = year + cycle * 400 + 1 := by
      change year + cycle * 400 + (if monthNumber (monthOfYear day) ≤ 2 then 1 else 0) = _
      rw [hfebruary]
      rfl
    have hjanuary : daysBeforeMonth 11 = 337 := rfl
    rw [hmonth', hyear, hfebruary, hjanuary]
    rcases h.last with hshort | ⟨rfl, hleap⟩
    · have hlength := le_daysInMonth_february (year + cycle * 400 + 1)
      omega
    · rw [daysInMonth, if_pos rfl, if_pos (isLeap_ofCycle hleap cycle)]
      decide
  · have hlength : ∀ year, (daysInMonth year (monthNumber (monthOfYear day)).toNat : Int) =
        daysBeforeMonth (monthOfYear day + 1) - daysBeforeMonth (monthOfYear day) :=
      daysInMonth_monthNumber (by omega)
    have hnext := daysBeforeMonth_monthOfYear_lt day
    change _ ≤ (daysInMonth _ (monthNumber (monthOfYear day)).toNat : Int)
    rw [hlength]
    omega

theorem isValid_ofDays (days : Int) : (ofDays days).IsValid := by
  obtain ⟨cycle, year, day, hday, -, hdate⟩ := exists_parts days
  rw [hdate]
  exact isValid_ofParts hday

end Date

end SchemaDiagram.Timestamp
