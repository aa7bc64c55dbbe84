import TemplateExpr.Calendar.Instant

/-!
# The line of days

Every day number is that of a regular date, one with a month of the year and a day of that month
(`isRegular_ofDayNumber`). Regular dates of a year have day numbers from its New Year's Day up to,
and without, the next one, and New Year's Days follow the years; so the dates of the calendar are
those of one stretch of the line (`isValid_ofDayNumber_iff`).
-/

namespace TemplateExpr

namespace Date

/-- A month of the year and a day of that month. -/
structure IsRegular (d : Date) : Prop where
  one_le_month : 1 ≤ d.month
  month_le : d.month ≤ 12
  one_le_day : 1 ≤ d.day
  day_le : d.day ≤ monthLength d.year d.month

theorem isValid_iff {d : Date} :
    d.isValid ↔ (firstYear ≤ d.year ∧ d.year ≤ lastYear) ∧ d.IsRegular := by
  simp only [isValid, Bool.and_eq_true, decide_eq_true_eq]
  constructor
  · rintro ⟨⟨⟨⟨hyear, hmonth⟩, hmonth'⟩, hday⟩, hday'⟩
    exact ⟨hyear, hmonth, hmonth', hday, hday'⟩
  · rintro ⟨hyear, hmonth, hmonth', hday, hday'⟩
    exact ⟨⟨⟨⟨hyear, hmonth⟩, hmonth'⟩, hday⟩, hday'⟩

theorem monthLength_le (year : Int) (month : Nat) : monthLength year month ≤ 31 := by
  unfold monthLength
  repeat' split
  all_goals omega

/-! ## Dates of days -/

/-- A month of a March year, counted from zero, is one of twelve. -/
theorem lt_twelve_cases {month : Nat} (h : month < 12) :
    month = 0 ∨ month = 1 ∨ month = 2 ∨ month = 3 ∨ month = 4 ∨ month = 5 ∨ month = 6 ∨ month = 7 ∨
      month = 8 ∨ month = 9 ∨ month = 10 ∨ month = 11 := by
  omega

/-- A day of a March year is regular, and so is its leap day. -/
theorem isRegular_ofDayOfYear {year : Int} {day : Nat}
    (h : day < 365 ∨ day = 365 ∧ isLeap (year + 1)) : (ofDayOfYear year day).IsRegular := by
  obtain ⟨month, hmonth⟩ : ∃ month, month = (5 * day + 2) / 153 := ⟨_, rfl⟩
  have hlength : day - daysBeforeMonth month + 1 ≤
      monthLength (if month < 10 then year else year + 1)
        (if month < 10 then month + 3 else month - 9) := by
    unfold daysBeforeMonth
    rcases lt_twelve_cases (by omega : month < 12) with
      rfl | rfl | rfl | rfl | rfl | rfl | rfl | rfl | rfl | rfl | rfl | rfl <;>
      simp [monthLength]
    any_goals omega
    -- February is left, in which the year may have its leap day.
    rcases h with hday | ⟨rfl, hleap⟩
    · split <;> omega
    · simp [hleap]
  constructor <;> simp only [ofDayOfYear, ← hmonth]
  case one_le_month => split <;> omega
  case month_le => split <;> omega
  case one_le_day => omega
  case day_le => exact hlength

/-- Of the four years, and of the centuries, that the leap day may end, the last does. -/
theorem isRegular_ofDayNumber (n : Int) : (ofDayNumber n).IsRegular := by
  refine isRegular_ofDayOfYear ?_
  simp only [isLeap, Bool.and_eq_true, Bool.or_eq_true, beq_iff_eq, bne_iff_ne]
  omega

/-! ## Years -/

/-- The day number of the first of January. -/
def newYear (year : Int) : Int := dayNumber ⟨year, 1, 1⟩

theorem newYear_eq (year : Int) :
    newYear year =
      365 * (year - 1) + (year - 1) / 4 - (year - 1) / 100 + (year - 1) / 400 + 306 - epoch := by
  simp [newYear, dayNumber, daysBeforeMonth]

theorem newYear_mono {year year' : Int} (h : year ≤ year') : newYear year ≤ newYear year' := by
  rw [newYear_eq, newYear_eq]
  omega

theorem IsRegular.newYear_le_dayNumber {d : Date} (h : d.IsRegular) :
    newYear d.year ≤ d.dayNumber := by
  obtain ⟨hmonth, hmonth', hday, -⟩ := h
  simp only [newYear_eq, dayNumber, daysBeforeMonth]
  split <;> omega

theorem IsRegular.dayNumber_lt_newYear {d : Date} (h : d.IsRegular) :
    d.dayNumber < newYear (d.year + 1) := by
  obtain ⟨hmonth, hmonth', hday, hday'⟩ := h
  have hlength := monthLength_le d.year d.month
  simp only [newYear_eq, dayNumber, daysBeforeMonth]
  split <;> omega

/-! ## The calendar -/

/-- The day number of the first date of the calendar. -/
def firstDay : Int := dayNumber ⟨firstYear, 1, 1⟩

/-- The day number of the last date of the calendar. -/
def lastDay : Int := dayNumber ⟨lastYear, 12, 31⟩

theorem firstDay_eq : firstDay = -96465292 := by decide

theorem lastDay_eq : lastDay = 95026236 := by decide

theorem newYear_firstYear : newYear firstYear = firstDay := rfl

theorem newYear_lastYear : newYear (lastYear + 1) = lastDay + 1 := by decide

/-- The dates of the calendar are the days between its first and its last. -/
theorem isValid_ofDayNumber_iff {n : Int} :
    (ofDayNumber n).isValid ↔ firstDay ≤ n ∧ n ≤ lastDay := by
  have hregular := isRegular_ofDayNumber n
  have hle := hregular.newYear_le_dayNumber
  have hlt := hregular.dayNumber_lt_newYear
  rw [dayNumber_ofDayNumber] at hle hlt
  have hfirst := newYear_firstYear
  have hlast := newYear_lastYear
  rw [isValid_iff, and_iff_left hregular]
  constructor
  · rintro ⟨hyear, hyear'⟩
    have hmono := newYear_mono hyear
    have hmono' := newYear_mono (Int.add_le_add_right hyear' 1)
    omega
  · rintro ⟨hn, hn'⟩
    refine ⟨Int.not_lt.mp fun hyear => ?_, Int.not_lt.mp fun hyear => ?_⟩
    · have hnext := newYear_mono (Int.add_one_le_of_lt hyear)
      omega
    · have hnext := newYear_mono (Int.add_one_le_of_lt hyear)
      omega

theorem firstDay_le_dayNumber {d : Date} (h : d.isValid) : firstDay ≤ d.dayNumber := by
  obtain ⟨⟨hyear, -⟩, hregular⟩ := isValid_iff.mp h
  have hle := hregular.newYear_le_dayNumber
  have hmono := newYear_mono hyear
  have hfirst := newYear_firstYear
  omega

theorem dayNumber_le_lastDay {d : Date} (h : d.isValid) : d.dayNumber ≤ lastDay := by
  obtain ⟨⟨-, hyear⟩, hregular⟩ := isValid_iff.mp h
  have hlt := hregular.dayNumber_lt_newYear
  have hmono := newYear_mono (Int.add_le_add_right hyear 1)
  have hlast := newYear_lastYear
  omega

end Date

end TemplateExpr
