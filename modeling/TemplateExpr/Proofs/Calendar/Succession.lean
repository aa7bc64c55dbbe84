import Mathlib.Data.Nat.Init
import TemplateExpr.Proofs.Calendar.DayNumber

/-!
# One day after the other

The months of a year follow each other on the line of days, each with its number of days, and so do
the years (`monthStart_succ`, `monthStart_december`). Hence no two regular dates have the same day
number (`IsRegular.dayNumber_injective`), and day numbers are the regular dates, one by one: the next
number is that of the next day (`plus_add_one`), and going some days on is adding to the day number
(`plus_plus`).
-/

namespace TemplateExpr.Date

/-! ## Months -/

/-- The day number of the first of a month. -/
def monthStart (year : Int) (month : Nat) : Int := dayNumber ⟨year, month, 1⟩

theorem dayNumber_eq_monthStart (d : Date) : d.dayNumber = monthStart d.year d.month + d.day - 1 := by
  simp only [monthStart, dayNumber]
  omega

/-- A month begins when the one before it is over. -/
theorem monthStart_succ (year : Int) {month : Nat} (h : 1 ≤ month) (h' : month < 12) :
    monthStart year (month + 1) = monthStart year month + monthLength year month := by
  simp only [monthStart, dayNumber, daysBeforeMonth]
  have hcases : month = 1 ∨ month = 2 ∨ month = 3 ∨ month = 4 ∨ month = 5 ∨ month = 6 ∨ month = 7 ∨
      month = 8 ∨ month = 9 ∨ month = 10 ∨ month = 11 := by omega
  rcases hcases with rfl | rfl | rfl | rfl | rfl | rfl | rfl | rfl | rfl | rfl | rfl <;>
    simp [monthLength]
  any_goals omega
  -- February is left, behind which the year goes on with a leap day if it has one.
  simp only [isLeap, Bool.and_eq_true, Bool.or_eq_true, beq_iff_eq, bne_iff_ne]
  split <;> omega

/-- December has 31 days, and the year is over then. -/
theorem monthStart_december (year : Int) : monthStart year 12 + 31 = newYear (year + 1) := by
  simp only [newYear_eq, monthStart, dayNumber, daysBeforeMonth, Nat.reduceLeDiff, reduceIte,
    Nat.reduceAdd, Nat.reduceMod, Nat.reduceMul, Nat.reduceDiv]
  omega

/-- No day of a month comes before the end of an earlier one of the same year. -/
theorem monthStart_add_monthLength_le (year : Int) {month month' : Nat} (h : 1 ≤ month)
    (hlt : month < month') (h' : month' ≤ 12) :
    monthStart year month + monthLength year month ≤ monthStart year month' := by
  induction month', hlt using Nat.le_induction with
  | base => exact Int.le_of_eq (monthStart_succ year h (by omega)).symm
  | succ later hle ih =>
    have hnext : monthStart year (later + 1) = monthStart year later + monthLength year later :=
      monthStart_succ year (by omega) (by omega)
    have hbefore := ih (by omega)
    omega

/-- **No two regular dates have the same day number.** -/
theorem IsRegular.dayNumber_injective {d d' : Date} (h : d.IsRegular) (h' : d'.IsRegular)
    (heq : d.dayNumber = d'.dayNumber) : d = d' := by
  have hyear : d.year = d'.year := by
    have hlow := h.newYear_le_dayNumber
    have hhigh := h.dayNumber_lt_newYear
    have hlow' := h'.newYear_le_dayNumber
    have hhigh' := h'.dayNumber_lt_newYear
    rcases Int.lt_trichotomy d.year d'.year with hlt | hsame | hlt
    · have := newYear_mono (Int.add_one_le_of_lt hlt)
      omega
    · exact hsame
    · have := newYear_mono (Int.add_one_le_of_lt hlt)
      omega
  obtain ⟨hmonth, hmonth', hday, hday'⟩ := h
  obtain ⟨kmonth, kmonth', kday, kday'⟩ := h'
  obtain ⟨year, month, day⟩ := d
  obtain ⟨year', month', day'⟩ := d'
  obtain rfl : year = year' := hyear
  rw [dayNumber_eq_monthStart, dayNumber_eq_monthStart] at heq
  dsimp only at *
  obtain rfl : month = month' := by
    rcases Nat.lt_trichotomy month month' with hlt | hsame | hlt
    · have := monthStart_add_monthLength_le year hmonth hlt kmonth'
      omega
    · exact hsame
    · have := monthStart_add_monthLength_le year kmonth hlt hmonth'
      omega
  obtain rfl : day = day' := by omega
  rfl

theorem IsRegular.ofDayNumber_dayNumber {d : Date} (h : d.IsRegular) : ofDayNumber d.dayNumber = d :=
  (isRegular_ofDayNumber _).dayNumber_injective h (TemplateExpr.Date.dayNumber_ofDayNumber _)

/-! ## The next day -/

/-- The day after a date. -/
def next (d : Date) : Date :=
  if d.day < monthLength d.year d.month then { d with day := d.day + 1 }
  else if d.month < 12 then ⟨d.year, d.month + 1, 1⟩
  else ⟨d.year + 1, 1, 1⟩

theorem one_le_monthLength (year : Int) (month : Nat) : 1 ≤ monthLength year month := by
  unfold monthLength
  repeat' split
  all_goals omega

theorem IsRegular.next {d : Date} (h : d.IsRegular) : d.next.IsRegular := by
  obtain ⟨hmonth, hmonth', hday, hday'⟩ := h
  unfold Date.next
  split
  next hwithin => exact ⟨hmonth, hmonth', by simp, hwithin⟩
  next =>
    split
    next hlt => exact ⟨by simp, hlt, Nat.le_refl 1, one_le_monthLength _ _⟩
    next => exact ⟨Nat.le_refl 1, by simp, Nat.le_refl 1, one_le_monthLength _ _⟩

theorem IsRegular.dayNumber_next {d : Date} (h : d.IsRegular) :
    d.next.dayNumber = d.dayNumber + 1 := by
  obtain ⟨hmonth, hmonth', hday, hday'⟩ := h
  unfold Date.next
  rw [dayNumber_eq_monthStart d]
  split
  next =>
    rw [dayNumber_eq_monthStart]
    dsimp only
    omega
  next hlast =>
    split
    next hlt =>
      have hstart := monthStart_succ d.year hmonth hlt
      rw [dayNumber_eq_monthStart]
      dsimp only
      omega
    next hdecember =>
      obtain hmonth : d.month = 12 := by omega
      have hover := monthStart_december d.year
      have hlength : monthLength d.year 12 = 31 := rfl
      rw [hmonth] at hlast hday' ⊢
      show newYear (d.year + 1) = _
      omega

/-! ## Some days on -/

/-- The date some days after another one. -/
def plus (d : Date) (days : Int) : Date := ofDayNumber (d.dayNumber + days)

@[simp] theorem dayNumber_plus (d : Date) (days : Int) :
    (d.plus days).dayNumber = d.dayNumber + days := dayNumber_ofDayNumber _

theorem isRegular_plus (d : Date) (days : Int) : (d.plus days).IsRegular := isRegular_ofDayNumber _

theorem IsRegular.plus_zero {d : Date} (h : d.IsRegular) : d.plus 0 = d := by
  rw [plus, Int.add_zero, h.ofDayNumber_dayNumber]

theorem plus_plus (d : Date) (a b : Int) : (d.plus a).plus b = d.plus (a + b) := by
  rw [plus, dayNumber_plus, Int.add_assoc, ← plus]

theorem IsRegular.plus_one {d : Date} (h : d.IsRegular) : d.plus 1 = d.next := by
  rw [plus, ← h.dayNumber_next, h.next.ofDayNumber_dayNumber]

/-- One more day on is the next day. -/
theorem plus_add_one (d : Date) (days : Int) : d.plus (days + 1) = (d.plus days).next := by
  rw [← plus_plus, (isRegular_plus d days).plus_one]

end TemplateExpr.Date
