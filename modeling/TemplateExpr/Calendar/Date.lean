/-!
# Calendar dates

Dates of the proleptic Gregorian calendar, and their numbers on the line of days on which
1970-01-01 has the number zero. Counting is done in years that begin in March, so that a leap day is
the last day of its year; then a cycle of 400 years has 146097 days, a century 36524, four years
1461 and a year 365, and the last of each kind may be one day longer.

`dayNumber_ofDayNumber` says that every number is that of a date.
-/

namespace TemplateExpr

/-- A year, a month from 1 to 12, and a day of the month from 1. -/
structure Date where
  year : Int
  month : Nat
  day : Nat
deriving DecidableEq, Inhabited

namespace Date

def isLeap (year : Int) : Bool := year % 4 == 0 && (year % 100 != 0 || year % 400 == 0)

/-- The number of days of a month. -/
def monthLength (year : Int) (month : Nat) : Nat :=
  if month = 2 then if isLeap year then 29 else 28
  else if month = 4 ∨ month = 6 ∨ month = 9 ∨ month = 11 then 30
  else 31

/-- The first and the last year of the calendar. -/
def firstYear : Int := -262143

/-- The last year of the calendar. -/
def lastYear : Int := 262142

/-- Whether a date is one of the calendar. -/
def isValid (d : Date) : Bool :=
  firstYear ≤ d.year && d.year ≤ lastYear && 1 ≤ d.month && d.month ≤ 12
    && 1 ≤ d.day && d.day ≤ monthLength d.year d.month

/-- The days of a March year before its month with the given number, March being zero. -/
def daysBeforeMonth (month : Nat) : Nat := (153 * month + 2) / 5

/-- The day number of the first of March of the year zero, negated. -/
def epoch : Int := 719468

/-- The number of days since 1970-01-01. -/
def dayNumber (d : Date) : Int :=
  let year := if d.month ≤ 2 then d.year - 1 else d.year
  let month := (d.month + 9) % 12
  365 * year + year / 4 - year / 100 + year / 400 + daysBeforeMonth month + d.day - 1 - epoch

/-- The day of a March year as a date; the year is the one in which it begins. -/
def ofDayOfYear (year : Int) (day : Nat) : Date :=
  let month := (5 * day + 2) / 153
  { year := if month < 10 then year else year + 1
    month := if month < 10 then month + 3 else month - 9
    day := day - daysBeforeMonth month + 1 }

/-- The date with the given day number. -/
def ofDayNumber (n : Int) : Date :=
  let cycle := (n + epoch) / 146097
  let days := ((n + epoch) % 146097).toNat
  let century := min 3 (days / 36524)
  let days := days - 36524 * century
  let four := days / 1461
  let days := days - 1461 * four
  let year := min 3 (days / 365)
  ofDayOfYear (400 * cycle + (100 * century + 4 * four + year : Nat)) (days - 365 * year)

theorem dayNumber_ofDayOfYear (year : Int) (day : Nat) (h : day < 366) :
    (ofDayOfYear year day).dayNumber =
      365 * year + year / 4 - year / 100 + year / 400 + day - epoch := by
  obtain ⟨month, hm⟩ : ∃ month, month = (5 * day + 2) / 153 := ⟨_, rfl⟩
  have hle : month ≤ 11 := by omega
  simp only [ofDayOfYear, dayNumber, daysBeforeMonth, ← hm]
  have hcases : month = 0 ∨ month = 1 ∨ month = 2 ∨ month = 3 ∨ month = 4 ∨ month = 5 ∨ month = 6
      ∨ month = 7 ∨ month = 8 ∨ month = 9 ∨ month = 10 ∨ month = 11 := by omega
  rcases hcases with rfl | rfl | rfl | rfl | rfl | rfl | rfl | rfl | rfl | rfl | rfl | rfl <;>
    simp only [Nat.reduceLT, Nat.reduceLeDiff, Nat.reduceAdd, Nat.reduceSub, reduceIte] <;>
    omega

theorem dayNumber_ofDayNumber (n : Int) : (ofDayNumber n).dayNumber = n := by
  simp only [ofDayNumber]
  obtain ⟨days, hdays⟩ : ∃ days, days = ((n + epoch) % 146097).toNat := ⟨_, rfl⟩
  obtain ⟨cycle, hcycle⟩ : ∃ cycle, cycle = (n + epoch) / 146097 := ⟨_, rfl⟩
  obtain ⟨century, hcentury⟩ : ∃ century, century = min 3 (days / 36524) := ⟨_, rfl⟩
  obtain ⟨inCentury, hin⟩ : ∃ d, d = days - 36524 * century := ⟨_, rfl⟩
  obtain ⟨four, hfour⟩ : ∃ four, four = inCentury / 1461 := ⟨_, rfl⟩
  obtain ⟨inFour, hinFour⟩ : ∃ d, d = inCentury - 1461 * four := ⟨_, rfl⟩
  obtain ⟨year, hyear⟩ : ∃ year, year = min 3 (inFour / 365) := ⟨_, rfl⟩
  simp only [← hdays, ← hcycle, ← hcentury, ← hin, ← hfour, ← hinFour, ← hyear]
  rw [dayNumber_ofDayOfYear _ _ (by omega)]
  have h4 : (400 * cycle + (100 * century + 4 * four + year : Nat)) / 4 =
      100 * cycle + 25 * century + four := by omega
  have h100 : (400 * cycle + (100 * century + 4 * four + year : Nat)) / 100 =
      4 * cycle + century := by omega
  have h400 : (400 * cycle + (100 * century + 4 * four + year : Nat)) / 400 = cycle := by omega
  rw [h4, h100, h400]
  omega

/-- The digits of a number, at least `width` of them. -/
def padded (width n : Nat) : List Char :=
  let digits := Nat.toDigits 10 n
  List.replicate (width - digits.length) '0' ++ digits

/-- A year with at least four digits, and with a sign outside the years 0 to 9999. -/
def yearText (year : Int) : List Char :=
  let sign := if year < 0 then ['-'] else if 9999 < year then ['+'] else []
  sign ++ padded 4 year.natAbs

/-- A date as year, month and day between hyphens. -/
def chars (d : Date) : List Char :=
  yearText d.year ++ '-' :: padded 2 d.month ++ '-' :: padded 2 d.day

def text (d : Date) : String := .ofList d.chars

end Date

end TemplateExpr
