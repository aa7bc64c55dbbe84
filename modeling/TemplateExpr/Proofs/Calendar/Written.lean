import TemplateExpr.Calendar.Reader
import TemplateExpr.Proofs.Calendar.DayNumber
import TemplateExpr.Proofs.Number.Written
import TemplateExpr.Proofs.Text.Blank

/-!
# A written date is read back

A date of the years 0 to 9999 is written as four digits, two and two (`IsPlain.exists_digits`). The
reader for moments with an offset takes all of that for the date in front of a time, and fails for
want of the time. The next reader reads dates alone, and finds the date that was written
(`IsPlain.ofText?_text`).
-/

namespace TemplateExpr

open Number (IsDigits DigitsOf)

/-! ## Readers at digits -/

namespace Calendar

theorem read_bind {α β : Type} {reader : Reader α} {next : α → Reader β} {cs rest : List Char} {a : α}
    (h : reader.run cs = some (a, rest)) : (reader >>= next).run cs = (next a).run rest := by
  rw [StateT.run_bind, h]
  rfl

theorem read_get {α : Type} (next : List Char → Reader α) (cs : List Char) :
    (get >>= next).run cs = (next cs).run cs := rfl

theorem run_symbol (c : Char) (rest : List Char) : (symbol c).run (c :: rest) = some ((), rest) := by
  show (if c = c then _ else _ : Reader Unit).run (c :: rest) = _
  rw [if_pos rfl]
  rfl

variable {ds rest : List Char} {n least most : Nat}

/-- All of the digits are read, if they are neither too few nor too many. -/
theorem run_digits (hdigits : IsDigits ds) (hleast : least ≤ ds.length) (hmost : ds.length ≤ most)
    (hrest : ∀ c ∈ rest.head?, ¬ c.isDigit) :
    (digits least (some most)).run (ds ++ rest) = some (ds, rest) := by
  have hrun : (ds ++ rest).takeWhile Char.isDigit = ds := takeWhile_append_of_stop hdigits hrest
  unfold digits
  rw [read_get]
  simp only [hrun, List.take_of_length_le hmost, Nat.not_lt.mpr hleast, if_false]
  show some (ds, (ds ++ rest).drop ds.length) = _
  rw [List.drop_left]

theorem run_number (h : DigitsOf ds n) (hleast : least ≤ ds.length) (hmost : ds.length ≤ most)
    (hrest : ∀ c ∈ rest.head?, ¬ c.isDigit) :
    (number least (some most)).run (ds ++ rest) = some (n, rest) := by
  unfold number
  rw [read_bind (run_digits h.isDigits hleast hmost hrest), h.value]
  rfl

/-- There is no blank in front of a digit to be skipped. -/
theorem run_skipBlanks (h : DigitsOf ds n) :
    skipBlanks.run (ds ++ rest) = some ((), ds ++ rest) := by
  obtain ⟨d, ds, rfl⟩ := List.exists_cons_of_ne_nil h.ne_nil
  have hblank : ¬ Text.isBlank d := not_isBlank_of_isDigit (h.isDigits d (by simp))
  show some ((), Text.trimStart (d :: (ds ++ rest))) = _
  rw [Text.trimStart, List.dropWhile_cons_of_neg hblank]
  rfl

theorem run_looseNumber (h : DigitsOf ds n) (hlength : ds.length ≤ 2)
    (hrest : ∀ c ∈ rest.head?, ¬ c.isDigit) : looseNumber.run (ds ++ rest) = some (n, rest) := by
  unfold looseNumber
  rw [read_bind (run_skipBlanks h)]
  exact run_number h (List.length_pos_iff.mpr h.ne_nil) hlength hrest

/-- Digits are no sign. -/
theorem append_ne_cons {c : Char} (h : DigitsOf ds n) (hc : ¬ c.isDigit) (cs : List Char) :
    ds ++ rest ≠ c :: cs := by
  intro heq
  obtain ⟨d, ds, rfl⟩ := List.exists_cons_of_ne_nil h.ne_nil
  obtain ⟨rfl, -⟩ := List.cons.inj heq
  exact hc (h.isDigits d (by simp))

theorem run_looseYear (h : DigitsOf ds n) (hlength : ds.length ≤ 4)
    (hrest : ∀ c ∈ rest.head?, ¬ c.isDigit) : looseYear.run (ds ++ rest) = some ((n : Int), rest) := by
  have hnumber : (number 1 (some 4)).run (ds ++ rest) = some (n, rest) :=
    run_number h (List.length_pos_iff.mpr h.ne_nil) hlength hrest
  unfold looseYear
  rw [read_bind (run_skipBlanks h), read_get]
  split
  next heq => exact absurd heq (append_ne_cons h (by decide) _)
  next heq => exact absurd heq (append_ne_cons h (by decide) _)
  next =>
    rw [read_bind hnumber]
    rfl

end Calendar

namespace Date

/-! ## The digits of a date -/

/-- A date of a year from 0 to 9999. -/
structure IsPlain (d : Date) : Prop extends d.IsRegular where
  year_nonneg : 0 ≤ d.year
  year_le : d.year ≤ 9999

theorem IsPlain.isValid {d : Date} (h : d.IsPlain) : d.isValid := by
  obtain ⟨hregular, hyear, hyear'⟩ := h
  refine isValid_iff.mpr ⟨?_, hregular⟩
  simp only [firstYear, lastYear]
  omega

theorem digitsOf_padded (width n : Nat) : DigitsOf (padded width n) n :=
  (Number.digitsOf_toDigits n).zeros_append _

theorem length_padded {width n : Nat} (hwidth : 0 < width) (h : n < 10 ^ width) :
    (padded width n).length = width := by
  have hle : (Nat.toDigits 10 n).length ≤ width :=
    (Nat.length_toDigits_le_iff (by decide) hwidth).mpr h
  rw [padded, List.length_append, List.length_replicate]
  omega

/-- The first moment of a date. -/
def start (d : Date) : Instant := ⟨d.dayNumber * Instant.secondsPerDay, 0⟩

theorem at?_eq_start {d : Date} (h : d.isValid) : Instant.at? d 0 0 0 0 = some d.start := by
  simp [Instant.at?, h, start]

end Date

open Date Calendar

/-- The numbers of a date in digits, as many as they are written with. -/
structure Date.Digits (d : Date) (yyyy mm dd : List Char) : Prop where
  year : DigitsOf yyyy d.year.toNat
  month : DigitsOf mm d.month
  day : DigitsOf dd d.day
  length_year : yyyy.length = 4
  length_month : mm.length = 2
  length_day : dd.length = 2

/-- A plain date is written as its digits. -/
theorem Date.IsPlain.exists_digits {d : Date} (h : d.IsPlain) :
    ∃ yyyy mm dd, d.Digits yyyy mm dd ∧ d.chars = yyyy ++ '-' :: (mm ++ '-' :: dd) := by
  obtain ⟨⟨-, hmonth, -, hday⟩, hyear, hyear'⟩ := h
  have hlength := monthLength_le d.year d.month
  refine ⟨padded 4 d.year.toNat, padded 2 d.month, padded 2 d.day, ?_, ?_⟩
  · exact {
      year := digitsOf_padded _ _
      month := digitsOf_padded _ _
      day := digitsOf_padded _ _
      length_year := length_padded (by decide) (by omega)
      length_month := length_padded (by decide) (by omega)
      length_day := length_padded (by decide) (by omega) }
  · have hnat : d.year.natAbs = d.year.toNat := by omega
    rw [chars, yearText, if_neg (by omega), if_neg (by omega), hnat]
    simp

namespace Date.Digits

variable {d : Date} {yyyy mm dd : List Char} (h : d.Digits yyyy mm dd)
include h

theorem not_isBlank : ∀ c ∈ yyyy ++ '-' :: (mm ++ '-' :: dd), ¬ Text.isBlank c := by
  intro c hc
  simp only [List.mem_append, List.mem_cons] at hc
  rcases hc with hc | rfl | hc | rfl | hc
  · exact not_isBlank_of_isDigit (h.year.isDigits c hc)
  · decide
  · exact not_isBlank_of_isDigit (h.month.isDigits c hc)
  · decide
  · exact not_isBlank_of_isDigit (h.day.isDigits c hc)

/-- The front of a moment with an offset looks like that, but behind it comes the time. -/
theorem run_zoned : zoned.run (yyyy ++ '-' :: (mm ++ '-' :: dd)) = none := by
  have hyear : (number 4 (some 4)).run (yyyy ++ '-' :: (mm ++ '-' :: dd)) =
      some (d.year.toNat, '-' :: (mm ++ '-' :: dd)) :=
    run_number h.year (Nat.le_of_eq h.length_year.symm) (Nat.le_of_eq h.length_year) (by simp)
  have hmonth : (number 2 (some 2)).run (mm ++ '-' :: dd) = some (d.month, '-' :: dd) :=
    run_number h.month (Nat.le_of_eq h.length_month.symm) (Nat.le_of_eq h.length_month) (by simp)
  have hday : (number 2 (some 2)).run (dd ++ []) = some (d.day, []) :=
    run_number h.day (Nat.le_of_eq h.length_day.symm) (Nat.le_of_eq h.length_day) (by simp)
  rw [List.append_nil] at hday
  unfold zoned
  rw [read_bind hyear, read_bind (run_symbol _ _), read_bind hmonth, read_bind (run_symbol _ _),
    read_bind hday]
  rfl

theorem run_looseDate (hyear : 0 ≤ d.year) :
    looseDate.run (yyyy ++ '-' :: (mm ++ '-' :: dd)) = some (d, []) := by
  have hyear' : looseYear.run (yyyy ++ '-' :: (mm ++ '-' :: dd)) =
      some ((d.year.toNat : Int), '-' :: (mm ++ '-' :: dd)) :=
    run_looseYear h.year (Nat.le_of_eq h.length_year) (by simp)
  have hmonth : looseNumber.run (mm ++ '-' :: dd) = some (d.month, '-' :: dd) :=
    run_looseNumber h.month (Nat.le_of_eq h.length_month) (by simp)
  have hday : looseNumber.run (dd ++ []) = some (d.day, []) :=
    run_looseNumber h.day (Nat.le_of_eq h.length_day) (by simp)
  rw [List.append_nil] at hday
  unfold looseDate
  rw [read_bind hyear', read_bind (run_symbol _ _), read_bind hmonth, read_bind (run_symbol _ _),
    read_bind hday, Int.toNat_of_nonneg hyear]
  rfl

end Date.Digits

/-- **A date is read as it was written**, and stands for its first moment. -/
theorem Date.IsPlain.ofText?_text {d : Date} (h : d.IsPlain) :
    Instant.ofText? d.text = some d.start := by
  obtain ⟨yyyy, mm, dd, hdigits, hchars⟩ := h.exists_digits
  have hdate : dateOnly.run d.chars = some (d.start, []) := by
    unfold dateOnly
    rw [hchars, read_bind (hdigits.run_looseDate h.year_nonneg), at?_eq_start h.isValid]
    rfl
  have hzoned : whole zoned d.chars = none := by
    rw [whole, hchars, hdigits.run_zoned]
  have htrim : Text.trim d.chars = d.chars := by
    rw [hchars]
    exact Text.trim_eq_self hdigits.not_isBlank
  rw [Instant.ofText?, Date.text, String.toList_ofList, htrim, List.findSome?_cons, hzoned,
    List.findSome?_cons, whole, hdate]

end TemplateExpr
