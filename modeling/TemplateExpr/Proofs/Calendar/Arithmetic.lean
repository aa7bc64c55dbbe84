import TemplateExpr.Library.Call
import TemplateExpr.Proofs.Calendar.Moments
import TemplateExpr.Proofs.Calendar.Succession
import TemplateExpr.Proofs.Calendar.Written
import TemplateExpr.Proofs.Number.Nearest
import TemplateExpr.Proofs.Number.Whole

/-!
# Counting in days

`DATEADD` moves a date along the line of days, and `DATEDIFF` measures how far it moved. Dates of the
years 0 to 9999 are read back from their texts, so that moving on from a result is moving once by the
sum (`date_arithmetic`). The milliseconds between two such dates are whole days, and the quotient of
the two numbers is not rounded (`Number.ofNat_mul_div`).
-/

namespace TemplateExpr

/-! ## Quotients without a remainder -/

namespace Number

theorem ofInt_natCast (n : Nat) : ofInt n = ofNat n := by
  have hnonneg : ¬ (n : Int) < 0 := by omega
  rw [ofInt, ofNat, decide_eq_false hnonneg, Int.natAbs_natCast]

theorem ceil_ofNat {n : Nat} (h : n < 2 ^ 53) : (ofNat n).ceil = ofNat n := by
  obtain ⟨x, hx, hnegative, hunits⟩ := exists_ofNat_eq h
  have hwhole : x.isWhole := by rw [Finite.isWhole, hunits, Nat.mul_mod_left, beq_self_eq_true]
  have hup : x.wholeUp = n := by rw [Finite.wholeUp, if_pos hwhole, Finite.whole_of_units_eq hunits]
  rw [hx, ceil, hnegative, hup, if_neg (by decide), ← ofNat, hx]

theorem ofNat_mul_div {n m : Nat} (h : n * m < 2 ^ 53) (hpos : 0 < m) (hm : m < 2 ^ 53) :
    ofNat (n * m) / ofNat m = ofNat n := by
  have hn : n ≤ n * m := Nat.le_mul_of_pos_right n hpos
  obtain ⟨x, hx, hxneg, hxunits⟩ := exists_ofNat_eq h
  obtain ⟨y, hy, hyneg, hyunits⟩ := exists_ofNat_eq hm
  obtain ⟨z, hz, hzneg, hzunits⟩ := @exists_ofNat_eq n (by omega)
  have hypos : 0 < y.units := hyunits ▸ Nat.mul_pos hpos (by decide)
  have hne : y.significand ≠ 0 := by
    intro hzero
    rw [Finite.units, hzero, Nat.zero_shiftLeft] at hypos
    exact absurd hypos (Nat.lt_irrefl 0)
  have hnum : x.units * unitsPerOne = z.units * y.units := by
    rw [hxunits, hyunits, hzunits]
    ring
  have hquotient := ofQuotient_mul z hypos
  rw [hx, hy, hz]
  show div (finite x) (finite y) = finite z
  rw [div, if_neg hne, hnum, hxneg, hyneg, bne_self_eq_false, ← hzneg, hquotient]

end Number

namespace Instant

/-! ## Distances -/

theorem nanosUntil_swap (a b : Instant) : b.nanosUntil a = -a.nanosUntil b := by
  unfold nanosUntil
  generalize a.secondOfDay = s, b.secondOfDay = t
  cases a.isLeap <;> cases b.isLeap <;> simp only [nanosPerSecond] <;> repeat' split
  all_goals omega

/-- Which of two moments is first makes no difference to the time between them. -/
theorem millisBetween_comm (a b : Instant) : a.millisBetween b = b.millisBetween a := by
  rw [millisBetween, millisBetween, nanosUntil_swap, Int.natAbs_neg]

end Instant

namespace Date

theorem isLeap_start (d : Date) : d.start.isLeap = false := rfl

theorem IsRegular.date_start {d : Date} (h : d.IsRegular) : d.start.date = d := by
  rw [Instant.date, start, Int.mul_ediv_cancel _ (by decide), h.ofDayNumber_dayNumber]

theorem dayAfter_start (d : Date) (days : Int) : d.start.dayAfter days = d.dayNumber + days := by
  simp only [Instant.dayAfter, isLeap_start, Bool.false_eq_true, false_and, if_false, Int.add_zero]
  rw [start, Int.mul_ediv_cancel _ (by decide)]

theorem nanosUntil_start (d e : Date) :
    d.start.nanosUntil e.start =
      (e.dayNumber - d.dayNumber) * (Instant.millisPerDay * Instant.nanosPerMilli : Nat) := by
  unfold Instant.nanosUntil
  simp only [isLeap_start, Bool.false_eq_true, and_false, if_false]
  simp only [start, Instant.secondsPerDay, Instant.nanosPerSecond, Instant.millisPerDay,
    Instant.nanosPerMilli]
  omega

theorem millisBetween_start (d e : Date) :
    d.start.millisBetween e.start = (e.dayNumber - d.dayNumber).natAbs * Instant.millisPerDay := by
  rw [Instant.millisBetween, nanosUntil_start, Int.natAbs_mul, Int.natAbs_natCast, ← Nat.mul_assoc,
    Nat.mul_div_cancel _ (by decide)]

/-- Plain dates are ten thousand years apart at most. -/
theorem IsPlain.natAbs_sub_lt {d e : Date} (hd : d.IsPlain) (he : e.IsPlain) :
    (e.dayNumber - d.dayNumber).natAbs < 3652425 := by
  have hdlow := hd.newYear_le_dayNumber
  have hdhigh := hd.dayNumber_lt_newYear
  have helow := he.newYear_le_dayNumber
  have hehigh := he.dayNumber_lt_newYear
  have hdfirst := newYear_mono hd.year_nonneg
  have hefirst := newYear_mono he.year_nonneg
  have hdlast := newYear_mono (Int.add_le_add_right hd.year_le 1)
  have helast := newYear_mono (Int.add_le_add_right he.year_le 1)
  have hspan : newYear (9999 + 1) = newYear 0 + 3652425 := by decide
  omega

end Date

/-! ## The functions -/

namespace Library

theorem dateDiff_comm (u v : Value) : dateDiff [u, v] = dateDiff [v, u] := by
  have hfirst (u v : Value) : Arguments.arg [u, v] 0 = u := rfl
  have hsecond (u v : Value) : Arguments.arg [u, v] 1 = v := rfl
  simp only [dateDiff, hfirst, hsecond]
  cases u.toInstant? <;> cases v.toInstant?
  case some.some a b => simp only [Instant.millisBetween_comm a b]
  all_goals rfl

variable {d e : Date} (hd : d.IsPlain)
include hd

theorem toInstant?_text : (Value.string d.text).toInstant? = some d.start := hd.ofText?_text

theorem datePart_text (part : Date → Int) :
    datePart part [.string d.text] = .ofInt (part d) := by
  have hmoment : (Arguments.arg [.string d.text] 0).toInstant? = some d.start := toInstant?_text hd
  rw [datePart, hmoment]
  exact congrArg (fun e => Number.ofInt (part e)) hd.date_start

theorem dateDiff_texts (he : e.IsPlain) :
    dateDiff [.string d.text, .string e.text] = .ofNat (e.dayNumber - d.dayNumber).natAbs := by
  have hstart : (Arguments.arg [.string d.text, .string e.text] 0).toInstant? = some d.start :=
    toInstant?_text hd
  have hfinish : (Arguments.arg [.string d.text, .string e.text] 1).toInstant? = some e.start :=
    toInstant?_text he
  have hdays := hd.natAbs_sub_lt he
  have hmillis : (e.dayNumber - d.dayNumber).natAbs * Instant.millisPerDay < 2 ^ 53 :=
    Nat.lt_of_lt_of_le (Nat.mul_lt_mul_of_pos_right hdays (by decide)) (by decide)
  rw [dateDiff, hstart, hfinish]
  dsimp only
  rw [Date.millisBetween_start, Number.ofNat_mul_div hmillis (by decide) (by decide),
    Number.ceil_ofNat (by omega)]

theorem dateAdd_text {n : Number} {days : Int} (hn : n.IsInteger days)
    (hlater : (d.plus days).IsPlain) :
    dateAdd [.string d.text, .number n] = .ok (d.plus days).text := by
  obtain ⟨x, rfl, hx⟩ := hn
  have hstart : (Arguments.arg [.string d.text, .number (.finite x)] 0).toInstant? = some d.start :=
    toInstant?_text hd
  have hnumber : (Arguments.arg [.string d.text, .number (.finite x)] 1).toNumber = .finite x := rfl
  have hdate : dateAdd? [.string d.text, .number (.finite x)] = some (d.plus days) := by
    have hmap := d.start.map_date_addDays? days
    rw [d.dayAfter_start, if_pos (Date.isValid_ofDayNumber_iff.mp hlater.isValid),
      Option.map_eq_bind] at hmap
    rw [dateAdd?, hstart, hnumber, Option.bind_eq_bind, Option.bind_some]
    dsimp only
    rw [Number.Finite.toInt_of_signed_eq hx]
    exact hmap
  rw [dateAdd, hdate]

theorem dateAdd_call (now : Instant) {n : Number} {days : Int} (hn : n.IsInteger days)
    (hlater : (d.plus days).IsPlain) :
    Formula.dateAdd.call now [.string d.text, .number n] = .ok (.string (d.plus days).text) := by
  rw [Formula.call, dateAdd_text hd hn hlater]
  rfl

/-- The parts of a plain date are the numbers that its text shows. -/
theorem exists_digits_text :
    ∃ yyyy mm dd : List Char, d.text.toList = yyyy ++ '-' :: (mm ++ '-' :: dd) ∧
      (yyyy.length = 4 ∧ mm.length = 2 ∧ dd.length = 2) ∧
      ((∀ c ∈ yyyy, c.isDigit) ∧ (∀ c ∈ mm, c.isDigit) ∧ ∀ c ∈ dd, c.isDigit) ∧
      year [.string d.text] = .ofNat (Nat.ofDigitChars 10 yyyy 0) ∧
      month [.string d.text] = .ofNat (Nat.ofDigitChars 10 mm 0) ∧
      day [.string d.text] = .ofNat (Nat.ofDigitChars 10 dd 0) := by
  obtain ⟨yyyy, mm, dd, hdigits, hchars⟩ := hd.exists_digits
  refine ⟨yyyy, mm, dd, ?_, ⟨hdigits.length_year, hdigits.length_month, hdigits.length_day⟩,
    ⟨hdigits.year.isDigits, hdigits.month.isDigits, hdigits.day.isDigits⟩, ?_, ?_, ?_⟩
  · rw [Date.text, String.toList_ofList, hchars]
  · rw [year, datePart_text hd, hdigits.year.value, ← Number.ofInt_natCast,
      Int.toNat_of_nonneg hd.year_nonneg]
  · rw [month, datePart_text hd, hdigits.month.value, Number.ofInt_natCast]
  · rw [day, datePart_text hd, hdigits.day.value, Number.ofInt_natCast]

end Library

/-- **Date arithmetic is an action of the whole days.** On the texts of the dates of four-digit
years, no days lead nowhere, days on from days on are the sum of the days on, and `DATEDIFF` measures
them. The parts of a result are the numbers in it. Of two moments, whatever they are written as,
`DATEDIFF` may have either first. -/
theorem date_arithmetic (now : Instant) :
    (∀ (d : Date) (a b : Int) (m n : Number), d.IsPlain → (d.plus a).IsPlain →
      (d.plus (a + b)).IsPlain → m.IsInteger a → n.IsInteger b →
      let text (e : Date) := Value.string e.text
      (Formula.dateAdd.call now [text d, .number 0] = .ok (text d) ∧
        Formula.dateAdd.call now [text d, .number m] = .ok (text (d.plus a)) ∧
        Formula.dateAdd.call now [text (d.plus a), .number n] = .ok (text (d.plus (a + b))) ∧
        Formula.dateAdd.call now [text d, .number (m + n)] = .ok (text (d.plus (a + b)))) ∧
      (d.plus 0 = d ∧ ∀ i, d.plus (i + 1) = (d.plus i).next) ∧
      Formula.dateDiff.call now [text d, text (d.plus a)] = .ok (.number (.ofNat a.natAbs)) ∧
      ∃ yyyy mm dd : List Char, (d.plus a).text.toList = yyyy ++ '-' :: (mm ++ '-' :: dd) ∧
        (yyyy.length = 4 ∧ mm.length = 2 ∧ dd.length = 2) ∧
        ((∀ c ∈ yyyy, c.isDigit) ∧ (∀ c ∈ mm, c.isDigit) ∧ ∀ c ∈ dd, c.isDigit) ∧
        Formula.year.call now [text (d.plus a)] =
          .ok (.number (.ofNat (Nat.ofDigitChars 10 yyyy 0))) ∧
        Formula.month.call now [text (d.plus a)] =
          .ok (.number (.ofNat (Nat.ofDigitChars 10 mm 0))) ∧
        Formula.day.call now [text (d.plus a)] =
          .ok (.number (.ofNat (Nat.ofDigitChars 10 dd 0)))) ∧
    ∀ u v, Formula.dateDiff.call now [u, v] = Formula.dateDiff.call now [v, u] := by
  constructor
  · intro d a b m n hd hda hdab hm hn text
    have hstill := hd.plus_zero
    refine ⟨⟨?_, Library.dateAdd_call hd now hm hda, ?_, ?_⟩, ⟨hstill, d.plus_add_one⟩, ?_, ?_⟩
    · have hzero : (0 : Number).IsInteger 0 := @Number.isInteger_ofInt 0 (by decide)
      rw [Library.dateAdd_call hd now hzero (hstill.symm ▸ hd), hstill]
    · rw [← Date.plus_plus] at hdab ⊢
      exact Library.dateAdd_call hda now hn hdab
    · have hdays := hd.natAbs_sub_lt hdab
      rw [Date.dayNumber_plus] at hdays
      exact Library.dateAdd_call hd now (hm.add hn (by omega)) hdab
    · have hdays : (d.plus a).dayNumber - d.dayNumber = a := by
        rw [Date.dayNumber_plus]
        omega
      rw [Formula.call, Library.dateDiff_texts hd hda, hdays]
    · obtain ⟨yyyy, mm, dd, htext, hlengths, hdigits, hyear, hmonth, hday⟩ :=
        Library.exists_digits_text hda
      exact ⟨yyyy, mm, dd, htext, hlengths, hdigits, by rw [Formula.call, hyear],
        by rw [Formula.call, hmonth], by rw [Formula.call, hday]⟩
  · intro u v
    rw [Formula.call, Formula.call, Library.dateDiff_comm]

/-- Across a leap day, and back to the year before. -/
theorem date_arithmetic_leap_day :
    Formula.dateAdd.call ⟨0, 0⟩ [.string "2024-01-31", .number (.ofInt 29)] =
        .ok (.string "2024-02-29") ∧
      Formula.dateAdd.call ⟨0, 0⟩ [.string "2024-02-29", .number (.ofInt (-60))] =
        .ok (.string "2023-12-31") ∧
      Formula.dateDiff.call ⟨0, 0⟩ [.string "2024-01-31", .string "2024-02-29"] =
        .ok (.number 29) := by
  have hd : (⟨2024, 1, 31⟩ : Date).IsPlain := ⟨by constructor <;> decide, by decide, by decide⟩
  have hda : (Date.plus ⟨2024, 1, 31⟩ 29).IsPlain := ⟨by constructor <;> decide, by decide, by decide⟩
  have hdab : (Date.plus ⟨2024, 1, 31⟩ (29 + -60)).IsPlain :=
    ⟨by constructor <;> decide, by decide, by decide⟩
  obtain ⟨⟨-, hlater, hlatest, -⟩, -, hdiff, -⟩ :=
    (date_arithmetic ⟨0, 0⟩).1 _ _ _ _ _ hd hda hdab (Number.isInteger_ofInt (by decide))
      (Number.isInteger_ofInt (by decide))
  exact ⟨hlater, hlatest, hdiff⟩

end TemplateExpr
