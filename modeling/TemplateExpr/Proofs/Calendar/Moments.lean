import TemplateExpr.Library.Dates
import TemplateExpr.Proofs.Calendar.DayNumber
import TemplateExpr.Proofs.Text.Digits

/-!
# Moments and the calendar

Moments are shifted along the line of days, and what leaves the calendar is no moment any more
(`map_date_addDays?`). The moments that values stand for lie no farther from the calendar than an
offset from UTC reaches (`nearCalendar_of_toInstant?`), so that two of them are never farther apart
than a 64-bit number of milliseconds can say.
-/

namespace TemplateExpr

open Date (firstDay lastDay)

namespace Instant

/-- The day number of the date of a moment. -/
def day (t : Instant) : Int := t.seconds / secondsPerDay

theorem check_eq (t : Instant) :
    check t = if firstDay ≤ t.day ∧ t.day ≤ lastDay then some t else none := by
  unfold check
  by_cases h : firstDay ≤ t.day ∧ t.day ≤ lastDay
  · rw [if_pos h, if_pos]
    exact Date.isValid_ofDayNumber_iff.mpr h
  · rw [if_neg h, if_neg]
    exact mt Date.isValid_ofDayNumber_iff.mp h

/-! ## Some days later -/

theorem day_shift (t : Instant) (days : Int) : (t.shift (days * secondsPerDay)).day = t.day + days :=
  Int.add_mul_ediv_right _ _ (by decide)

/-- The day some days after a moment. Going backward starts behind a leap second. -/
def dayAfter (t : Instant) (days : Int) : Int :=
  (t.seconds + if t.isLeap ∧ days < 0 then 1 else 0) / secondsPerDay + days

theorem map_date_check (t : Instant) :
    t.check.map date =
      if firstDay ≤ t.day ∧ t.day ≤ lastDay then some (.ofDayNumber t.day) else none := by
  rw [check_eq]
  split <;> rfl

/-- Some days later is the date of that day, if the calendar has it. -/
theorem map_date_addDays? (t : Instant) (days : Int) :
    (t.addDays? days).map date =
      if firstDay ≤ t.dayAfter days ∧ t.dayAfter days ≤ lastDay then
        some (.ofDayNumber (t.dayAfter days))
      else none := by
  unfold addDays?
  rw [map_date_check, day_shift]
  suffices hday : (if t.isLeap ∧ days ≠ 0 then
      (⟨t.seconds + (if days < 0 then 1 else 0), t.nanos - nanosPerSecond⟩ : Instant)
      else t).day + days = t.dayAfter days by rw [hday]
  unfold day dayAfter
  by_cases hleap : t.isLeap
  · by_cases hzero : days = 0
    · simp [hzero]
    · simp [hleap, hzero]
  · simp [hleap]

/-! ## Moments that values stand for -/

/-- A moment at most a day from the calendar, with a part of a second that may be a leap second's. -/
structure NearCalendar (t : Instant) : Prop where
  first_le : firstDay - 1 ≤ t.day
  le_last : t.day ≤ lastDay + 1
  nanos_lt : t.nanos < 2 * nanosPerSecond

theorem nearCalendar_ofMillis? {millis : Int} {t : Instant} (h : ofMillis? millis = some t) :
    t.NearCalendar := by
  unfold ofMillis? at h
  rw [check_eq] at h
  split at h
  · rename_i hday
    cases h
    refine ⟨by omega, by omega, ?_⟩
    simp only [nanosPerMilli, nanosPerSecond]
    omega
  · cases h

theorem nearCalendar_at? {date : Date} {hour minute second nanos : Nat} {t : Instant} {offset : Int}
    (h : at? date hour minute second nanos = some t) (hnanos : nanos < nanosPerSecond)
    (hoffset : -secondsPerDay < offset ∧ offset < secondsPerDay) :
    (t.shift offset).NearCalendar := by
  unfold at? at h
  split at h
  · rename_i hvalid
    obtain ⟨hdate, hhour, hminute, hsecond⟩ := hvalid
    have hfirst := Date.firstDay_le_dayNumber hdate
    have hlast := Date.dayNumber_le_lastDay hdate
    cases h
    simp only [secondsPerDay, nanosPerSecond] at hoffset hnanos
    constructor <;> simp only [day, shift, secondsPerDay, nanosPerSecond] <;> split <;> dsimp only <;>
      omega
  · cases h

end Instant

/-! ## Readers -/

namespace Calendar

variable {α β : Type} {P : α → Prop} {Q : β → Prop}

/-- Everything that the reader reads has the property. -/
def Yields (reader : Reader α) (P : α → Prop) : Prop :=
  ∀ cs a rest, reader.run cs = some (a, rest) → P a

namespace Yields

theorem pure {a : α} (h : P a) : Yields (pure a) P := by
  rintro cs a' rest heq
  cases heq
  exact h

theorem bind {reader : Reader α} {next : α → Reader β} (h : Yields reader P)
    (hnext : ∀ a, P a → Yields (next a) Q) : Yields (reader >>= next) Q := by
  intro cs b rest heq
  obtain ⟨⟨a, rest'⟩, ha, hb⟩ := Option.bind_eq_some_iff.mp heq
  exact hnext a (h cs a rest' ha) rest' b rest hb

/-- What is read first may be anything. -/
theorem skip {reader : Reader α} {next : α → Reader β} (hnext : ∀ a, Yields (next a) Q) :
    Yields (reader >>= next) Q :=
  bind (fun _ _ _ _ => trivial) fun a _ => hnext a

theorem failed {next : α → Reader β} : Yields (failure >>= next) Q := nofun

theorem lift {a? : Option α} (h : ∀ a, a? = some a → P a) : Yields (liftM a? : Reader α) P := by
  intro cs a rest heq
  cases a? with
  | none => cases heq
  | some a' =>
    cases heq
    exact h a rfl

end Yields

theorem yields_digits (least : Nat) (most : Option Nat) :
    Yields (digits least most) fun run => ∀ c ∈ run, c.isDigit := by
  unfold digits
  refine .skip fun cs => ?_
  extract_lets run run'
  have hrun : ∀ c ∈ run', c.isDigit := by
    intro c hc
    have hmem : c ∈ run := by
      cases most with
      | none => exact hc
      | some n => exact List.mem_of_mem_take hc
    exact List.all_eq_true.mp List.all_takeWhile c hmem
  split
  · exact .skip fun _ => .skip fun _ => .pure hrun
  · exact .skip fun _ => .pure hrun

theorem yields_fraction : Yields fraction fun nanos => nanos < Instant.nanosPerSecond := by
  unfold fraction
  refine .skip fun cs => ?_
  split
  · refine .skip fun _ => .bind (yields_digits 1 none) fun run hrun => .pure ?_
    have hdigits : ∀ c ∈ (run.take 9).rightpad 9 '0', c.isDigit := by
      intro c hc
      rcases List.mem_append.mp hc with hc | hc
      · exact hrun c (List.mem_of_mem_take hc)
      · rw [List.eq_of_mem_replicate hc]
        decide
    have hlength : ((run.take 9).rightpad 9 '0').length = 9 := by
      have hle := List.length_take_le 9 run
      rw [List.rightpad, List.length_append, List.length_replicate]
      omega
    have hlt := ofDigitChars_lt hdigits
    rwa [hlength] at hlt
  · exact .pure (by decide)

theorem yields_offset :
    Yields offset fun seconds =>
      -Instant.secondsPerDay < seconds ∧ seconds < Instant.secondsPerDay := by
  unfold offset Instant.secondsPerDay
  refine .skip fun cs => ?_
  split
  · exact .skip fun _ => .pure (by decide)
  · exact .skip fun _ => .pure (by decide)
  · refine .skip fun negative => .skip fun hours => .skip fun _ => .skip fun minutes => ?_
    split <;> dsimp only <;> split
    · exact .failed
    · exact .pure (by omega)
    · exact .failed
    · exact .pure (by omega)

theorem yields_zoned : Yields zoned Instant.NearCalendar := by
  unfold zoned
  refine .skip fun year => .skip fun _ => .skip fun month => .skip fun _ => .skip fun day => ?_
  refine .skip fun _ => .skip fun hour => .skip fun _ => .skip fun minute => ?_
  refine .skip fun _ => .skip fun second => .bind yields_fraction fun nanos hnanos => ?_
  refine .bind yields_offset fun offset hoffset => ?_
  exact .bind (.lift fun t ht => ht) fun t ht => .pure (Instant.nearCalendar_at? ht hnanos (by omega))

/-- A time of day at a date without an offset. -/
theorem yields_at? {date : Date} {hour minute second nanos : Nat}
    (hnanos : nanos < Instant.nanosPerSecond) :
    Yields (liftM (Instant.at? date hour minute second nanos)) Instant.NearCalendar :=
  .lift fun t ht => by
    simpa [Instant.shift] using Instant.nearCalendar_at? ht hnanos (show _ ∧ (0 : Int) < _ by decide)

theorem yields_dateOnly : Yields dateOnly Instant.NearCalendar :=
  .skip fun _ => yields_at? (by decide)

theorem yields_withSeconds (between : Reader Unit) :
    Yields (withSeconds between) Instant.NearCalendar :=
  .skip fun _ => .skip fun _ => .skip fun _ => .skip fun _ => .skip fun _ => .skip fun _ =>
    .skip fun _ => .bind yields_fraction fun _ hnanos => yields_at? hnanos

theorem yields_withoutSeconds : Yields withoutSeconds Instant.NearCalendar :=
  .skip fun _ => .skip fun _ => .skip fun _ => .skip fun _ => .skip fun _ => yields_at? (by decide)

end Calendar

namespace Instant

open Calendar

theorem nearCalendar_ofText? {text : String} {t : Instant} (h : ofText? text = some t) :
    t.NearCalendar := by
  obtain ⟨reader, hreader, hwhole⟩ := List.exists_of_findSome?_eq_some h
  have hyields : Yields reader NearCalendar := by
    simp only [List.mem_cons, List.not_mem_nil, or_false] at hreader
    obtain rfl | rfl | rfl | rfl | rfl := hreader
    · exact yields_zoned
    · exact yields_dateOnly
    · exact yields_withSeconds _
    · exact yields_withSeconds _
    · exact yields_withoutSeconds
  unfold whole at hwhole
  split at hwhole
  · rename_i heq
    cases hwhole
    exact hyields _ _ _ heq
  · cases hwhole

theorem nearCalendar_of_toInstant? {v : Value} {t : Instant} (h : v.toInstant? = some t) :
    t.NearCalendar := by
  unfold Value.toInstant? at h
  split at h
  · exact nearCalendar_ofMillis? h
  · exact nearCalendar_ofText? h
  · cases h

/-- The milliseconds from one moment to another, counted toward zero. -/
theorem natAbs_tdiv_nanosUntil (a b : Instant) :
    ((a.nanosUntil b).tdiv nanosPerMilli).natAbs = a.millisBetween b := by
  rw [Int.natAbs_tdiv, Int.natAbs_natCast, millisBetween]
  generalize nanosPerMilli = unit
  rfl

/-- The milliseconds between two moments that values stand for. -/
theorem millisBetween_lt {a b : Instant} (ha : a.NearCalendar) (hb : b.NearCalendar) :
    a.millisBetween b < 2 ^ 63 := by
  obtain ⟨hfirst, hlast, hnanos⟩ := ha
  obtain ⟨hfirst', hlast', hnanos'⟩ := hb
  have hfirstDay := Date.firstDay_eq
  have hlastDay := Date.lastDay_eq
  simp only [day, secondsPerDay, nanosPerSecond] at hfirst hlast hnanos hfirst' hlast' hnanos'
  unfold millisBetween nanosUntil
  simp only [nanosPerSecond, nanosPerMilli]
  repeat' split
  all_goals omega

/-- As many milliseconds as a word does not hold lead out of the calendar, and so does the last
word. -/
theorem ofMillis?_eq_none {millis : Int} (h : 2 ^ 63 - 1 ≤ millis.natAbs) :
    ofMillis? millis = none := by
  have hfirstDay := Date.firstDay_eq
  have hlastDay := Date.lastDay_eq
  unfold ofMillis?
  rw [check_eq, if_neg]
  simp only [day, secondsPerDay]
  omega

theorem addDays?_eq_none {t : Instant} (ht : t.NearCalendar) {days : Int}
    (h : 2 ^ 63 - 1 ≤ days.natAbs) : t.addDays? days = none := by
  obtain ⟨hfirst, hlast, -⟩ := ht
  have hfirstDay := Date.firstDay_eq
  have hlastDay := Date.lastDay_eq
  rw [← Option.map_eq_none_iff, map_date_addDays?, if_neg]
  simp only [day, dayAfter, secondsPerDay] at hfirst hlast ⊢
  split <;> omega

end Instant

end TemplateExpr
