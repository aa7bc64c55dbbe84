import TemplateExpr.Proofs.Library.Access
import TemplateExpr.Proofs.Number.Exact

/-!
# What the library refuses

Three functions refuse some of their arguments: `DATEADD` what is no moment, no finite number of days
or leads out of the calendar, `FIXED` and `PERCENT` a number of places that is given and is not
between 0 and 100. Everything else has an answer, and no function reaches beyond what it reads
(`Formula.call_within_bounds`).
-/

namespace TemplateExpr

open Library
open Date (firstDay lastDay)

namespace Number

/-- The number without its fraction is not between the two; not-a-number is not a number. -/
def TruncatesOutside (n : Number) (least greatest : Int) : Prop :=
  (∃ negative, n = infinite negative) ∨
    ∃ x, n = finite x ∧ ¬ (least ≤ x.toInt ∧ x.toInt ≤ greatest)

theorem places?_eq_none_iff {n : Number} : n.places? = none ↔ n.TruncatesOutside 0 100 := by
  cases n with
  | nan => simp [places?, TruncatesOutside]
  | infinite negative => simp [places?, TruncatesOutside]
  | finite x =>
    have hsign : (x.negative ∧ x.whole ≠ 0 ∨ maxPlaces < x.whole) ↔
        ¬ (0 ≤ x.toInt ∧ x.toInt ≤ 100) := by
      unfold Finite.toInt maxPlaces
      cases x.negative with
      | false =>
        simp only [Bool.false_eq_true, if_false, false_and, false_or]
        omega
      | true =>
        simp only [if_true, true_and]
        omega
    simp [places?, TruncatesOutside, hsign]

/-- A natural number up to the most places asks for as many places. -/
theorem places?_natural {n : Nat} (h : n ≤ maxPlaces) :
    (OfNat.ofNat n : Number).places? = some n := by
  have hlt : n < 2 ^ 53 := Nat.lt_of_le_of_lt h (by decide)
  obtain ⟨x, hx, hnegative, hunits⟩ := exists_ofNat_eq hlt
  have hwhole := Finite.whole_of_units_eq hunits
  have hrange : ¬ ((x.negative ∧ x.whole ≠ 0) ∨ maxPlaces < x.whole) := by
    simp [hnegative, hwhole, h]
  show (ofNat n).places? = some n
  rw [hx, places?, if_neg hrange, hwhole]

end Number

namespace Formula

/-- What the three functions refuse, and why. -/
inductive Refuses (arguments : Arguments) : Formula → TypeCause → Prop where
  /-- The first argument is no moment. -/
  | unreadable (h : (arguments.arg 0).toInstant? = none) : Refuses arguments .dateAdd .invalidDate
  /-- The second argument is no finite number. -/
  | unbounded (h : (arguments.arg 1).toNumber.isFinite = false) :
      Refuses arguments .dateAdd .invalidDate
  /-- The date so many days later is none of the calendar. -/
  | beyond {start : Instant} {days : Number.Finite}
      (hstart : (arguments.arg 0).toInstant? = some start)
      (hdays : (arguments.arg 1).toNumber = .finite days)
      (h : ¬ (firstDay ≤ start.dayAfter days.toInt ∧ start.dayAfter days.toInt ≤ lastDay)) :
      Refuses arguments .dateAdd .invalidDate
  /-- The number of places that the second argument asks for is out of range. -/
  | places {f : Formula} (hf : f = .fixed ∨ f = .percent) (hgiven : ¬ (arguments.arg 1).isNullish)
      (h : (arguments.arg 1).toNumber.TruncatesOutside 0 100) : Refuses arguments f .fractionDigits

variable {arguments : Arguments} {error : ExprError}

/-! ## Dates -/

theorem dateAdd?_eq_none_iff :
    dateAdd? arguments = none ↔ Refuses arguments .dateAdd .invalidDate := by
  unfold dateAdd?
  cases hstart : (arguments.arg 0).toInstant? with
  | none => exact iff_of_true rfl (.unreadable hstart)
  | some start =>
    cases hdays : (arguments.arg 1).toNumber with
    | nan => exact iff_of_true rfl (.unbounded (by rw [hdays]; rfl))
    | infinite negative => exact iff_of_true rfl (.unbounded (by rw [hdays]; rfl))
    | finite days =>
      show (start.addDays? days.toInt >>= fun t => pure t.date) = none ↔ _
      rw [bind_pure_comp, Option.map_eq_map, Instant.map_date_addDays?]
      constructor
      · intro h
        refine .beyond hstart hdays fun hcalendar => ?_
        rw [if_pos hcalendar] at h
        cases h
      · intro h
        cases h with
        | unreadable h => rw [hstart] at h; cases h
        | unbounded h => rw [hdays] at h; cases h
        | beyond hstart' hdays' h =>
          obtain rfl := Option.some.inj (hstart.symm.trans hstart')
          obtain rfl := Number.finite.inj (hdays.symm.trans hdays')
          exact if_neg h

theorem dateAdd_eq_error_iff :
    Library.dateAdd arguments = .error error ↔
      error = .type .invalidDate ∧ Refuses arguments .dateAdd .invalidDate := by
  rw [← dateAdd?_eq_none_iff, Library.dateAdd]
  cases dateAdd? arguments <;> simp [eq_comm]

/-! ## Places -/

/-- A number of places that is not given is in range. -/
theorem numberOr_places?_eq_none_iff {v : Value} {fallback : Nat} (h : fallback ≤ Number.maxPlaces) :
    (v.numberOr (OfNat.ofNat fallback)).places? = none ↔
      ¬ v.isNullish ∧ v.toNumber.TruncatesOutside 0 100 := by
  unfold Value.numberOr
  split
  · rename_i hnullish
    simp [hnullish, Number.places?_natural h]
  · rename_i hgiven
    rw [Number.places?_eq_none_iff, and_iff_right hgiven]

theorem withPlaces_eq_error_iff {value places : Number} :
    withPlaces value places = .error error ↔
      error = .type .fractionDigits ∧ places.places? = none := by
  unfold withPlaces
  cases places.places? <;> simp [eq_comm]

/-! ## Calls -/

theorem bind_pure_eq_error_iff {α β : Type} {x : Except ExprError α} {f : α → β} :
    (x >>= fun a => pure (f a)) = .error error ↔ x = .error error := by
  cases x <;> simp [bind, Except.bind, pure, Except.pure]

theorem exists_refuses_places_iff {f : Formula} (hf : f = .fixed ∨ f = .percent) :
    (∃ cause, error = .type cause ∧ Refuses arguments f cause) ↔
      error = .type .fractionDigits ∧ ¬ (arguments.arg 1).isNullish ∧
        (arguments.arg 1).toNumber.TruncatesOutside 0 100 := by
  constructor
  · rintro ⟨cause, rfl, h⟩
    cases h with
    | places _ hgiven h => exact ⟨rfl, hgiven, h⟩
    | _ => simp at hf
  · rintro ⟨rfl, hgiven, h⟩
    exact ⟨_, rfl, .places hf hgiven h⟩

theorem exists_refuses_dateAdd_iff :
    (∃ cause, error = .type cause ∧ Refuses arguments .dateAdd cause) ↔
      error = .type .invalidDate ∧ Refuses arguments .dateAdd .invalidDate := by
  constructor
  · rintro ⟨cause, rfl, h⟩
    cases h with
    | places hf => simp at hf
    | unreadable h => exact ⟨rfl, .unreadable h⟩
    | unbounded h => exact ⟨rfl, .unbounded h⟩
    | beyond hstart hdays h => exact ⟨rfl, .beyond hstart hdays h⟩
  · rintro ⟨rfl, h⟩
    exact ⟨_, rfl, h⟩

theorem call_eq_error_iff (now : Instant) (f : Formula) :
    f.call now arguments = .error error ↔
      ∃ cause, error = .type cause ∧ Refuses arguments f cause := by
  cases f with
  | dateAdd =>
    rw [call, bind_pure_eq_error_iff, dateAdd_eq_error_iff, exists_refuses_dateAdd_iff]
  | fixed =>
    rw [call, bind_pure_eq_error_iff, Library.fixed, withPlaces_eq_error_iff,
      numberOr_places?_eq_none_iff (by decide), exists_refuses_places_iff (.inl rfl)]
  | percent =>
    rw [call, bind_pure_eq_error_iff, Library.percent, bind_pure_eq_error_iff,
      withPlaces_eq_error_iff, numberOr_places?_eq_none_iff (by decide),
      exists_refuses_places_iff (.inr rfl)]
  | _ =>
    constructor
    · intro h
      cases h
    · rintro ⟨cause, -, h⟩
      cases h with
      | places hf => simp at hf

/-- Every function answers whatever its arguments are, but for what the three refuse, and those with
an error of the kind that goes with it; no access on the way is out of bounds. -/
theorem call_within_bounds (now : Instant) (f : Formula) (arguments : Arguments) :
    Checked.call? now f arguments = some (f.call now arguments) ∧
      ((∃ v, f.call now arguments = .ok v) ↔ ∀ cause, ¬ Refuses arguments f cause) ∧
      ∀ error, f.call now arguments = .error error ↔
        ∃ cause, error = .type cause ∧ Refuses arguments f cause := by
  refine ⟨Checked.call?_eq now f arguments, ?_, fun error => call_eq_error_iff now f⟩
  have herror (error : ExprError) := @call_eq_error_iff arguments error now f
  cases hcall : f.call now arguments with
  | ok v =>
    refine iff_of_true ⟨v, rfl⟩ fun cause h => ?_
    rw [hcall] at herror
    cases (herror (.type cause)).mpr ⟨cause, rfl, h⟩
  | error error =>
    obtain ⟨cause, -, h⟩ := (herror error).mp hcall
    exact iff_of_false nofun fun hnone => hnone cause h

end Formula

end TemplateExpr
