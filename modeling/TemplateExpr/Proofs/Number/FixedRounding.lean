import Mathlib.Algebra.Order.Field.Basic
import Mathlib.Data.Rat.Cast.Order
import Mathlib.Tactic.FieldSimp
import Mathlib.Tactic.Linarith
import Mathlib.Tactic.Positivity
import TemplateExpr.Eval.Methods
import TemplateExpr.Library.Call
import TemplateExpr.Proofs.Number.LastPlace
import TemplateExpr.Proofs.Number.Nearest
import TemplateExpr.Proofs.Number.Whole

/-!
# Rounding to a fixed number of places

The units in the last of some places are those nearest to the exact magnitude of a double, and of a
half the greater neighbour (`roundsTo_roundedTo`). What merely reads as a half is one but for half a
unit in the last of the places that decide (`ReadsAsHalf.abs_sub_le`), and is rounded as if it were
one. With at most twenty places there is no such magnitude (`ReadsAsHalf.eq`): a fraction of 53 bits
that is that near to a half has so many binary places that it is itself far less than a half. What
`FIXED` and `toFixed` write shows just these units (`fixed_shows_rounded`).
-/

namespace TemplateExpr

/-- The rounded quotient is at most half a unit from the quotient. -/
theorem abs_roundHalfEven_sub_le (num : Nat) {den : Nat} (h : 0 < den) :
    |(roundHalfEven num den : ℚ) - num / den| ≤ 1 / 2 := by
  obtain ⟨hlow, hhigh, -⟩ := isNearest_roundHalfEven num h
  have hden : (0 : ℚ) < den := by exact_mod_cast h
  obtain ⟨q, hq⟩ : ∃ q : ℚ, q = num / den := ⟨_, rfl⟩
  have hnum : (num : ℚ) = q * den := by rw [hq, div_mul_cancel₀ _ hden.ne']
  have hlow' : (2 * roundHalfEven num den : ℚ) * den ≤ (2 * q + 1) * den := by
    rw [add_mul, one_mul, mul_assoc, mul_assoc, ← hnum]
    exact_mod_cast hlow
  have hhigh' : 2 * q * den ≤ (2 * roundHalfEven num den + 1 : ℚ) * den := by
    rw [add_mul, one_mul, mul_assoc, mul_assoc, ← hnum]
    exact_mod_cast hhigh
  have hle := le_of_mul_le_mul_right hlow' hden
  have hge := le_of_mul_le_mul_right hhigh' hden
  rw [← hq, abs_le]
  constructor <;> linarith

theorem eq_of_cast_lt_add_one {m n : Nat} (h : (m : ℚ) < n + 1) (h' : (n : ℚ) < m + 1) : m = n := by
  have hle : m < n + 1 := by exact_mod_cast h
  have hge : n < m + 1 := by exact_mod_cast h'
  omega

namespace Number.Finite

/-- The magnitude of a finite double. -/
def magnitude (x : Finite) : ℚ := x.units / unitsPerOne

variable (x : Finite) (places : Nat)

theorem abs_scaledBy_sub_le : |(x.scaledBy places : ℚ) - x.magnitude * 10 ^ places| ≤ 1 / 2 := by
  have h := abs_roundHalfEven_sub_le (x.units * Nat.pow 10 places) (show 0 < unitsPerOne by decide)
  rwa [Nat.pow_eq, Nat.cast_mul, Nat.cast_pow, Nat.cast_ofNat, mul_div_right_comm] at h

theorem abs_scaledBy_tiePlaces_sub_le :
    |(x.scaledBy (places + tiePlaces) : ℚ) - x.magnitude * 10 ^ places * 10 ^ 31| ≤ 1 / 2 := by
  have h := x.abs_scaledBy_sub_le (places + tiePlaces)
  rwa [pow_add, ← mul_assoc] at h

section

variable {x places}

/-- What reads as a half is one, up to half a unit in the last of the places that decide. -/
theorem ReadsAsHalf.abs_sub_le (h : x.ReadsAsHalf places) :
    |x.magnitude * 10 ^ places - (x.keptUnits places + 1 / 2)| ≤ 1 / (2 * 10 ^ 31) := by
  have hnear := x.abs_scaledBy_tiePlaces_sub_le places
  have hexact : 2 * x.scaledBy (places + tiePlaces) = 10 ^ 31 * (2 * x.keptUnits places + 1) := by
    rw [ReadsAsHalf, tiePlaces] at h
    rw [keptUnits, tiePlaces]
    omega
  have hexact' : (2 * x.scaledBy (places + tiePlaces) : ℚ) =
      10 ^ 31 * (2 * x.keptUnits places + 1) := by exact_mod_cast hexact
  rw [abs_le] at hnear ⊢
  constructor <;> linarith

/-- A half reads as one. -/
theorem readsAsHalf_of_eq {j : Nat} (h : x.magnitude * 10 ^ places = j + 1 / 2) :
    x.ReadsAsHalf places ∧ x.keptUnits places = j := by
  have hnear := x.abs_scaledBy_tiePlaces_sub_le places
  rw [h, abs_le] at hnear
  have hexact : x.scaledBy (places + tiePlaces) = 10 ^ 31 * j + 5 * 10 ^ 30 :=
    eq_of_cast_lt_add_one (by push_cast; linarith) (by push_cast; linarith)
  rw [ReadsAsHalf, keptUnits, hexact, tiePlaces]
  omega

theorem two_mul_magnitude_eq {power num : Nat}
    (h : 2 * (x.units * 10 ^ places) * 2 ^ power = num * unitsPerOne) :
    2 * (x.magnitude * 10 ^ places) * 2 ^ power = num := by
  have hone : (0 : ℚ) < unitsPerOne := by exact_mod_cast (by decide : 0 < unitsPerOne)
  have hcast : (2 * (x.units * 10 ^ places) * 2 ^ power : ℚ) = num * unitsPerOne := by exact_mod_cast h
  rw [magnitude, div_mul_eq_mul_div, mul_div_assoc', div_mul_eq_mul_div, hcast,
    mul_div_cancel_right₀ _ hone.ne']

/-- Twice a double with at most twenty places is an integer, or less than `10^30` divided by a power
of two. -/
theorem exists_two_mul_eq (h : places ≤ 20) :
    ∃ power num : Nat, 2 * (x.magnitude * 10 ^ places) * 2 ^ power = num ∧
      (power = 0 ∨ num < 10 ^ 30) := by
  obtain ⟨one, -, hone⟩ := exists_unitsPerOne_eq
  have hunits : x.units * 10 ^ places = x.significand * 2 ^ x.scale * (2 ^ places * 5 ^ places) := by
    rw [units, Nat.shiftLeft_eq, ← Nat.mul_pow]
  rcases Nat.le_total one (x.scale + 1 + places) with hle | hge
  · obtain ⟨more, hmore⟩ := Nat.exists_eq_add_of_le hle
    refine ⟨0, x.significand * 5 ^ places * 2 ^ more, two_mul_magnitude_eq ?_, .inl rfl⟩
    rw [hunits, hone]
    calc 2 * (x.significand * 2 ^ x.scale * (2 ^ places * 5 ^ places)) * 2 ^ 0
        = x.significand * 5 ^ places * 2 ^ (x.scale + 1 + places) := by ring
      _ = x.significand * 5 ^ places * 2 ^ more * 2 ^ one := by rw [hmore]; ring
  · obtain ⟨power, hpower⟩ := Nat.exists_eq_add_of_le hge
    refine ⟨power, x.significand * 5 ^ places, two_mul_magnitude_eq ?_, .inr ?_⟩
    · rw [hunits, hone, hpower]
      ring
    · have hlt : x.significand < 2 ^ 53 := x.significand_lt
      calc x.significand * 5 ^ places
          ≤ x.significand * 5 ^ 20 := Nat.mul_le_mul_left _ (Nat.pow_le_pow_right (by decide) h)
        _ < 10 ^ 30 := by omega

/-- **With at most twenty places, what reads as a half is one.** -/
theorem ReadsAsHalf.eq (h : x.ReadsAsHalf places) (hplaces : places ≤ 20) :
    x.magnitude * 10 ^ places = x.keptUnits places + 1 / 2 := by
  obtain ⟨power, num, hnum, hbound⟩ := x.exists_two_mul_eq hplaces
  have hpos : (0 : ℚ) < 2 ^ power := by positivity
  -- Times the power of two both sides are natural numbers, apart by that power over `10^31` at most.
  -- A small power makes them equal. A large one leaves the magnitude far below any half.
  obtain ⟨hlow, hhigh⟩ := abs_le.mp h.abs_sub_le
  have hlow' := mul_le_mul_of_nonneg_right hlow hpos.le
  have hhigh' := mul_le_mul_of_nonneg_right hhigh hpos.le
  rcases Nat.lt_or_ge (2 ^ power) (10 ^ 31) with hsmall | hlarge
  · have hsmall' : (2 ^ power : ℚ) < 10 ^ 31 := by exact_mod_cast hsmall
    have heq : num = (2 * x.keptUnits places + 1) * 2 ^ power :=
      eq_of_cast_lt_add_one (by push_cast; linarith) (by push_cast; linarith)
    have hcast : (num : ℚ) = (2 * x.keptUnits places + 1) * 2 ^ power := by exact_mod_cast heq
    have hcancel := mul_right_cancel₀ hpos.ne' (hnum.trans hcast)
    linarith
  · have hnonzero : power ≠ 0 := by
      rintro rfl
      exact absurd hlarge (by decide)
    have hless : (num : ℚ) < 10 ^ 30 := by exact_mod_cast hbound.resolve_left hnonzero
    have hlarge' : (10 ^ 31 : ℚ) ≤ 2 ^ power := by exact_mod_cast hlarge
    have hkept : (0 : ℚ) ≤ x.keptUnits places * 2 ^ power := by positivity
    exfalso
    linarith

end

/-- A natural number of units in the last of some places is what a magnitude is rounded to. -/
structure RoundsTo (x : Finite) (places units : Nat) : Prop where
  /-- A half is rounded up. -/
  half : ∀ j : ℤ, x.magnitude * 10 ^ places = j + 1 / 2 → units = j + 1
  /-- What is not close to a half is rounded to nearest. -/
  nearest : (∀ j : ℤ, 1 / 10 ^ 31 < |x.magnitude * 10 ^ places - (j + 1 / 2)|) →
    |units - x.magnitude * 10 ^ places| < 1 / 2
  /-- What is close to a half is rounded one way or the other. -/
  near : |units - x.magnitude * 10 ^ places| ≤ 1 / 2 + 1 / 10 ^ 31
  /-- With at most twenty places all is rounded to nearest, and a half up. -/
  few : places ≤ 20 →
    x.magnitude * 10 ^ places - 1 / 2 < units ∧ units ≤ x.magnitude * 10 ^ places + 1 / 2

theorem magnitude_nonneg (x : Finite) : 0 ≤ x.magnitude := by
  unfold magnitude
  positivity

theorem roundsTo_roundedTo (x : Finite) (places : Nat) :
    x.RoundsTo places (x.roundedTo places) := by
  have hnonneg : 0 ≤ x.magnitude * 10 ^ places := mul_nonneg x.magnitude_nonneg (by positivity)
  have hrounded := x.abs_scaledBy_sub_le places
  have hhalf : ∀ j : ℤ, x.magnitude * 10 ^ places = j + 1 / 2 →
      x.ReadsAsHalf places ∧ (x.keptUnits places : ℤ) = j := by
    intro j hj
    have hlt : (-1 : ℚ) < j := by linarith
    obtain ⟨n, rfl⟩ := Int.eq_ofNat_of_zero_le (show 0 ≤ j from by exact_mod_cast hlt)
    obtain ⟨hreads, hquotient⟩ := readsAsHalf_of_eq (j := n) (by exact_mod_cast hj)
    exact ⟨hreads, by exact_mod_cast hquotient⟩
  rw [abs_le] at hrounded
  unfold roundedTo
  split
  next hreads =>
    have hnear := hreads.abs_sub_le
    have hnext : ((x.keptUnits places + 1 : ℕ) : ℚ) = x.keptUnits places + 1 := Nat.cast_succ _
    constructor
    case half => exact fun j hj => by rw [Nat.cast_succ, (hhalf j hj).2]
    case nearest =>
      intro hfar
      have hfar' := hfar (x.keptUnits places)
      rw [Int.cast_natCast] at hfar'
      linarith
    case near =>
      rw [abs_le] at hnear ⊢
      rw [hnext]
      constructor <;> linarith
    case few =>
      intro hplaces
      have hexact := hreads.eq hplaces
      rw [hnext]
      constructor <;> linarith
  next hreads =>
    have hnohalf : ∀ j : ℤ, x.magnitude * 10 ^ places ≠ j + 1 / 2 := fun j hj => hreads (hhalf j hj).1
    have hstrict : |(x.scaledBy places : ℚ) - x.magnitude * 10 ^ places| < 1 / 2 := by
      refine abs_lt.mpr ⟨lt_of_le_of_ne hrounded.1 fun heq => ?_, lt_of_le_of_ne hrounded.2 fun heq => ?_⟩
      · refine hnohalf (x.scaledBy places) ?_
        rw [Int.cast_natCast]
        linarith
      · refine hnohalf (x.scaledBy places - 1) ?_
        rw [Int.cast_sub, Int.cast_natCast, Int.cast_one]
        linarith
    have hboth := abs_lt.mp hstrict
    constructor
    case half => exact fun j hj => absurd hj (hnohalf j)
    case nearest => exact fun _ => hstrict
    case near => linarith
    case few => exact fun _ => ⟨by linarith, by linarith⟩

theorem magnitude_lt_iff {x : Finite} {n : Nat} :
    x.magnitude < n ↔ x.units < n * unitsPerOne := by
  have hone : (0 : ℚ) < unitsPerOne := by exact_mod_cast (by decide : 0 < unitsPerOne)
  rw [magnitude, div_lt_iff₀ hone]
  exact_mod_cast Iff.rfl

end Number.Finite

/-! ## What is written -/

namespace Number

variable {x : Finite}

/-- The sign, and the units that the magnitude is rounded to. -/
theorem exists_fixed_eq (h : x.magnitude < 10 ^ 21) (places : Nat) :
    ∃ whole fraction, ((finite x).fixed places).toList =
        (if (finite x).less 0 then ['-'] else []) ++ pointed whole fraction ∧
      UnitsOf whole fraction (x.roundedTo places) ∧ fraction.length = places := by
  obtain ⟨whole, fraction, hmagnitude, hunits, hlength⟩ := x.exists_fixedMagnitude_unitsOf places
  have hsmall : x.units < Nat.pow 10 21 * unitsPerOne :=
    Finite.magnitude_lt_iff.mp (by exact_mod_cast h)
  have hsign : (x.negative && x.significand != 0) = true ↔ (finite x).less 0 := by
    have hpos := Nat.two_pow_pos x.scale
    rw [less_zero_iff, Finite.units, Nat.shiftLeft_eq, Bool.and_eq_true, bne_iff_ne,
      Nat.mul_ne_zero_iff, and_iff_left (Nat.ne_of_gt hpos)]
  refine ⟨whole, fraction, ?_, hunits, hlength⟩
  rw [fixed, if_pos hsmall, String.toList_ofList, hmagnitude]
  simp only [hsign]

theorem places?_eq {n : Number} {places : Nat} (hn : n.IsInteger places) (h : places ≤ maxPlaces) :
    n.places? = some places := by
  obtain ⟨y, rfl, hy⟩ := hn
  have hsign := Finite.negative_iff_of_signed_eq hy
  have hwhole : y.whole = places := Finite.whole_of_signed_eq hy
  have hrange : ¬ ((y.negative ∧ y.whole ≠ 0) ∨ maxPlaces < y.whole) := by
    rintro (hnegative | hmany)
    · have hneg := hsign.mp hnegative
      omega
    · omega
  rw [places?, if_neg hrange, hwhole]

end Number

theorem Library.withPlaces_eq (v : Number) {n : Number} {places : Nat} (hn : n.IsInteger places)
    (h : places ≤ Number.maxPlaces) : withPlaces v n = .ok (v.fixed places) := by
  rw [withPlaces, Number.places?_eq hn h]

/-- **`FIXED` and `toFixed` round the exact value.** They write a sign if it is less than zero, and the
units that its magnitude is rounded to. -/
theorem fixed_shows_rounded {x : Number.Finite} {n : Number} {places : Nat}
    (hx : x.magnitude < 10 ^ 21) (hn : n.IsInteger places) (hplaces : places ≤ Number.maxPlaces) :
    let v := Number.finite x
    (∀ now, Formula.fixed.call now [.number v, .number n] = .ok (.string (v.fixed places))) ∧
    Value.method? (.number v) "toFixed" [.number n] = some (.ok (.string (v.fixed places))) ∧
    ∃ whole fraction : List Char, ∃ units : Nat,
      (v.fixed places).toList = (if v.less 0 then ['-'] else []) ++ pointed whole fraction ∧
      whole ≠ [] ∧ fraction.length = places ∧ (∀ c ∈ whole ++ fraction, c.isDigit) ∧
      digitsValue (whole ++ fraction) = units ∧
      x.RoundsTo places units := by
  intro v
  obtain ⟨whole, fraction, htext, hunits, hlength⟩ := Number.exists_fixed_eq hx places
  have hcall := Library.withPlaces_eq v hn hplaces
  refine ⟨fun now => ?_, ?_, whole, fraction, x.roundedTo places, htext, hunits.whole_ne_nil, hlength,
    hunits.digits.isDigits, hunits.digits.value, x.roundsTo_roundedTo places⟩
  · show (do return Value.string (← Library.withPlaces v n)) = _
    rw [hcall]
    rfl
  · show some ((Library.withPlaces v n).map Value.string) = _
    rw [hcall]
    rfl

/-- Minus two and a half. -/
theorem fixed_shows_rounded_half :
    ∃ whole : List Char, digitsValue whole = 3 ∧
      Value.method? (.number (.finite ⟨true, 5 * 2 ^ 50, 1023, by decide, by decide, by decide⟩))
        "toFixed" [.number 0] = some (.ok (.string (.ofList ('-' :: whole)))) := by
  obtain ⟨x, hx⟩ : ∃ x : Number.Finite, x = ⟨true, 5 * 2 ^ 50, 1023, by decide, by decide, by decide⟩ :=
    ⟨_, rfl⟩
  have hmagnitude : 2 * (x.magnitude * 10 ^ 0) * 2 ^ 0 = (5 : Nat) := by
    refine Number.Finite.two_mul_magnitude_eq ?_
    rw [hx]
    decide
  have hvalue : x.magnitude = 5 / 2 := by
    rw [Nat.cast_ofNat] at hmagnitude
    linarith
  have hsmall : x.magnitude < 10 ^ 21 := by
    rw [hvalue]
    norm_num
  have hzero : (0 : Number).IsInteger (0 : Nat) := @Number.isInteger_ofInt 0 (by decide)
  have hless : (Number.finite x).less 0 := Number.less_zero_iff.mpr ⟨by rw [hx], by rw [hx]; decide⟩
  obtain ⟨-, hmethod, whole, fraction, units, htext, -, hlength, -, hunits, hrounds⟩ :=
    fixed_shows_rounded hsmall hzero (by decide)
  obtain rfl := List.length_eq_zero_iff.mp hlength
  have hthree := hrounds.half 2 (by rw [hvalue]; norm_num)
  rw [← hx]
  refine ⟨whole, ?_, ?_⟩
  · rw [List.append_nil] at hunits
    omega
  · have htext' : (Number.finite x).fixed 0 = .ofList ('-' :: whole) := by
      have hchars : ((Number.finite x).fixed 0).toList = '-' :: whole := by
        rw [htext, if_pos hless, pointed, if_pos rfl, List.append_nil, List.singleton_append]
      rw [← hchars, String.ofList_toList]
    rw [← htext']
    exact hmethod

end TemplateExpr
