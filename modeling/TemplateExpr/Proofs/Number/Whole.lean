import TemplateExpr.Proofs.Number.Exact

/-!
# Whole numbers

The whole part of a double is a double, so that nothing is rounded when its fraction is cut off
(`exists_trunc_eq`). A double that is an integer (`IsInteger`) is added to another one exactly as long
as the sum is below `2^53` (`IsInteger.add`).
-/

namespace TemplateExpr.Number

namespace Finite

/-- A double of `2^53` or more has no fraction. -/
theorem whole_mul_unitsPerOne {x : Finite} (h : 2 ^ 53 ≤ x.whole) :
    x.whole * unitsPerOne = x.units := by
  obtain ⟨one, -, hone⟩ := exists_unitsPerOne_eq
  have hlt : x.significand < 2 ^ 53 := x.significand_lt
  have hle : 2 ^ 53 * 2 ^ one ≤ x.significand * 2 ^ x.scale := by
    have hunits : 2 ^ 53 * unitsPerOne ≤ x.units :=
      Nat.le_trans (Nat.mul_le_mul_right _ h) (Nat.div_mul_le_self _ _)
    rwa [units, Nat.shiftLeft_eq, hone] at hunits
  have hscale : one ≤ x.scale := by
    refine Nat.le_of_not_lt fun hgt => ?_
    have hpow : 2 ^ x.scale ≤ 2 ^ one := Nat.pow_le_pow_right (by decide) (Nat.le_of_lt hgt)
    have hmul : x.significand * 2 ^ x.scale < 2 ^ 53 * 2 ^ one :=
      Nat.lt_of_lt_of_le (Nat.mul_lt_mul_of_pos_right hlt (Nat.two_pow_pos _))
        (Nat.mul_le_mul_left _ hpow)
    omega
  rw [whole, hone]
  refine Nat.div_mul_cancel ?_
  rw [units, Nat.shiftLeft_eq]
  exact Nat.dvd_mul_left_of_dvd (Nat.pow_dvd_pow 2 hscale) _

/-- The whole part of a double is the magnitude of a double of the same sign. -/
theorem exists_units_eq_whole (x : Finite) :
    ∃ y : Finite, y.negative = x.negative ∧ y.units = x.whole * unitsPerOne := by
  by_cases h : x.whole < 2 ^ 53
  · obtain ⟨y, -, hy⟩ := exists_units_eq h
    exact ⟨{ y with negative := x.negative }, rfl, hy⟩
  · exact ⟨x, rfl, (whole_mul_unitsPerOne (Nat.le_of_not_lt h)).symm⟩

end Finite

/-- Cutting a fraction off rounds nothing. -/
theorem exists_trunc_eq (x : Finite) :
    ∃ y : Finite, trunc (finite x) = finite y ∧ y.negative = x.negative ∧
      y.units = x.whole * unitsPerOne := by
  obtain ⟨y, hnegative, hunits⟩ := x.exists_units_eq_whole
  refine ⟨y, ?_, hnegative, hunits⟩
  rw [trunc, ← hnegative, ← hunits, ofUnits_units]

/-! ## Signs -/

theorem natural_zero : (0 : Number) = finite (.zero false) := ofInt_zero

theorem compare?_zero (x : Finite) : compare? (finite x) 0 = some (compare x.signed 0) := by
  have hzero : (Finite.zero false).signed = 0 := by
    rw [Finite.signed, Finite.units_zero]
    rfl
  rw [natural_zero, compare?, hzero]

theorem less_zero_iff {x : Finite} : (finite x).less 0 ↔ x.negative ∧ x.units ≠ 0 := by
  have hsigned : (finite x).less 0 ↔ x.signed < 0 := by
    rw [less, compare?_zero, beq_iff_eq, Option.some.injEq, Int.compare_eq_lt]
  rw [hsigned, Finite.signed]
  cases x.negative with
  | false => simp
  | true =>
    simp only [if_true, true_and]
    omega

theorem atMost_zero_iff {x : Finite} : (finite x).atMost 0 ↔ x.negative ∨ x.units = 0 := by
  have hsigned : (finite x).atMost 0 ↔ x.signed < 0 ∨ x.signed = 0 := by
    rw [atMost, compare?_zero, Bool.or_eq_true, beq_iff_eq, beq_iff_eq, Option.some.injEq,
      Option.some.injEq, Int.compare_eq_lt, Int.compare_eq_eq]
  rw [hsigned, Finite.signed]
  cases x.negative with
  | false =>
    simp only [Bool.false_eq_true, if_false, false_or]
    omega
  | true =>
    simp only [if_true, true_or, iff_true]
    omega

theorem isNegative_of_less_zero {n : Number} (h : n.less 0) : n.isNegative := by
  cases n with
  | nan => cases h
  | infinite negative =>
    cases negative with
    | true => rfl
    | false =>
      rw [natural_zero] at h
      cases h
  | finite x => exact (less_zero_iff.mp h).1

theorem isNegative_ofQuotient (negative : Bool) (num den : Nat) :
    (ofQuotient negative num den).isNegative = negative := by
  unfold ofQuotient
  dsimp only
  split <;> unfold place <;> split <;> rfl

/-! ## Integers -/

/-- A number is the given integer. -/
def IsInteger (n : Number) (i : Int) : Prop := ∃ x : Finite, n = finite x ∧ x.signed = i * unitsPerOne

/-- An integer of less than 54 bits is a number. -/
theorem isInteger_ofInt {i : Int} (h : i.natAbs < 2 ^ 53) : (ofInt i).IsInteger i := by
  obtain ⟨x, -, hunits⟩ := Finite.exists_units_eq h
  refine ⟨{ x with negative := decide (i < 0) }, ?_, ?_⟩
  · rw [ofInt, ← hunits]
    exact ofUnits_units { x with negative := decide (i < 0) }
  · have hmagnitude : ({ x with negative := decide (i < 0) } : Finite).units = x.units := rfl
    rw [Finite.signed, hmagnitude, hunits, Int.natCast_mul]
    split
    next hneg =>
      have hi : (i.natAbs : Int) = -i := by
        have : i < 0 := of_decide_eq_true hneg
        omega
      rw [hi, Int.neg_mul, Int.neg_neg]
    next hnonneg =>
      have hi : (i.natAbs : Int) = i := by
        have : ¬ i < 0 := fun h => hnonneg (decide_eq_true h)
        omega
      rw [hi]

namespace Finite

variable {x : Finite} {i : Int} (h : x.signed = i * unitsPerOne)
include h

theorem whole_of_signed_eq : x.whole = i.natAbs := by
  refine whole_of_units_eq ?_
  rw [← natAbs_signed, h, Int.natAbs_mul, Int.natAbs_natCast]

/-- The sign of an integer, seen from the sign of its double; a zero may have one. -/
theorem negative_iff_of_signed_eq : x.negative ∧ x.whole ≠ 0 ↔ i < 0 := by
  rw [whole_of_signed_eq h]
  have hone : (0 : Int) < unitsPerOne := by decide
  cases hnegative : x.negative with
  | true =>
    have hle : i * unitsPerOne ≤ 0 := by
      rw [← h, signed, if_pos hnegative]
      omega
    have hnonpos : i ≤ 0 := Int.le_of_not_gt fun hgt => by
      have := Int.mul_pos hgt hone
      omega
    simp only [true_and]
    omega
  | false =>
    have hge : 0 ≤ i * unitsPerOne := by
      rw [← h, signed, hnegative]
      exact Int.natCast_nonneg _
    have hnonneg : 0 ≤ i := Int.le_of_not_gt fun hlt => by
      have := Int.mul_neg_of_neg_of_pos hlt hone
      omega
    simp only [Bool.false_eq_true, false_and, false_iff]
    omega

theorem toInt_of_signed_eq : x.toInt = i := by
  have hwhole := whole_of_signed_eq h
  have hsign := negative_iff_of_signed_eq h
  unfold toInt
  split
  next hnegative =>
    simp only [hnegative, true_and] at hsign
    omega
  next hpositive =>
    simp only [hpositive, Bool.false_eq_true, false_and, false_iff] at hsign
    omega

end Finite

/-- A sum of doubles that is an integer is rounded to the double nearest to it. -/
theorem add_eq_ofInt {x y : Finite} {i : Int} (h : x.signed + y.signed = i * unitsPerOne) :
    finite x + finite y = if i = 0 then zero (x.negative && y.negative) else ofInt i := by
  have hone : 0 < unitsPerOne := by decide
  show add (finite x) (finite y) = _
  rw [add, h]
  by_cases hi : i = 0
  · rw [hi, Int.zero_mul]
    rfl
  · have hne : i * unitsPerOne ≠ 0 := Int.mul_ne_zero hi (by omega)
    have hsign : decide (i * unitsPerOne < 0) = decide (i < 0) := by
      rw [decide_eq_decide]
      constructor
      · intro hlt
        refine Int.lt_of_not_ge fun hge => ?_
        have := Int.mul_nonneg hge (Int.natCast_nonneg unitsPerOne)
        omega
      · exact fun hlt => Int.mul_neg_of_neg_of_pos hlt (by omega)
    simp only [hne, hi, if_false, hsign, Int.natAbs_mul, Int.natAbs_natCast, ofInt]

theorem IsInteger.add {m n : Number} {i j : Int} (hm : m.IsInteger i) (hn : n.IsInteger j)
    (h : (i + j).natAbs < 2 ^ 53) : (m + n).IsInteger (i + j) := by
  obtain ⟨x, rfl, hx⟩ := hm
  obtain ⟨y, rfl, hy⟩ := hn
  rw [add_eq_ofInt (show x.signed + y.signed = (i + j) * unitsPerOne by rw [hx, hy, Int.add_mul])]
  split
  next hzero =>
    refine ⟨.zero _, rfl, ?_⟩
    rw [hzero, Int.zero_mul, Finite.signed, Finite.units_zero]
    split <;> rfl
  next => exact isInteger_ofInt h

/-- Adding to zero takes the sign off a zero, and makes no other difference. -/
theorem zero_add_finite (x : Finite) : 0 + finite x = if x.units = 0 then 0 else finite x := by
  have hsum : (Finite.zero false).signed + x.signed = x.signed := by
    rw [Finite.signed, Finite.units_zero]
    exact Int.zero_add _
  have hmagnitude := x.natAbs_signed
  rw [natural_zero]
  show add (finite (.zero false)) (finite x) = _
  rw [add, hsum]
  by_cases hunits : x.units = 0
  · have hzero : x.signed = 0 := by omega
    simp only [hzero, if_true, hunits]
    rfl
  · have hne : x.signed ≠ 0 := by omega
    have hsign : decide (x.signed < 0) = x.negative := by
      unfold Finite.signed
      cases x.negative with
      | false => simp
      | true =>
        simp only [if_true, decide_eq_true_eq]
        omega
    simp only [hne, hunits, if_false, hsign, hmagnitude]
    exact ofUnits_units x

/-- The sum of two natural numbers below `2^53` is not rounded. -/
theorem ofNat_add_ofNat {a b : Nat} (h : a + b < 2 ^ 53) : ofNat a + ofNat b = ofNat (a + b) := by
  obtain ⟨x, hx, hxneg, hxunits⟩ := @exists_ofNat_eq a (by omega)
  obtain ⟨y, hy, hyneg, hyunits⟩ := @exists_ofNat_eq b (by omega)
  have hsum : x.signed + y.signed = ((a + b : Nat) : Int) * unitsPerOne := by
    simp [Finite.signed, hxneg, hyneg, hxunits, hyunits, Int.add_mul]
  rw [hx, hy, add_eq_ofInt hsum]
  split
  next hzero =>
    have hnat : a + b = 0 := by omega
    rw [hnat, hxneg, hyneg]
    exact ofInt_zero.symm
  next => rfl

end TemplateExpr.Number
