import Mathlib.Algebra.Group.Nat.Defs
import TemplateExpr.Number.Arith

/-!
# Numbers that rounding leaves as they are

A finite double is the double nearest to its own magnitude (`ofUnits_units`). The natural numbers
below `2^53` are among the magnitudes of finite doubles, so they are numbers without any rounding
(`exists_ofNat_eq`). A double without a fraction is the one nearest to its integer, whatever its
size (`ofInt_toInt`).
-/

namespace TemplateExpr.Number

theorem two_pow_le_ten_pow (n : Nat) : 2 ^ (3 * n) ≤ 10 ^ n := by
  rw [Nat.pow_mul]
  exact Nat.pow_le_pow_left (by decide) n

/-- A one is a power of two of units. The exponent is bound, for the power is not to be computed. -/
theorem exists_unitsPerOne_eq : ∃ n, n = 1074 ∧ unitsPerOne = 2 ^ n := by
  have hshift (n : Nat) : 1 <<< n = 2 ^ n := Nat.one_shiftLeft n
  exact ⟨_, rfl, hshift 1074⟩

/-- There are two zeros. -/
theorem Finite.eq_zero (x : Finite) (h : x.significand = 0) : x = zero x.negative := by
  obtain ⟨negative, significand, scale, hlt, hnormal, hle⟩ := x
  obtain rfl : significand = 0 := h
  obtain rfl : scale = 0 := hnormal.resolve_left (by decide)
  rfl

/-- A magnitude has the scale that rounding looks for. -/
theorem Finite.scaleFor_units (x : Finite) : scaleFor x.units = x.scale := by
  have hlt : x.significand < 2 ^ 53 := x.significand_lt
  unfold scaleFor units
  rw [Nat.shiftLeft_eq]
  rcases x.normal with hnormal | hscale
  · have hle : 2 ^ 52 ≤ x.significand := hnormal
    have hpow := Nat.two_pow_pos x.scale
    have hlog : (x.significand * 2 ^ x.scale).log2 = 52 + x.scale := by
      rw [Nat.log2_eq_iff (Nat.mul_ne_zero (by omega) (by omega)), Nat.pow_add, Nat.add_right_comm,
        Nat.pow_add _ (52 + 1)]
      exact ⟨Nat.mul_le_mul_right _ hle, (Nat.mul_lt_mul_right hpow).mpr hlt⟩
    omega
  · rw [hscale, Nat.pow_zero, Nat.mul_one]
    by_cases hzero : x.significand = 0
    · rw [hzero]
      rfl
    · have hlog := (Nat.log2_lt hzero).mpr hlt
      omega

/-- A finite double is the double nearest to it. -/
theorem ofUnits_units (x : Finite) : ofUnits x.negative x.units = finite x := by
  have hsignificand : roundHalfEven x.units (1 <<< x.scale) = x.significand := by
    rw [Finite.units, Nat.shiftLeft_eq, Nat.shiftLeft_eq, Nat.one_mul]
    exact roundHalfEven_mul_self _ (Nat.two_pow_pos _)
  unfold ofUnits ofQuotient
  simp only [Nat.div_one, x.scaleFor_units, hsignificand, x.significand_lt, dif_pos, place,
    x.scale_le]

theorem ofInt_zero : ofInt 0 = zero false := by
  have h := ofUnits_units (.zero false)
  rw [Finite.units_zero] at h
  rwa [ofInt, Int.natAbs_zero, Nat.zero_mul]

/-- A natural number below `2^53` is a magnitude of a finite double. -/
theorem Finite.exists_units_eq {n : Nat} (h : n < 2 ^ 53) :
    ∃ x : Finite, x.negative = false ∧ x.units = n * unitsPerOne := by
  by_cases hzero : n = 0
  · exact ⟨zero false, rfl, by rw [units_zero, hzero, Nat.zero_mul]⟩
  · have hlog : n.log2 < 53 := (Nat.log2_lt hzero).mpr h
    obtain ⟨unused, hunused⟩ := Nat.exists_eq_add_of_le (Nat.le_of_lt_succ hlog)
    have hpow := Nat.two_pow_pos unused
    -- The leading bit of the number becomes that of the significand.
    have hnormal : 2 ^ 52 ≤ n * 2 ^ unused := by
      rw [hunused, Nat.pow_add]
      exact Nat.mul_le_mul_right _ (Nat.log2_self_le hzero)
    have hlt : n * 2 ^ unused < 2 ^ 53 := by
      rw [show 53 = n.log2 + 1 + unused by omega, Nat.pow_add]
      exact (Nat.mul_lt_mul_right hpow).mpr Nat.lt_log2_self
    refine ⟨⟨false, _, 1022 + n.log2, hlt, .inl hnormal, by omega⟩, rfl, ?_⟩
    have hscale : unused + (1022 + n.log2) = 1074 := by omega
    rw [units, unitsPerOne, Nat.shiftLeft_eq, Nat.one_shiftLeft, Nat.mul_assoc, ← Nat.pow_add,
      hscale]

/-- A natural number below `2^53` is a number. -/
theorem exists_ofNat_eq {n : Nat} (h : n < 2 ^ 53) :
    ∃ x : Finite, ofNat n = finite x ∧ x.negative = false ∧ x.units = n * unitsPerOne := by
  obtain ⟨x, hnegative, hunits⟩ := Finite.exists_units_eq h
  refine ⟨x, ?_, hnegative, hunits⟩
  rw [ofNat, ← hunits, ← hnegative, ofUnits_units]

theorem Finite.whole_of_units_eq {x : Finite} {n : Nat} (h : x.units = n * unitsPerOne) :
    x.whole = n := by
  rw [whole, h, Nat.mul_div_cancel n (by decide)]

/-- A double without a fraction is the double nearest to its integer, but for the sign of a zero. -/
theorem ofInt_toInt {x : Finite} (hwhole : x.isWhole) (hzero : x.significand ≠ 0) :
    ofInt x.toInt = finite x := by
  have hunits : x.whole * unitsPerOne = x.units :=
    Nat.div_mul_cancel (Nat.dvd_of_mod_eq_zero (by simpa [Finite.isWhole] using hwhole))
  have hpos : 0 < x.whole := by
    refine Nat.pos_of_ne_zero fun h => hzero ?_
    rw [h, Nat.zero_mul, Finite.units, Nat.shiftLeft_eq] at hunits
    exact (Nat.mul_eq_zero.mp hunits.symm).resolve_right (Nat.ne_of_gt (Nat.two_pow_pos _))
  have hnegative : decide (x.toInt < 0) = x.negative := by
    unfold Finite.toInt
    cases x.negative with
    | false => simp
    | true => simpa using hpos
  have hmagnitude : x.toInt.natAbs = x.whole := by
    unfold Finite.toInt
    split <;> simp
  rw [ofInt, hnegative, hmagnitude, hunits, ofUnits_units]

end TemplateExpr.Number
