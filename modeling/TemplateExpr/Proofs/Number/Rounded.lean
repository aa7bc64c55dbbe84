import TemplateExpr.Proofs.Number.Nearest
import TemplateExpr.Proofs.Number.Written

/-!
# What a literal denotes, rounded once

`Literal.nearest` is the double nearest to what a literal denotes, with no digit of it left out.
`ofDecimal` settles numerals far out by their size, which makes no difference
(`ofDecimal_eq_ofQuotient`). The reading of an exponent can make one, for it stops where the exponent
is large enough for itself, and the digits of the literal may be as many as that. A literal with an
exponent that is read to its end has the nearest double for its value (`Literal.value_eq_nearest`).
-/

namespace TemplateExpr.Number

/-! ## Magnitudes far out -/

section

variable (negative : Bool) {num den : Nat}

theorem place_eq_infinite {significand scale : Nat} (hlt : significand < 2 * leadingBit)
    (hnormal : leadingBit ≤ significand ∨ scale = 0) (hscale : 2045 < scale) :
    place negative significand scale hlt hnormal = infinite negative :=
  dif_neg (Nat.not_le.mpr hscale)

/-- A magnitude with more bits than any double has is taken to infinity. -/
theorem ofQuotient_eq_infinite {bits : Nat} (hbits : 2098 ≤ bits) (h : 2 ^ bits ≤ num / den) :
    ofQuotient negative num den = infinite negative := by
  have hne : num / den ≠ 0 := Nat.ne_of_gt (Nat.lt_of_lt_of_le (Nat.two_pow_pos bits) h)
  have hscale : 2045 < scaleFor (num / den) := by
    have hlog : bits ≤ (num / den).log2 := (Nat.le_log2 hne).mpr h
    unfold scaleFor
    omega
  unfold ofQuotient
  dsimp only
  split
  · exact place_eq_infinite negative _ _ hscale
  · exact place_eq_infinite negative _ _ (by omega)

/-- A magnitude with fewer bits than the largest double is taken to a double. -/
theorem exists_ofQuotient_eq_finite {bits : Nat} (hbits : bits ≤ 2097) (h : num / den < 2 ^ bits) :
    ∃ x, ofQuotient negative num den = finite x := by
  have hscale : scaleFor (num / den) + 1 ≤ 2045 := by
    unfold scaleFor
    by_cases hzero : num / den = 0
    · rw [hzero]
      decide
    · have hlog : (num / den).log2 < bits := (Nat.log2_lt hzero).mpr h
      omega
  unfold ofQuotient
  dsimp only
  split
  · exact ⟨_, dif_pos (by omega)⟩
  · exact ⟨_, dif_pos hscale⟩

/-- A magnitude below a half of a unit is taken to zero. -/
theorem ofQuotient_eq_zero (h : 2 * num < den) : ofQuotient negative num den = zero negative := by
  have hdiv : num / den = 0 := Nat.div_eq_of_lt (by omega)
  have hmod : num % den = num := Nat.mod_eq_of_lt (by omega)
  have hcompare : compare (2 * num) den = .lt := Nat.compare_eq_lt.mpr h
  have hround : roundHalfEven num den = 0 := by
    simp only [roundHalfEven, hdiv, hmod, hcompare]
  have hscale : scaleFor (num / den) = 0 := by rw [hdiv]; rfl
  unfold ofQuotient
  simp only [hscale, Nat.shiftLeft_zero, hround]
  rfl

end

/-- An integer of 64 bits is not beyond all doubles. -/
theorem exists_ofInt_eq_finite {i : Int} (h : i.natAbs < 2 ^ 64) : ∃ x, ofInt i = finite x := by
  obtain ⟨one, hone, hunits⟩ := exists_unitsPerOne_eq
  have hlt : i.natAbs * unitsPerOne / 1 < 2 ^ (64 + one) := by
    rw [Nat.div_one, hunits, Nat.pow_add]
    exact (Nat.mul_lt_mul_right (Nat.two_pow_pos one)).mpr h
  exact exists_ofQuotient_eq_finite _ (by omega) hlt

/-- Settling a numeral by its size makes no difference. -/
theorem ofDecimal_eq_ofQuotient (negative : Bool) (digits : Nat) (exponent : Int) :
    ofDecimal negative digits exponent =
      ofQuotient negative (digits * 10 ^ exponent.toNat * unitsPerOne) (10 ^ (-exponent).toNat) := by
  obtain ⟨one, hone, hunits⟩ := exists_unitsPerOne_eq
  unfold ofDecimal
  split
  next hdigits =>
    rw [hdigits, Nat.zero_mul, Nat.zero_mul]
    exact (ofQuotient_eq_zero negative (Nat.pow_pos (by decide))).symm
  next hdigits =>
    split
    next hlarge =>
      have hpow : 2 ^ (3 * exponent.toNat + one) ≤ digits * 10 ^ exponent.toNat * unitsPerOne := by
        rw [Nat.pow_add, hunits]
        refine Nat.mul_le_mul_right _ (Nat.le_trans (two_pow_le_ten_pow _) ?_)
        exact Nat.le_mul_of_pos_left _ (Nat.pos_of_ne_zero hdigits)
      have hbits : 2098 ≤ 3 * exponent.toNat + one := by omega
      refine (ofQuotient_eq_infinite negative hbits ?_).symm
      rwa [show (-exponent).toNat = 0 by omega, Nat.pow_zero, Nat.div_one]
    next =>
      split
      next hsmall =>
        refine (ofQuotient_eq_zero negative ?_).symm
        rw [show exponent.toNat = 0 by omega, Nat.pow_zero, Nat.mul_one, hunits]
        have hlog : digits < 2 ^ (digits.log2 + 1) := Nat.lt_log2_self
        calc 2 * (digits * 2 ^ one) < 2 * (2 ^ (digits.log2 + 1) * 2 ^ one) := by
              exact Nat.mul_lt_mul_of_pos_left
                (Nat.mul_lt_mul_of_pos_right hlog (Nat.two_pow_pos _)) (by decide)
          _ = 2 ^ (1 + (digits.log2 + 1 + one)) := by rw [Nat.pow_add 2 1, Nat.pow_add 2 _ one, Nat.pow_one]
          _ ≤ 2 ^ (3 * (-exponent).toNat) := Nat.pow_le_pow_right (by decide) (by omega)
          _ ≤ 10 ^ (-exponent).toNat := two_pow_le_ten_pow _
      next =>
        split
        next hnonneg =>
          have hexponent : (-exponent).toNat = 0 := by omega
          rw [hexponent, Nat.pow_zero, ofUnits, Nat.pow_eq]
        next hneg =>
          have hexponent : exponent.toNat = 0 := by omega
          rw [hexponent, Nat.pow_zero, Nat.mul_one, Nat.pow_eq]

/-! ## The nearest double -/

/-- The power of ten that an exponent denotes. -/
def Exponent.exact (e : Exponent) : Int :=
  if e.sign = ['-'] then -(Nat.ofDigitChars 10 e.digits 0 : Int) else Nat.ofDigitChars 10 e.digits 0

theorem exact_writtenExponent (lead : Int) : (writtenExponent lead).exact = lead := by
  have hread : Nat.ofDigitChars 10 (writtenExponent lead).digits 0 = lead.natAbs :=
    (digitsOf_toDigits lead.natAbs).value
  by_cases hlead : lead < 0
  · have hsign : (writtenExponent lead).sign = ['-'] := if_pos hlead
    rw [Exponent.exact, if_pos hsign, hread]
    omega
  · have hsign : (writtenExponent lead).sign = ['+'] := if_neg hlead
    rw [Exponent.exact, hsign, if_neg (by decide), hread]
    omega

namespace Literal

variable (l : Literal)

/-- The power of ten that the digits of a literal count, with the exponent read to its end. -/
def exactPower : Int := l.exponent.elim 0 Exponent.exact - l.places

/-- The double nearest to what a literal denotes. -/
def nearest : Number :=
  ofQuotient (l.sign = ['-']) (l.digits * 10 ^ l.exactPower.toNat * unitsPerOne)
    (10 ^ (-l.exactPower).toNat)

/-- The exponent of a literal, if there is one, is below ten times the size where its reading
stops. -/
def HasShortExponent : Prop :=
  ∀ e ∈ l.exponent, Nat.ofDigitChars 10 e.digits 0 < 10 * exponentEnough

theorem power_eq_exactPower (h : l.HasShortExponent) : l.power = l.exactPower := by
  unfold power exactPower
  cases he : l.exponent with
  | none => rfl
  | some e =>
    have hsize := exponentSize_eq (h e he)
    simp only [Option.elim_some, Exponent.value, Exponent.exact, hsize]

theorem value_eq_nearest (h : l.HasShortExponent) : l.value = l.nearest := by
  rw [value, nearest, ofDecimal_eq_ofQuotient, l.power_eq_exactPower h]

end Literal

end TemplateExpr.Number
