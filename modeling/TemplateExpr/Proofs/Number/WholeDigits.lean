import TemplateExpr.Proofs.Number.Whole
import TemplateExpr.Proofs.Number.Written

/-!
# Whole numbers are written with their digits

The search for the shortest digits of a whole number ends at the grid of the integers, on which the
number itself lies, so it never gets to a fraction (`shortest_exponent_nonneg`). Below `2^53` there
is only one integer that is read as the number, and the digits with the zeros behind them are its
decimal digits (`digitsOf_chars`). From there on the shortest digits may be those of another integer.
-/

namespace TemplateExpr.Number

variable {x : Finite} {tie : Tie} {i : Nat}

namespace Finite

/-! ## The grid of the integers -/

theorem onGrid?_isSome {k : Int}
    (h : x.roundsHere (x.quarters * Nat.pow 10 (-k).toNat / (4 * unitsPerOne * Nat.pow 10 k.toNat) *
      (4 * unitsPerOne * Nat.pow 10 k.toNat)) (Nat.pow 10 (-k).toNat)) :
    (x.onGrid? tie k).isSome := by
  unfold onGrid?
  dsimp only
  rw [h]
  split
  next hfalse _ => cases hfalse
  next => rfl
  next hfalse _ => cases hfalse
  next => split <;> [rfl; rfl; (split <;> rfl)]

theorem onGrid?_zero_isSome (hunits : x.units = i * unitsPerOne) (hzero : x.significand ≠ 0) :
    (x.onGrid? tie 0).isSome := by
  refine onGrid?_isSome (roundsHere_self hzero Nat.one_pos ?_)
  have hquarters : x.quarters = i * (4 * unitsPerOne) := by
    rw [quarters, hunits]
    ring
  show x.quarters * 1 / (4 * unitsPerOne * 1) * (4 * unitsPerOne * 1) = x.quarters * 1
  rw [Nat.mul_one, Nat.mul_one, hquarters, Nat.mul_div_cancel _ (by decide)]

theorem searchFrom_exponent_nonneg (hgrid : (x.onGrid? tie 0).isSome) (steps : Nat) (k : Int)
    (hk : 0 ≤ k) (hsteps : k < steps) : 0 ≤ (x.searchFrom tie steps k).exponent := by
  induction steps generalizing k with
  | zero => omega
  | succ steps ih =>
    rw [searchFrom]
    cases hfound : x.onGrid? tie k with
    | none =>
      have hne : k ≠ 0 := by
        rintro rfl
        rw [hfound] at hgrid
        cases hgrid
      exact ih (k - 1) (by omega) (by omega)
    | some d => exact (onGrid?_reads hfound).2 ▸ hk

theorem shortest_exponent_nonneg (tie : Tie) (hunits : x.units = i * unitsPerOne)
    (hzero : x.significand ≠ 0) : 0 ≤ (x.shortest tie).exponent := by
  obtain ⟨one, hone, hpow⟩ := exists_unitsPerOne_eq
  have hlog : one ≤ x.units.log2 := by
    have hpos : x.units ≠ 0 := by
      have := two_pow_le_units hzero
      have := Nat.two_pow_pos x.scale
      omega
    rw [Nat.le_log2 hpos, ← hpow, hunits]
    exact Nat.le_mul_of_pos_left _ (Nat.pos_of_ne_zero fun h => hpos (by rw [hunits, h, Nat.zero_mul]))
  refine searchFrom_exponent_nonneg (onGrid?_zero_isSome hunits hzero) _ _ ?_ ?_ <;>
    unfold coarsest <;> omega

/-! ## The integer that is read as the number -/

/-- Integers below `2^53` are no finer than the steps between doubles of their size. -/
theorem two_pow_scale_le (hunits : x.units = i * unitsPerOne) (h : i < 2 ^ 53) :
    2 ^ x.scale ≤ unitsPerOne := by
  obtain ⟨one, -, hone⟩ := exists_unitsPerOne_eq
  rw [hone]
  refine Nat.pow_le_pow_right (by decide) (Nat.le_of_not_lt fun hlt => ?_)
  have hnormal : 2 ^ 52 ≤ x.significand := x.normal.resolve_right (by omega)
  have hlarge : 2 ^ 53 * 2 ^ one ≤ x.units := by
    have hpow : 2 ^ (one + 1) ≤ 2 ^ x.scale := Nat.pow_le_pow_right (by decide) hlt
    have hmul : 2 ^ 52 * 2 ^ (one + 1) ≤ x.significand * 2 ^ x.scale := Nat.mul_le_mul hnormal hpow
    rw [units, Nat.shiftLeft_eq]
    rw [Nat.pow_succ] at hmul
    omega
  rw [hunits, hone] at hlarge
  exact absurd (Nat.le_of_mul_le_mul_right hlarge (Nat.two_pow_pos _)) (Nat.not_le_of_lt h)

theorem Denotes.eq_of_lt {d : Decimal} (hd : x.Denotes d) (hexponent : 0 ≤ d.exponent)
    (hunits : x.units = i * unitsPerOne) (h : i < 2 ^ 53) :
    d.digits * 10 ^ d.exponent.toNat = i := by
  have hscale := two_pow_scale_le hunits h
  have hone : 0 < unitsPerOne := by decide
  obtain ⟨hlow, hhigh⟩ := hd.between
  have hplaces : (-d.exponent).toNat = 0 := by omega
  rw [hplaces, Nat.pow_zero, Nat.mul_one] at hlow hhigh
  have hread : d.digits * (4 * unitsPerOne * 10 ^ d.exponent.toNat) =
      4 * (d.digits * 10 ^ d.exponent.toNat * unitsPerOne) := by ring
  rw [hread] at hlow hhigh
  generalize d.digits * 10 ^ d.exponent.toNat = n at hlow hhigh
  have hupper : x.upperEnd = 4 * (i * unitsPerOne) + 2 * 2 ^ x.scale := by
    rw [upperEnd, quarters, hunits, Nat.shiftLeft_eq]
  have hlower : 4 * (i * unitsPerOne) ≤ x.lowerEnd + 2 * 2 ^ x.scale := by
    rw [lowerEnd, quarters, hunits, Nat.shiftLeft_eq]
    split <;> omega
  -- Half a step is less than the distance of two integers.
  rcases Nat.lt_trichotomy n i with hlt | heq | hgt
  · have hstep : (n + 1) * unitsPerOne ≤ i * unitsPerOne := Nat.mul_le_mul_right _ hlt
    rw [Nat.succ_mul] at hstep
    omega
  · exact heq
  · have hstep : (i + 1) * unitsPerOne ≤ n * unitsPerOne := Nat.mul_le_mul_right _ hgt
    rw [Nat.succ_mul] at hstep
    omega

end Finite

/-! ## The digits -/

/-- A number below `10^21` is written positionally, with zeros in place of a power of ten. -/
theorem magnitude_of_nonneg {d : Decimal} (hexponent : 0 ≤ d.exponent)
    (h : d.digits * 10 ^ d.exponent.toNat < 10 ^ 21) (hdigits : d.digits ≠ 0) :
    Layout.expression.magnitude d = Nat.toDigits 10 d.digits ++ Layout.zeros d.exponent.toNat := by
  have hlength : (Nat.toDigits 10 d.digits).length + d.exponent.toNat ≤ 21 := by
    by_cases hlarge : 21 ≤ d.exponent.toNat
    · have hpow : 10 ^ 21 ≤ 10 ^ d.exponent.toNat := Nat.pow_le_pow_right (by decide) hlarge
      have hmul := Nat.le_mul_of_pos_left (10 ^ d.exponent.toNat) (Nat.pos_of_ne_zero hdigits)
      omega
    · have hsplit : 10 ^ 21 = 10 ^ (21 - d.exponent.toNat) * 10 ^ d.exponent.toNat := by
        rw [← Nat.pow_add]
        congr 1
        omega
      rw [hsplit] at h
      have hlt := Nat.lt_of_mul_lt_mul_right h
      have hle := (Nat.length_toDigits_le_iff (b := 10) (by decide) (by omega)).mpr hlt
      omega
  have hpos : 0 < (Nat.toDigits 10 d.digits).length := Nat.length_toDigits_pos
  unfold Layout.magnitude
  dsimp only
  rw [if_pos (by simp only [Layout.expression]; omega), Layout.positional, if_pos hexponent]
  exact List.append_nil _

/-- An integer below `2^53` is written with its digits; a zero has no sign. -/
theorem digitsOf_chars (hx : x.signed = (i : Int) * unitsPerOne) (h : i < 2 ^ 53) :
    DigitsOf (Layout.expression.chars (finite x)) i := by
  have hunits : x.units = i * unitsPerOne := by
    rw [← Finite.natAbs_signed, hx, Int.natAbs_mul, Int.natAbs_natCast, Int.natAbs_natCast]
  by_cases hzero : x.significand = 0
  · have hi : i = 0 := by
      rw [x.eq_zero hzero, Finite.units_zero] at hunits
      exact (Nat.mul_eq_zero.mp hunits.symm).resolve_right (by decide)
    have htext : "0".toList = Nat.toDigits 10 0 := by decide
    rw [Layout.chars, if_pos hzero, hi]
    exact htext ▸ digitsOf_toDigits 0
  · have hdenotes := Finite.shortest_denotes hzero Layout.expression.tie
    have hexponent := Finite.shortest_exponent_nonneg Layout.expression.tie hunits hzero
    have hvalue := hdenotes.eq_of_lt hexponent hunits h
    have hnegative : x.negative = false := by
      have hsign := Finite.negative_iff_of_signed_eq hx
      have hwhole : x.whole ≠ 0 := by
        rw [Finite.whole_of_units_eq hunits]
        rintro rfl
        have := Finite.two_pow_le_units hzero
        have := Nat.two_pow_pos x.scale
        omega
      rw [← Bool.not_eq_true]
      exact fun hnegative => absurd (hsign.mp ⟨hnegative, hwhole⟩) (by omega)
    have hsmall : (x.shortest Layout.expression.tie).digits *
        10 ^ (x.shortest Layout.expression.tie).exponent.toNat < 10 ^ 21 := by
      rw [hvalue]
      omega
    rw [Layout.chars, if_neg hzero, hnegative, if_neg Bool.false_ne_true, List.nil_append,
      magnitude_of_nonneg hexponent hsmall (hdenotes.digits_ne_zero hzero), ← hvalue]
    exact (digitsOf_toDigits _).append_zeros _

end TemplateExpr.Number
