import TemplateExpr.Proofs.Number.Nearest

/-!
# Shortest digits read back

Whatever the search for the shortest digits of a double finds lies in the interval around the
double, and its exponent is within what decimal numerals are read with (`shortest_denotes`). So the
digits are read as that double (`Denotes.ofDecimal_eq`). How few they are plays no part in this.
-/

namespace TemplateExpr.Number

variable {x : Finite} {d : Decimal} {tie : Tie}

/-! ## What the search finds -/

/-- A decimal numeral is in the interval around a double. -/
def Finite.Reads (x : Finite) (d : Decimal) : Prop :=
  x.roundsHere (d.digits * (4 * unitsPerOne * Nat.pow 10 d.exponent.toNat))
    (Nat.pow 10 (-d.exponent).toNat)

/-- A decimal numeral denotes a double, with an exponent that is neither too small nor too large. -/
structure Finite.Denotes (x : Finite) (d : Decimal) : Prop where
  reads : x.Reads d
  least : -1074 ≤ d.exponent
  most : d.exponent ≤ 309

namespace Finite

theorem onGrid?_reads {k : Int} (h : x.onGrid? tie k = some d) : x.Reads d ∧ d.exponent = k := by
  have hpoint {n : Nat} (hn : x.Reads ⟨n, k⟩) (hd : some ⟨n, k⟩ = some d) :
      x.Reads d ∧ d.exponent = k := by
    cases hd
    exact ⟨hn, rfl⟩
  unfold onGrid? at h
  dsimp only at h
  split at h
  next => cases h
  next hbelow _ => exact hpoint hbelow h
  next _ habove => exact hpoint habove h
  next hbelow habove =>
    split at h
    next => exact hpoint hbelow h
    next => exact hpoint habove h
    next =>
      split at h
      next => exact hpoint habove h
      next =>
        -- The even one of the two is one of the two.
        obtain heven | hodd := Nat.mod_two_eq_zero_or_one
          (x.quarters * Nat.pow 10 (-k).toNat / (4 * unitsPerOne * Nat.pow 10 k.toNat))
        · rw [heven] at h
          exact hpoint hbelow h
        · rw [hodd] at h
          exact hpoint habove h

theorem two_pow_le_units (hzero : x.significand ≠ 0) : 2 ^ x.scale ≤ x.units := by
  rw [units, Nat.shiftLeft_eq]
  exact Nat.le_mul_of_pos_left _ (Nat.pos_of_ne_zero hzero)

theorem lowerEnd_pos (hzero : x.significand ≠ 0) : 0 < x.lowerEnd := by
  have hpow := Nat.two_pow_pos x.scale
  have hunits := two_pow_le_units hzero
  unfold lowerEnd quarters
  rw [Nat.shiftLeft_eq]
  split <;> omega

theorem lowerEnd_lt_quarters (hzero : x.significand ≠ 0) : x.lowerEnd < x.quarters := by
  have hpow := Nat.two_pow_pos x.scale
  have hunits := two_pow_le_units hzero
  unfold lowerEnd quarters
  rw [Nat.shiftLeft_eq]
  split <;> omega

theorem quarters_lt_upperEnd (x : Finite) : x.quarters < x.upperEnd := by
  have hpow := Nat.two_pow_pos x.scale
  rw [upperEnd, Nat.shiftLeft_eq]
  omega

theorem roundsHere_self {num den : Nat} (hzero : x.significand ≠ 0) (hden : 0 < den)
    (hnum : num = x.quarters * den) : x.roundsHere num den := by
  have hlower := (Nat.mul_lt_mul_right hden).mpr (lowerEnd_lt_quarters hzero)
  have hupper := (Nat.mul_lt_mul_right hden).mpr x.quarters_lt_upperEnd
  rw [hnum, roundsHere]
  split
  · simp [Nat.le_of_lt hlower, Nat.le_of_lt hupper]
  · simp [hlower, hupper]

/-- A unit `2^-n` is `5^n` steps of `10^-n`. -/
theorem mul_pow_five (units n : Nat) :
    units * Nat.pow 5 n * (4 * (1 <<< n) * Nat.pow 10 0) = 4 * units * Nat.pow 10 n := by
  have hten : 10 ^ n = 5 ^ n * 2 ^ n := Nat.mul_pow 5 2 n
  simp only [Nat.pow_eq, Nat.one_shiftLeft, hten]
  ring

theorem reads_of_multiple (hzero : x.significand ≠ 0) {n : Nat} (hn : unitsPerOne = 1 <<< n)
    (hdigits : d.digits = x.units * Nat.pow 5 n) (hexponent : d.exponent = -n) : x.Reads d := by
  have hwhole : d.exponent.toNat = 0 := by omega
  have hplaces : (-d.exponent).toNat = n := by omega
  rw [Reads, hwhole, hplaces, hn, hdigits]
  exact roundsHere_self hzero (Nat.pow_pos (by decide)) (mul_pow_five x.units n)

theorem exact_reads (hzero : x.significand ≠ 0) : x.Reads x.exact :=
  reads_of_multiple hzero (by rw [unitsPerOne]) rfl rfl

theorem searchFrom_denotes (hzero : x.significand ≠ 0) (steps : Nat) (k : Int)
    (hleast : -1075 ≤ k - steps) (hmost : k ≤ 309) : x.Denotes (x.searchFrom tie steps k) := by
  induction steps generalizing k with
  | zero => exact ⟨exact_reads hzero, Int.le_refl _, show (-1074 : Int) ≤ 309 by decide⟩
  | succ steps ih =>
    rw [searchFrom]
    cases hgrid : x.onGrid? tie k with
    | none => exact ih (k - 1) (by omega) (by omega)
    | some d =>
      obtain ⟨hreads, rfl⟩ := onGrid?_reads hgrid
      exact ⟨hreads, by rw [Option.getD_some]; omega, hmost⟩

theorem units_lt (x : Finite) : x.units < 2 ^ (53 + x.scale) := by
  rw [units, Nat.shiftLeft_eq, Nat.pow_add]
  exact (Nat.mul_lt_mul_right (Nat.two_pow_pos _)).mpr x.significand_lt

theorem log2_units_lt (x : Finite) : x.units.log2 < 2098 := by
  have hscale := x.scale_le
  by_cases hzero : x.units = 0
  · rw [hzero]
    decide
  · have hlog := (Nat.log2_lt hzero).mpr x.units_lt
    omega

/-- The shortest digits of a double denote it. -/
theorem shortest_denotes (hzero : x.significand ≠ 0) (tie : Tie) : x.Denotes (x.shortest tie) := by
  have hlog := x.log2_units_lt
  unfold shortest
  apply searchFrom_denotes hzero <;> unfold coarsest <;> omega

end Finite

/-! ## Reading the digits -/

theorem Finite.upperEnd_lt (x : Finite) : x.upperEnd < 2 ^ (55 + x.scale) := by
  have hbits : (x.significand + 1) * 2 ^ x.scale ≤ 2 ^ 53 * 2 ^ x.scale :=
    Nat.mul_le_mul_right _ x.significand_lt
  have hstep := Nat.two_pow_pos x.scale
  rw [upperEnd, quarters, units, Nat.shiftLeft_eq, Nat.shiftLeft_eq, Nat.pow_add]
  rw [Nat.add_mul] at hbits
  omega

namespace Finite.Denotes

variable (h : x.Denotes d)
include h

/-- The digits are between the ends of the interval. -/
theorem between :
    x.lowerEnd * 10 ^ (-d.exponent).toNat ≤ d.digits * (4 * unitsPerOne * 10 ^ d.exponent.toNat)
      ∧ d.digits * (4 * unitsPerOne * 10 ^ d.exponent.toNat)
        ≤ x.upperEnd * 10 ^ (-d.exponent).toNat := by
  have hreads := h.reads
  unfold Reads roundsHere at hreads
  split at hreads <;> simp only [Bool.and_eq_true, decide_eq_true_eq] at hreads
  · exact hreads
  · exact ⟨Nat.le_of_lt hreads.1, Nat.le_of_lt hreads.2⟩

theorem pow_ten_le (hzero : x.significand ≠ 0) :
    10 ^ (-d.exponent).toNat ≤ d.digits * (4 * unitsPerOne * 10 ^ d.exponent.toNat) :=
  Nat.le_trans (Nat.le_mul_of_pos_left _ (lowerEnd_pos hzero)) h.between.1

theorem digits_ne_zero (hzero : x.significand ≠ 0) : d.digits ≠ 0 := by
  intro hdigits
  have hlow := h.pow_ten_le hzero
  have hpos : 0 < 10 ^ (-d.exponent).toNat := Nat.pow_pos (by decide)
  rw [hdigits, Nat.zero_mul] at hlow
  omega

theorem digits_lt : d.digits < 10 ^ (55 + x.scale + (-d.exponent).toNat) := by
  have hone : 0 < 4 * unitsPerOne * 10 ^ d.exponent.toNat :=
    Nat.mul_pos (by decide) (Nat.pow_pos (by decide))
  have htwo : 2 ^ (55 + x.scale) ≤ 10 ^ (55 + x.scale) := Nat.pow_le_pow_left (by decide) _
  calc d.digits ≤ d.digits * (4 * unitsPerOne * 10 ^ d.exponent.toNat) :=
        Nat.le_mul_of_pos_right _ hone
    _ ≤ x.upperEnd * 10 ^ (-d.exponent).toNat := h.between.2
    _ < 2 ^ (55 + x.scale) * 10 ^ (-d.exponent).toNat :=
        (Nat.mul_lt_mul_right (Nat.pow_pos (by decide))).mpr x.upperEnd_lt
    _ ≤ 10 ^ (55 + x.scale) * 10 ^ (-d.exponent).toNat := Nat.mul_le_mul_right _ htwo
    _ = 10 ^ (55 + x.scale + (-d.exponent).toNat) := (Nat.pow_add ..).symm

/-- The number of digits is far below what an exponent is read with. -/
theorem length_toDigits_le : (Nat.toDigits 10 d.digits).length ≤ 3174 := by
  have hleast := h.least
  have hscale := x.scale_le
  have hlength := (Nat.length_toDigits_le_iff (b := 10) (by decide) (by omega)).mpr h.digits_lt
  omega

/-- The digits are not taken for a number below all doubles. -/
theorem not_exponent_lt (hzero : x.significand ≠ 0) :
    ¬ d.exponent < -401 - (d.digits.log2 : Int) := by
  intro hlt
  have hwhole : d.exponent.toNat = 0 := by omega
  have hlow := h.pow_ten_le hzero
  obtain ⟨one, hone, hunits⟩ := exists_unitsPerOne_eq
  have hdigits : d.digits < 2 ^ (d.digits.log2 + 1) := Nat.lt_log2_self
  have hbound : 2 ^ (3 * (-d.exponent).toNat) < 2 ^ (d.digits.log2 + 1 + (2 + one)) := by
    calc 2 ^ (3 * (-d.exponent).toNat) ≤ d.digits * 2 ^ (2 + one) := by
          rw [hwhole, Nat.pow_zero, Nat.mul_one, hunits, ← Nat.pow_add 2 2] at hlow
          exact Nat.le_trans (two_pow_le_ten_pow _) hlow
      _ < 2 ^ (d.digits.log2 + 1) * 2 ^ (2 + one) :=
          (Nat.mul_lt_mul_right (Nat.two_pow_pos _)).mpr hdigits
      _ = 2 ^ (d.digits.log2 + 1 + (2 + one)) := (Nat.pow_add ..).symm
  have hexponents := (Nat.pow_lt_pow_iff_right (by decide)).mp hbound
  omega

/-- The digits of a double are read as it. -/
theorem ofDecimal_eq (hzero : x.significand ≠ 0) :
    ofDecimal x.negative d.digits d.exponent = finite x := by
  have hmost := h.most
  have hreads := h.reads
  unfold Reads at hreads
  rw [ofDecimal, if_neg (h.digits_ne_zero hzero), if_neg (by omega),
    if_neg (h.not_exponent_lt hzero)]
  split
  next hwhole =>
    have hplaces : (-d.exponent).toNat = 0 := by omega
    have hnum : d.digits * (4 * unitsPerOne * Nat.pow 10 d.exponent.toNat)
        = 4 * (d.digits * Nat.pow 10 d.exponent.toNat * unitsPerOne) := by ring
    rw [hplaces, hnum] at hreads
    exact ofQuotient_of_roundsHere hreads Nat.one_pos
  next hfraction =>
    have hwhole : d.exponent.toNat = 0 := by omega
    have hnum : d.digits * (4 * unitsPerOne * Nat.pow 10 0) = 4 * (d.digits * unitsPerOne) := by
      rw [Nat.pow_eq, Nat.pow_zero]
      ring
    rw [hwhole, hnum] at hreads
    exact ofQuotient_of_roundsHere hreads (Nat.pow_pos (by decide))

end Finite.Denotes

end TemplateExpr.Number
