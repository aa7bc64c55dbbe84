import Mathlib.Tactic.Ring
import TemplateExpr.Number.Shortest
import TemplateExpr.Proofs.Number.Exact

/-!
# Magnitudes that round to a double

`Finite.roundsHere` asks whether a quotient lies in the interval around a double, with its ends
where the significand is even. The quotients of which this is true are rounded to that double
(`ofQuotient_of_roundsHere`). Most of them are rounded at its scale. A double whose significand is
the leading bit alone has quotients below it that are rounded at the scale before: there the
significand rounds up to a power of two, which is carried.
-/

namespace TemplateExpr

/-- A quotient is no farther than a half from a natural number, and nearer than that unless the
number is even. -/
structure IsNearest (n num den : Nat) : Prop where
  low : 2 * (n * den) ≤ 2 * num + den
  high : 2 * num ≤ 2 * (n * den) + den
  tie : n % 2 = 0 ∨ 2 * (n * den) < 2 * num + den ∧ 2 * num < 2 * (n * den) + den

/-- A quotient is rounded to the nearest natural number. -/
theorem isNearest_roundHalfEven (num : Nat) {den : Nat} (h : 0 < den) :
    IsNearest (roundHalfEven num den) num den := by
  have hsplit : num / den * den + num % den = num := Nat.div_add_mod' num den
  have hmod := Nat.mod_lt num h
  have hup : (num / den + 1) * den = num / den * den + den := Nat.succ_mul _ _
  unfold roundHalfEven
  dsimp only
  split
  next hlt =>
    rw [Nat.compare_eq_lt] at hlt
    exact ⟨by omega, by omega, .inr ⟨by omega, by omega⟩⟩
  next hgt =>
    rw [Nat.compare_eq_gt] at hgt
    exact ⟨by omega, by omega, .inr ⟨by omega, by omega⟩⟩
  next heq =>
    rw [Nat.compare_eq_eq] at heq
    rcases Nat.mod_two_eq_zero_or_one (num / den) with heven | hodd
    · rw [heven, Nat.add_zero]
      exact ⟨by omega, by omega, .inl heven⟩
    · rw [hodd]
      exact ⟨by omega, by omega, .inl (by omega)⟩

theorem IsNearest.roundHalfEven_eq {n num den : Nat} (h : IsNearest n num den) (hden : 0 < den) :
    roundHalfEven num den = n := by
  obtain ⟨hlow, hhigh, htie⟩ := h
  have hsplit : num / den * den + num % den = num := Nat.div_add_mod' num den
  have hmod := Nat.mod_lt num hden
  have hle : num / den < n + 1 := by
    rw [Nat.div_lt_iff_lt_mul hden, Nat.add_mul]
    omega
  have hge : n < num / den + 2 := by
    refine Nat.lt_of_mul_lt_mul_right (a := den) ?_
    rw [Nat.add_mul]
    omega
  unfold roundHalfEven
  dsimp only
  obtain heq | heq : n = num / den ∨ n = num / den + 1 := by omega
  · rw [heq] at hhigh htie ⊢
    split
    next => rfl
    next h =>
      rw [Nat.compare_eq_gt] at h
      omega
    next h =>
      rw [Nat.compare_eq_eq] at h
      omega
  · rw [heq] at hlow htie ⊢
    rw [Nat.add_mul] at hlow htie
    split
    next h =>
      rw [Nat.compare_eq_lt] at h
      omega
    next => rfl
    next h =>
      rw [Nat.compare_eq_eq] at h
      omega

namespace Number

variable {x : Finite} {num den : Nat}

/-- A quotient that has the scale of a double and rounds to its significand is rounded to it. -/
theorem ofQuotient_eq (hscale : scaleFor (num / den) = x.scale)
    (hnear : IsNearest x.significand num (den * 2 ^ x.scale)) (hden : 0 < den) :
    ofQuotient x.negative num den = finite x := by
  have hsignificand : roundHalfEven num (den <<< x.scale) = x.significand := by
    rw [Nat.shiftLeft_eq]
    exact hnear.roundHalfEven_eq (Nat.mul_pos hden (Nat.two_pow_pos _))
  unfold ofQuotient
  simp only [hscale, hsignificand, x.significand_lt, dif_pos, place, x.scale_le]

/-- A quotient that is a double is not rounded. -/
theorem ofQuotient_mul (x : Finite) (hden : 0 < den) :
    ofQuotient x.negative (x.units * den) den = finite x := by
  have hnum : x.units * den = x.significand * (den * 2 ^ x.scale) := by
    rw [Finite.units, Nat.shiftLeft_eq]
    ring
  refine ofQuotient_eq ?_ ?_ hden
  · rw [Nat.mul_div_cancel _ hden, x.scaleFor_units]
  · have hstep : 0 < den * 2 ^ x.scale := Nat.mul_pos hden (Nat.two_pow_pos _)
    rw [hnum]
    exact ⟨by omega, by omega, .inr ⟨by omega, by omega⟩⟩

/-- A quotient of 53 bits has the scale that leaves them. -/
theorem scaleFor_div {k : Nat} (hlow : 2 ^ 52 * (den * 2 ^ k) ≤ num)
    (hhigh : num < 2 ^ 53 * (den * 2 ^ k)) (hden : 0 < den) : scaleFor (num / den) = k := by
  have hle : 2 ^ (52 + k) ≤ num / den := by
    rw [Nat.le_div_iff_mul_le hden, Nat.pow_add]
    exact Nat.le_trans (Nat.le_of_eq (by ring)) hlow
  have hlt : num / den < 2 ^ (52 + k + 1) := by
    rw [Nat.div_lt_iff_lt_mul hden, Nat.add_right_comm, Nat.pow_add]
    exact Nat.lt_of_lt_of_eq hhigh (by ring)
  have hpos := Nat.two_pow_pos (52 + k)
  have hlog : (num / den).log2 = 52 + k := (Nat.log2_eq_iff (by omega)).mpr ⟨hle, hlt⟩
  rw [scaleFor, hlog, Nat.add_sub_cancel_left]

theorem scaleFor_div_zero (hhigh : num < 2 ^ 53 * den) (hden : 0 < den) :
    scaleFor (num / den) = 0 := by
  have hlt : num / den < 2 ^ 53 := (Nat.div_lt_iff_lt_mul hden).mpr hhigh
  unfold scaleFor
  by_cases hzero : num / den = 0
  · rw [hzero]
    rfl
  · have := (Nat.log2_lt hzero).mpr hlt
    omega

namespace Finite

theorem quarters_mul (x : Finite) (den : Nat) :
    x.quarters * den = 4 * (x.significand * (den * 2 ^ x.scale)) := by
  rw [quarters, units, Nat.shiftLeft_eq]
  ring

theorem upperEnd_mul (x : Finite) (den : Nat) :
    x.upperEnd * den = 4 * (x.significand * (den * 2 ^ x.scale)) + 2 * (den * 2 ^ x.scale) := by
  rw [upperEnd, Nat.add_mul, quarters_mul, Nat.shiftLeft_eq]
  ring

/-- The lower end of the interval, but for the powers of two. -/
theorem lowerEnd_mul (hcommon : ¬ (x.significand = leadingBit ∧ x.scale ≠ 0)) (den : Nat) :
    x.lowerEnd * den
      = 4 * (x.significand * (den * 2 ^ x.scale)) - 2 * (den * 2 ^ x.scale) := by
  rw [lowerEnd, if_neg hcommon, Nat.sub_mul, quarters_mul, Nat.shiftLeft_eq]
  ring_nf

theorem lowerEnd_mul_leadingBit (hpower : x.significand = leadingBit ∧ x.scale ≠ 0) (den : Nat) :
    x.lowerEnd * den = 4 * (leadingBit * (den * 2 ^ x.scale)) - den * 2 ^ x.scale := by
  rw [lowerEnd, if_pos hpower, Nat.sub_mul, quarters_mul, Nat.shiftLeft_eq, hpower.1]
  ring_nf

theorem isNearest_of_roundsHere (h : x.roundsHere (4 * num) den)
    (hcommon : ¬ (x.significand = leadingBit ∧ x.scale ≠ 0)) :
    IsNearest x.significand num (den * 2 ^ x.scale) := by
  unfold roundsHere at h
  rw [lowerEnd_mul hcommon, upperEnd_mul] at h
  split at h
  next heven =>
    simp only [Bool.and_eq_true, decide_eq_true_eq] at h
    exact ⟨by omega, by omega, .inl heven⟩
  next =>
    simp only [Bool.and_eq_true, decide_eq_true_eq] at h
    exact ⟨by omega, by omega, .inr ⟨by omega, by omega⟩⟩

end Finite

/-- Below a power of two the significand rounds up to a 54th bit, which is carried. -/
theorem ofQuotient_below_leadingBit {k : Nat} (hsignificand : x.significand = leadingBit)
    (hscale : x.scale = k + 1) (hnear : IsNearest (2 ^ 53) num (den * 2 ^ k))
    (hbelow : num < 2 ^ 53 * (den * 2 ^ k)) (hden : 0 < den) :
    ofQuotient x.negative num den = finite x := by
  have hstep : 0 < den * 2 ^ k := Nat.mul_pos hden (Nat.two_pow_pos _)
  have hlow := hnear.low
  have hk : scaleFor (num / den) = k := scaleFor_div (by omega) hbelow hden
  have hcarry : roundHalfEven num (den <<< k) = 2 ^ 53 := by
    rw [Nat.shiftLeft_eq]
    exact hnear.roundHalfEven_eq hstep
  have hle : k + 1 ≤ 2045 := hscale ▸ x.scale_le
  have hbits : ¬ 2 ^ 53 < 2 * leadingBit := by decide
  unfold ofQuotient
  simp only [hk, hcarry, hbits, dif_neg, not_false_eq_true, place, dif_pos hle]
  congr 1
  cases x
  simp_all

/-- A quotient that rounds to a double is rounded to it. -/
theorem ofQuotient_of_roundsHere (h : x.roundsHere (4 * num) den) (hden : 0 < den) :
    ofQuotient x.negative num den = finite x := by
  have hstep : 0 < den * 2 ^ x.scale := Nat.mul_pos hden (Nat.two_pow_pos _)
  by_cases hpower : x.significand = leadingBit ∧ x.scale ≠ 0
  · obtain ⟨k, hk⟩ := Nat.exists_eq_succ_of_ne_zero hpower.2
    have heven : x.significand % 2 = 0 := by
      rw [hpower.1]
      decide
    have hbits : leadingBit = 2 ^ 52 := rfl
    rw [Finite.roundsHere, if_pos heven, Finite.lowerEnd_mul_leadingBit hpower, Finite.upperEnd_mul,
      hpower.1, hbits] at h
    simp only [Bool.and_eq_true, decide_eq_true_eq] at h
    rcases Nat.lt_or_ge num (2 ^ 52 * (den * 2 ^ x.scale)) with hbelow | hge
    · have hdouble : den * 2 ^ x.scale = 2 * (den * 2 ^ k) := by
        rw [hk, Nat.pow_succ]
        ring
      rw [hdouble] at h hbelow
      exact ofQuotient_below_leadingBit hpower.1 hk ⟨by omega, by omega, .inl (by decide)⟩
        (by omega) hden
    · refine ofQuotient_eq (scaleFor_div hge (by omega) hden) ?_ hden
      rw [hpower.1, hbits]
      exact ⟨by omega, by omega, .inl (by decide)⟩
  · have hnear := Finite.isNearest_of_roundsHere h hpower
    have hhigh : num < 2 ^ 53 * (den * 2 ^ x.scale) := by
      have hbits : (x.significand + 1) * (den * 2 ^ x.scale) ≤ 2 ^ 53 * (den * 2 ^ x.scale) :=
        Nat.mul_le_mul_right _ x.significand_lt
      have hnearby := hnear.high
      rw [Nat.add_mul] at hbits
      omega
    refine ofQuotient_eq ?_ hnear hden
    by_cases hscale : x.scale = 0
    · rw [hscale] at hhigh ⊢
      exact scaleFor_div_zero (by simpa using hhigh) hden
    · have hmore : leadingBit < x.significand :=
        Nat.lt_of_le_of_ne (x.normal.resolve_right hscale) fun h => hpower ⟨h.symm, hscale⟩
      have hbits : (2 ^ 52 + 1) * (den * 2 ^ x.scale) ≤ x.significand * (den * 2 ^ x.scale) :=
        Nat.mul_le_mul_right _ hmore
      have hnearby := hnear.low
      rw [Nat.add_mul] at hbits
      exact scaleFor_div (by omega) hhigh hden

end Number

end TemplateExpr
