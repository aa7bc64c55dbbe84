import TemplateExpr.Number.Basic

/-!
# Rounding to the nearest double

`ofQuotient` is the one place where precision is lost: it takes the exact magnitude of a result,
a quotient of natural numbers counted in units of `2^-1074`, to the nearest double, ties to the
even significand, overflowing to infinity. Every arithmetic operation, every whole number and
every decimal numeral goes through it, so none of them rounds twice.

`roundHalfEven` never goes below the whole part (`le_roundHalfEven`), and leaves what is whole as it is
(`roundHalfEven_mul_self`).
-/

namespace TemplateExpr

/-- The natural number nearest to `num / den`; of two equally near the even one. -/
def roundHalfEven (num den : Nat) : Nat :=
  let whole := num / den
  match compare (2 * (num % den)) den with
  | .lt => whole
  | .gt => whole + 1
  | .eq => whole + whole % 2

theorem le_roundHalfEven (num den : Nat) : num / den ≤ roundHalfEven num den := by
  unfold roundHalfEven
  dsimp only
  split <;> omega

/-- A quotient without remainder is its own rounding. -/
theorem roundHalfEven_mul_self (n : Nat) {den : Nat} (h : 0 < den) :
    roundHalfEven (n * den) den = n := by
  have hc : compare 0 den = .lt := Nat.compare_eq_lt.mpr h
  simp [roundHalfEven, hc, Nat.mul_div_cancel n h]

namespace Number

/-- The finite double with these digits, or infinity if the scale is out of range. -/
def place (negative : Bool) (significand scale : Nat) (significand_lt : significand < 2 * leadingBit)
    (normal : leadingBit ≤ significand ∨ scale = 0) : Number :=
  if scale_le : scale ≤ 2045 then
    .finite { negative, significand, scale, significand_lt, normal, scale_le }
  else .infinite negative

/-- The scale at which a magnitude of `units` has 53 significant bits, or the least scale. -/
def scaleFor (units : Nat) : Nat := units.log2 - 52

theorem normal_at_scaleFor (num den : Nat) :
    leadingBit ≤ roundHalfEven num (den <<< scaleFor (num / den)) ∨ scaleFor (num / den) = 0 := by
  by_cases h : scaleFor (num / den) = 0
  · exact .inr h
  · refine .inl (Nat.le_trans ?_ (le_roundHalfEven _ _))
    rw [show leadingBit = 2 ^ 52 from rfl, Nat.shiftLeft_eq, ← Nat.div_div_eq_div_mul, Nat.le_div_iff_mul_le (Nat.two_pow_pos _), ← Nat.pow_add]
    have hq : num / den ≠ 0 := by
      intro h0
      exact h (by simp [scaleFor, h0])
    have hs : 52 + scaleFor (num / den) = (num / den).log2 := by
      unfold scaleFor at h ⊢
      omega
    exact hs ▸ Nat.log2_self_le hq

/-- The double nearest to `± num / den` units of `2^-1074`, ties to the even significand. -/
def ofQuotient (negative : Bool) (num den : Nat) : Number :=
  let scale := scaleFor (num / den)
  let significand := roundHalfEven num (den <<< scale)
  if h : significand < 2 * leadingBit then
    place negative significand scale h (normal_at_scaleFor num den)
  else
    place negative leadingBit (scale + 1) (by decide) (.inl (Nat.le_refl _))

/-- The double nearest to `± units` units of `2^-1074`. -/
def ofUnits (negative : Bool) (units : Nat) : Number := ofQuotient negative units 1

/-- The double nearest to a whole number; a zero is positive. -/
def ofInt (i : Int) : Number := ofUnits (i < 0) (i.natAbs * unitsPerOne)

/-- The double nearest to a natural number. -/
def ofNat (n : Nat) : Number := ofUnits false (n * unitsPerOne)

instance (n : Nat) : OfNat Number n := ⟨ofNat n⟩

instance : Inhabited Number := ⟨0⟩

@[simp] theorem isNaN_ofQuotient (negative : Bool) (num den : Nat) :
    (ofQuotient negative num den).isNaN = false := by
  unfold ofQuotient
  dsimp only
  split <;> unfold place <;> split <;> rfl

@[simp] theorem isNaN_ofUnits (negative : Bool) (units : Nat) :
    (ofUnits negative units).isNaN = false :=
  isNaN_ofQuotient negative units 1

theorem isNaN_natural (n : Nat) : (OfNat.ofNat n : Number).isNaN = false :=
  isNaN_ofUnits false _

/-- The double nearest to `± digits · 10^exponent`.

Numerals beyond any double are settled by their size, so that an exponent of a million digits
costs no more than the reading of it. -/
def ofDecimal (negative : Bool) (digits : Nat) (exponent : Int) : Number :=
  if digits = 0 then zero negative
  else if 400 < exponent then infinite negative
  else if exponent < -401 - digits.log2 then zero negative
  else if 0 ≤ exponent then ofUnits negative (digits * Nat.pow 10 exponent.toNat * unitsPerOne)
  else ofQuotient negative (digits * unitsPerOne) (Nat.pow 10 (-exponent).toNat)

end Number

end TemplateExpr
