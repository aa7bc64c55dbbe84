import Mathlib.Data.Int.ConditionallyCompleteOrder
import Mathlib.Order.ConditionallyCompleteLattice.Basic
import TemplateExpr.Proofs.Number.Written

/-!
# The line of numbers

All numbers but not-a-number have a place on a line, from negative infinity to positive infinity, and
the comparisons are those of the places. Two numbers at one place are the same, or they are the two
zeros (`readBack_eq_of_onLine_eq`). The lesser and the greater of two numbers are chosen by their
places (`min_spec`, `max_spec`).
-/

namespace TemplateExpr.Number

/-- The place of a number on the line. Not-a-number has none; what is given for it does not matter. -/
def onLine : Number → WithBot (WithTop Int)
  | nan | infinite true => ⊥
  | infinite false => (⊤ : WithTop Int)
  | finite x => (x.signed : WithTop Int)

theorem isNaN_of_ne_nan {n : Number} (h : n ≠ nan) : n.isNaN = false := by
  cases n with
  | nan => exact absurd rfl h
  | infinite negative => rfl
  | finite x => rfl

variable {a b : Number} (ha : a ≠ nan) (hb : b ≠ nan)
include ha hb

theorem less_iff_onLine_lt : a.less b ↔ a.onLine < b.onLine := by
  cases a with
  | nan => exact absurd rfl ha
  | infinite s => cases b with
    | nan => exact absurd rfl hb
    | infinite t => cases s <;> cases t <;> simp [less, compare?, onLine] <;> decide
    | finite y => cases s <;> simp [less, compare?, onLine]
  | finite x => cases b with
    | nan => exact absurd rfl hb
    | infinite t => cases t with
      | true => simp [less, compare?, onLine]
      | false => exact iff_of_true rfl (WithBot.coe_lt_coe.mpr (WithTop.coe_lt_top x.signed))
    | finite y => simp [less, compare?, onLine, Int.compare_eq_lt]

theorem equal_iff_onLine_eq : a.equal b ↔ a.onLine = b.onLine := by
  cases a with
  | nan => exact absurd rfl ha
  | infinite s => cases b with
    | nan => exact absurd rfl hb
    | infinite t => cases s <;> cases t <;> simp [equal, compare?, onLine]
    | finite y => cases s <;> simp [equal, compare?, onLine]
  | finite x => cases b with
    | nan => exact absurd rfl hb
    | infinite t => cases t <;> simp [equal, compare?, onLine]
    | finite y => simp [equal, compare?, onLine]

theorem atMost_iff_onLine_le : a.atMost b ↔ a.onLine ≤ b.onLine := by
  have hsplit : a.atMost b ↔ a.less b ∨ a.equal b := Bool.or_eq_true _ _ ▸ Iff.rfl
  rw [hsplit, less_iff_onLine_lt ha hb, equal_iff_onLine_eq ha hb, le_iff_lt_or_eq]

/-- Where two numbers have the same place, only the sign of a zero can tell them apart. -/
theorem readBack_eq_of_onLine_eq (h : a.onLine = b.onLine) : a.readBack = b.readBack := by
  rcases equal_iff.mp ((equal_iff_onLine_eq ha hb).mpr h) with ⟨s, rfl, rfl⟩ | ⟨x, y, rfl, rfl, hxy⟩
  · rfl
  have hunits : x.units = y.units := by rw [← x.natAbs_signed, hxy, y.natAbs_signed]
  have hzero {z : Finite} (hz : z.units = 0) : (finite z).readBack = zero false := by
    have hsignificand : z.significand = 0 := by
      refine Decidable.byContradiction fun hne => ?_
      have := Finite.two_pow_le_units hne
      have := Nat.two_pow_pos z.scale
      omega
    rw [z.eq_zero hsignificand]
    exact readBack_zero _
  by_cases hx : x.units = 0
  · rw [hzero hx, hzero (hunits ▸ hx)]
  · have hnegative : x.negative = y.negative := by
      unfold Finite.signed at hxy
      cases hxs : x.negative <;> cases hys : y.negative <;>
        simp only [hxs, hys, if_true, Bool.false_eq_true, if_false] at hxy ⊢ <;> omega
    rw [← ofUnits_units x, ← ofUnits_units y, hnegative, hunits]

/-- The lesser of two numbers is one of them, and not behind either. -/
theorem min_spec : (min a b = a ∨ min a b = b) ∧ (min a b).onLine ≤ a.onLine ∧
    (min a b).onLine ≤ b.onLine := by
  unfold min
  rw [isNaN_of_ne_nan ha, isNaN_of_ne_nan hb, if_neg Bool.false_ne_true, if_neg Bool.false_ne_true]
  by_cases hless : b.less a
  · rw [if_pos hless]
    exact ⟨.inr rfl, le_of_lt ((less_iff_onLine_lt hb ha).mp hless), le_refl _⟩
  · rw [if_neg hless]
    exact ⟨.inl rfl, le_refl _, le_of_not_gt (mt (less_iff_onLine_lt hb ha).mpr hless)⟩

/-- The greater of two numbers is one of them, and not before either. -/
theorem max_spec : (max a b = a ∨ max a b = b) ∧ a.onLine ≤ (max a b).onLine ∧
    b.onLine ≤ (max a b).onLine := by
  unfold max
  rw [isNaN_of_ne_nan ha, isNaN_of_ne_nan hb, if_neg Bool.false_ne_true, if_neg Bool.false_ne_true]
  by_cases hless : a.less b
  · rw [if_pos hless]
    exact ⟨.inr rfl, le_of_lt ((less_iff_onLine_lt ha hb).mp hless), le_refl _⟩
  · rw [if_neg hless]
    exact ⟨.inl rfl, le_refl _, le_of_not_gt (mt (less_iff_onLine_lt ha hb).mpr hless)⟩

end TemplateExpr.Number
