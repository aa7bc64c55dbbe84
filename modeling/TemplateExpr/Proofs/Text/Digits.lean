import Mathlib.Algebra.Group.Nat.Defs

/-!
# Decimal digits

A digit is a single byte, and so many digits denote a number below that power of ten.
-/

namespace TemplateExpr

theorem toNat_of_isDigit {c : Char} (h : c.isDigit) : 48 ≤ c.toNat ∧ c.toNat ≤ 57 := by
  simp only [Char.isDigit, Bool.and_eq_true, decide_eq_true_eq, UInt32.le_iff_toNat_le] at h
  exact h

theorem toNat_le_of_isDigit {c : Char} (h : c.isDigit) : c.toNat ≤ 57 := (toNat_of_isDigit h).2

theorem utf8Size_of_isDigit {c : Char} (h : c.isDigit) : c.utf8Size = 1 :=
  Char.utf8Size_eq_one_iff.mpr
    (UInt32.le_iff_toNat_le.mpr (Nat.le_trans (toNat_le_of_isDigit h) (by decide)))

theorem ne_point_of_isDigit {c : Char} (h : c.isDigit) : c ≠ '.' := by
  rintro rfl
  exact absurd h (by decide)

theorem ofDigitChars_lt {cs : List Char} (h : ∀ c ∈ cs, c.isDigit) :
    Nat.ofDigitChars 10 cs 0 < 10 ^ cs.length := by
  induction cs with
  | nil => simp
  | cons c cs ih =>
    obtain ⟨hc, hcs⟩ := List.forall_mem_cons.mp h
    have hdigit : c.toNat - '0'.toNat ≤ 9 := Nat.sub_le_sub_right (toNat_le_of_isDigit hc) 48
    have hmul := Nat.mul_le_mul_left (10 ^ cs.length) hdigit
    have hlt := ih hcs
    rw [Nat.ofDigitChars_cons, Nat.ofDigitChars_eq_ofDigitChars_zero, Nat.mul_zero, Nat.zero_add,
      List.length_cons, Nat.pow_succ]
    omega

end TemplateExpr
