import TemplateExpr.Text.Units

/-!
# Characters and code units

A text has at least as many code units as characters, and it has as many exactly if all of its
characters are in the basic plane (`unitLength_eq_length_iff`).
-/

namespace TemplateExpr.Text

/-- The character is in the basic plane: it is one code unit. -/
def IsBasic (c : Char) : Prop := c.toNat < 0x10000

instance : DecidablePred IsBasic := fun c => inferInstanceAs (Decidable (c.toNat < 0x10000))

theorem unitLength_cons (c : Char) (cs : List Char) :
    unitLength (c :: cs) = (if IsBasic c then 1 else 2) + unitLength cs := by
  have hunits : (codeUnits c).length = if IsBasic c then 1 else 2 := by
    by_cases h : c.toNat < 0x10000 <;> simp [codeUnits, IsBasic, h]
  rw [unitLength, List.flatMap_cons, List.length_append, hunits]
  rfl

theorem length_le_unitLength (cs : List Char) : cs.length ≤ unitLength cs := by
  induction cs with
  | nil => exact Nat.le_refl 0
  | cons c cs ih =>
    rw [unitLength_cons, List.length_cons]
    split <;> omega

/-- The two counts are the same for texts in the basic plane only. -/
theorem unitLength_eq_length_iff {cs : List Char} :
    unitLength cs = cs.length ↔ ∀ c ∈ cs, IsBasic c := by
  induction cs with
  | nil => simp [unitLength]
  | cons c cs ih =>
    have hle := length_le_unitLength cs
    rw [unitLength_cons, List.length_cons, List.forall_mem_cons, ← ih]
    split
    next hbasic =>
      simp only [hbasic, true_and]
      omega
    next hbasic =>
      simp only [hbasic, false_and, iff_false]
      omega

/-- What is cut out at a count of units, behind characters of the basic plane. -/
theorem take_drop_unitLength_iff {before part after : List Char} (h : ∀ c ∈ before, IsBasic c) :
    ((before ++ part ++ after).drop (unitLength before)).take (unitLength part) = part ↔
      (∀ c ∈ part, IsBasic c) ∨ after = [] := by
  have hle := length_le_unitLength part
  rw [unitLength_eq_length_iff.mpr h, List.append_assoc, List.drop_left,
    List.take_append, List.take_of_length_le hle, ← unitLength_eq_length_iff,
    List.append_right_eq_self, List.take_eq_nil_iff, Nat.sub_eq_zero_iff_le]
  exact or_congr_left ⟨fun h => Nat.le_antisymm h hle, Nat.le_of_eq⟩

end TemplateExpr.Text
