import TemplateExpr.Text.Search

/-!
# Splitting

The pieces of a text, with the separator between them, are the text again (`intercalate_split`). A
cut is around the first occurrence, so the separator is not in the piece before it, and there are
cuts enough for all occurrences: the separator is in no piece (`not_infix_of_mem_split`).

A separator of one character cuts a text wherever the character stands, which is `List.splitOn`
(`split_singleton`).
-/

namespace TemplateExpr.Text

/-! ## Pieces -/

section

variable {separator cs before after piece : List Char}

/-- The separator does not occur in front of its first occurrence. -/
theorem not_infix_of_cutAt? (hne : separator ≠ []) (h : cutAt? separator cs = some (before, after)) :
    ¬ separator <:+: before := by
  rintro ⟨front, back, hbefore⟩
  have hearlier : front ++ separator ++ (back ++ separator ++ after) = cs := by
    rw [← cutAt?_eq_some h, ← hbefore]
    simp only [List.append_assoc]
  have hle := length_le_of_cutAt? h hearlier
  have hpos := List.length_pos_iff.mpr hne
  rw [← hbefore, List.length_append, List.length_append] at hle
  omega

theorem not_infix_of_cutAt?_eq_none (h : cutAt? separator cs = none) : ¬ separator <:+: cs := by
  rw [← contains_iff_infix, contains, h]
  exact Bool.false_ne_true

/-- A cut takes the separator away, and what is left is shorter. -/
theorem length_lt_of_cutAt? (hne : separator ≠ []) (h : cutAt? separator cs = some (before, after)) :
    after.length < cs.length := by
  have hpos := List.length_pos_iff.mpr hne
  rw [← cutAt?_eq_some h, List.length_append, List.length_append]
  omega

theorem splitAtMost_ne_nil (separator : List Char) (cuts : Nat) (cs : List Char) :
    splitAtMost separator cuts cs ≠ [] := by
  cases cuts with
  | zero => exact List.cons_ne_nil _ _
  | succ cuts =>
    rw [splitAtMost]
    split <;> exact List.cons_ne_nil _ _

/-- However many cuts there are, they lose nothing. -/
theorem intercalate_splitAtMost (separator : List Char) (cuts : Nat) (cs : List Char) :
    separator.intercalate (splitAtMost separator cuts cs) = cs := by
  induction cuts generalizing cs with
  | zero => exact List.intercalate_singleton
  | succ cuts ih =>
    rw [splitAtMost]
    split
    next => exact List.intercalate_singleton
    next before after h =>
      rw [List.intercalate_cons_of_ne_nil (splitAtMost_ne_nil separator cuts after), ih]
      exact cutAt?_eq_some h

/-- With as many cuts as characters, no occurrence is left. -/
theorem not_infix_of_mem_splitAtMost {cuts : Nat} (hne : separator ≠ []) (hcuts : cs.length ≤ cuts)
    (hpiece : piece ∈ splitAtMost separator cuts cs) : ¬ separator <:+: piece := by
  induction cuts generalizing cs with
  | zero =>
    obtain rfl : cs = [] := List.length_eq_zero_iff.mp (Nat.le_zero.mp hcuts)
    obtain rfl : piece = [] := List.mem_singleton.mp hpiece
    exact fun h => hne (List.infix_nil.mp h)
  | succ cuts ih =>
    rw [splitAtMost] at hpiece
    split at hpiece
    next h =>
      obtain rfl : piece = cs := List.mem_singleton.mp hpiece
      exact not_infix_of_cutAt?_eq_none h
    next before after h =>
      rcases List.mem_cons.mp hpiece with rfl | hrest
      · exact not_infix_of_cutAt? hne h
      · have hshorter := length_lt_of_cutAt? hne h
        exact ih (by omega) hrest

theorem intercalate_split (separator cs : List Char) :
    separator.intercalate (split separator cs) = cs :=
  intercalate_splitAtMost separator cs.length cs

theorem not_infix_of_mem_split (hne : separator ≠ []) (hpiece : piece ∈ split separator cs) :
    ¬ separator <:+: piece :=
  not_infix_of_mem_splitAtMost hne (Nat.le_refl _) hpiece

/-- The characters of a text are its pieces around nothing. -/
theorem intercalate_nil_map_singleton (cs : List Char) :
    List.intercalate [] (cs.map ([·])) = cs := by
  induction cs with
  | nil => rfl
  | cons c cs ih =>
    cases cs with
    | nil => rfl
    | cons d cs =>
      rw [List.map_cons, List.intercalate_cons_of_ne_nil (by simp), ih]
      rfl

end

/-! ## Separators of one character -/

variable (separator : Char)

theorem splitAtMost_cons_self (cuts : Nat) (cs : List Char) :
    splitAtMost [separator] (cuts + 1) (separator :: cs) =
      [] :: splitAtMost [separator] cuts cs := by
  simp [splitAtMost, cutAt?]

/-- A character that is no separator goes to the piece behind it. -/
theorem splitAtMost_cons_of_ne {c : Char} (h : c ≠ separator) (cuts : Nat) (cs : List Char) :
    splitAtMost [separator] cuts (c :: cs) =
      (splitAtMost [separator] cuts cs).modifyHead (c :: ·) := by
  cases cuts with
  | zero => rfl
  | succ cuts =>
    have hcut : cutAt? [separator] (c :: cs) =
        (cutAt? [separator] cs).map fun pieces => (c :: pieces.1, pieces.2) := by
      simp [cutAt?, Ne.symm h]
    simp only [splitAtMost, hcut]
    cases cutAt? [separator] cs <;> rfl

theorem splitAtMost_singleton {cuts : Nat} {cs : List Char} (h : cs.length ≤ cuts) :
    splitAtMost [separator] cuts cs = cs.splitOn separator := by
  induction cs generalizing cuts with
  | nil => cases cuts <;> rfl
  | cons c cs ih =>
    rw [List.length_cons] at h
    obtain ⟨fewer, rfl⟩ := Nat.exists_eq_add_of_le' (Nat.le_of_add_left_le h)
    rw [List.splitOn_cons_eq_if_modifyHead]
    by_cases hc : c = separator
    · subst hc
      rw [splitAtMost_cons_self, ih (Nat.le_of_add_le_add_right h), if_pos BEq.rfl]
    · rw [splitAtMost_cons_of_ne separator hc, ih (Nat.le_of_succ_le h), if_neg (by simpa using hc)]

theorem split_singleton (cs : List Char) : split [separator] cs = cs.splitOn separator :=
  splitAtMost_singleton separator (Nat.le_refl _)

end TemplateExpr.Text
