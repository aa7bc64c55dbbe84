/-!
# Searching in text

`cutAt?` cuts a text around the first occurrence of another. Searching, positions and splitting
are all read off that cut: `cutAt?_eq_some` says that a cut loses nothing.
-/

namespace TemplateExpr.Text

/-- The text before and after the first occurrence of `part`. -/
def cutAt? (part : List Char) : List Char → Option (List Char × List Char)
  | [] => if part.isEmpty then some ([], []) else none
  | c :: cs =>
    if part.isPrefixOf (c :: cs) then some ([], (c :: cs).drop part.length)
    else (cutAt? part cs).map fun (before, after) => (c :: before, after)

theorem cutAt?_eq_some {part cs before after : List Char}
    (h : cutAt? part cs = some (before, after)) : before ++ part ++ after = cs := by
  induction cs generalizing before with
  | nil =>
    simp only [cutAt?] at h
    split at h
    · rename_i hp
      simp only [Option.some.injEq, Prod.mk.injEq] at h
      simp [List.isEmpty_iff.mp hp, ← h.1, ← h.2]
    · cases h
  | cons c cs ih =>
    simp only [cutAt?] at h
    split at h
    · rename_i hp
      simp only [Option.some.injEq, Prod.mk.injEq] at h
      obtain ⟨rest, hrest⟩ := List.isPrefixOf_iff_prefix.mp hp
      rw [← h.1, ← h.2, ← hrest]
      simp
    · simp only [Option.map_eq_some_iff, Prod.exists, Prod.mk.injEq] at h
      obtain ⟨b, a, hcut, rfl, rfl⟩ := h
      simpa using ih hcut

/-- No occurrence has less text before it. -/
theorem length_le_of_cutAt? {part cs before after before' after' : List Char}
    (h : cutAt? part cs = some (before, after)) (h' : before' ++ part ++ after' = cs) :
    before.length ≤ before'.length := by
  induction cs generalizing before before' with
  | nil =>
    simp only [cutAt?] at h
    split at h
    · cases h
      exact Nat.zero_le _
    · cases h
  | cons c cs ih =>
    simp only [cutAt?] at h
    split at h
    · cases h
      exact Nat.zero_le _
    · rename_i hp
      simp only [Option.map_eq_some_iff, Prod.exists, Prod.mk.injEq] at h
      obtain ⟨b, a, hcut, rfl, rfl⟩ := h
      cases before' with
      | nil => exact absurd (List.isPrefixOf_iff_prefix.mpr ⟨after', h'⟩) hp
      | cons c' before' => exact Nat.succ_le_succ (ih hcut (List.cons.inj h').2)

/-- Whether `part` occurs in a text. -/
def contains (cs part : List Char) : Bool := (cutAt? part cs).isSome

theorem contains_iff_infix {cs part : List Char} : contains cs part ↔ part <:+: cs := by
  unfold contains
  induction cs with
  | nil => cases part <;> simp [cutAt?]
  | cons c cs ih =>
    rw [cutAt?, List.infix_cons_iff, ← ih, ← List.isPrefixOf_iff_prefix]
    split
    next hfront => simp [hfront]
    next hfront => simp [hfront]

/-- Cuts a text at each occurrence of a separator, at most the given number of times. -/
def splitAtMost (separator : List Char) : Nat → List Char → List (List Char)
  | 0, cs => [cs]
  | cuts + 1, cs =>
    match cutAt? separator cs with
    | none => [cs]
    | some (before, after) => before :: splitAtMost separator cuts after

/-- The pieces between the occurrences of a separator that is not empty. Each cut takes at least
one character, so the length of the text bounds their number. -/
def split (separator cs : List Char) : List (List Char) := splitAtMost separator cs.length cs

end TemplateExpr.Text
