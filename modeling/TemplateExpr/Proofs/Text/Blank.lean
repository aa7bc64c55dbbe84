import Mathlib.Data.List.DropRight
import TemplateExpr.Proofs.Text.Digits
import TemplateExpr.Proofs.Text.Runs
import TemplateExpr.Text.Blank

/-!
# White space around a text

Trimming leaves nothing of a text of blanks, and all of a text without a blank. A digit is no blank.
-/

namespace TemplateExpr

theorem Text.trim_eq_nil_iff {cs : List Char} : trim cs = [] ↔ ∀ c ∈ cs, isBlank c := by
  have hstart : trim cs = [] ↔ ∀ c ∈ trimStart cs, isBlank c := by
    rw [trim, trimEnd, List.reverse_eq_nil_iff, List.dropWhile_eq_nil_iff]
    simp only [List.mem_reverse]
  rw [hstart]
  constructor
  · intro h
    -- The characters behind the blanks at the front do not start with a blank, so there are none.
    have hnil : trimStart cs = [] := by
      rw [trimStart, ← List.dropWhile_idempotent]
      exact List.dropWhile_eq_nil_iff.mpr h
    exact List.dropWhile_eq_nil_iff.mp hnil
  · exact fun h c hc => h c ((List.dropWhile_sublist _).mem hc)

theorem Text.trimmed_eq_empty_iff {s : String} : trimmed s = "" ↔ ∀ c ∈ s.toList, isBlank c := by
  rw [← trim_eq_nil_iff, trimmed]
  constructor
  · intro h
    simpa using congrArg String.toList h
  · intro h
    rw [h]

/-- Where no character is blank there is nothing to trim. -/
theorem Text.trimStart_eq_self {cs : List Char} (h : ∀ c ∈ cs, ¬ isBlank c) :
    trimStart cs = cs := by
  have hnil : ∀ c ∈ ([] : List Char), isBlank c := by simp
  exact dropWhile_append_of_stop hnil fun c hc => h c (List.mem_of_mem_head? hc)

theorem Text.trim_eq_self {cs : List Char} (h : ∀ c ∈ cs, ¬ isBlank c) : trim cs = cs := by
  have hreverse : (cs.reverse).dropWhile isBlank = cs.reverse :=
    trimStart_eq_self fun c hc => h c (List.mem_reverse.mp hc)
  rw [trim, trimStart_eq_self h, trimEnd, hreverse, List.reverse_reverse]

/-- Between two characters that are not blank nothing is trimmed. -/
theorem Text.trim_cons_concat {first last : Char} (hfirst : ¬ isBlank first) (hlast : ¬ isBlank last)
    (cs : List Char) : trim (first :: (cs ++ [last])) = first :: (cs ++ [last]) := by
  have hstart : trimStart (first :: (cs ++ [last])) = first :: (cs ++ [last]) :=
    List.dropWhile_cons_of_neg hfirst
  rw [trim, hstart, trimEnd, ← List.cons_append, List.reverse_append, List.reverse_singleton,
    List.singleton_append, List.dropWhile_cons_of_neg hlast, List.reverse_cons, List.reverse_reverse]

/-- Trimming at the front leaves blanks at the back. -/
theorem Text.exists_trimStart_eq (cs : List Char) :
    ∃ after, trimStart cs = trim cs ++ after ∧ ∀ c ∈ after, isBlank c := by
  refine ⟨((trimStart cs).reverse.takeWhile isBlank).reverse, ?_,
    fun c hc => List.mem_takeWhile_imp (List.mem_reverse.mp hc)⟩
  rw [trim, trimEnd, ← List.reverse_append, List.takeWhile_append_dropWhile, List.reverse_reverse]

theorem not_isBlank_of_isDigit {c : Char} (h : c.isDigit) : ¬ Text.isBlank c := by
  have hrange := toNat_of_isDigit h
  simp only [Text.isBlank, Bool.or_eq_true, Bool.and_eq_true, decide_eq_true_eq, beq_iff_eq]
  omega

end TemplateExpr
