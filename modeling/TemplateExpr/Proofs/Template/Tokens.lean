import Mathlib.Data.List.TakeWhile
import TemplateExpr.Template
import TemplateExpr.Text.Blank
import TemplateExpr.Value.Basic

/-!
# The tokens of a template

`Template.tokens` are the expressions in the braces of a text, from left to right. A text without a
dollar sign before a brace has none (`tokens_eq_nil`), and a text that is one token up to blanks
around it has that one (`tokens_of_single?_trim`), so that the shortcuts for such texts read the
same tokens as the scan.
-/

namespace TemplateExpr

namespace Segment

/-- The expression of a token. -/
def source? : Segment → Option String
  | literal _ => none
  | token source => some (.ofList source)

end Segment

namespace Template

/-- The expressions of the tokens of a text, from left to right. -/
def tokens (cs : List Char) : List String := (segments cs).filterMap Segment.source?

/-- The tokens of a template; a value that is no text has none. -/
def tokensOf : Value → List String
  | .string text => tokens text.toList
  | _ => []

/-! ## The shape of a token -/

theorem body?_append {source : List Char} (hne : source ≠ []) (hclosed : '}' ∉ source)
    (rest : List Char) : body? (source ++ '}' :: rest) = some (source, rest) := by
  have hopen : ∀ c ∈ source, (c != '}') = true := by
    intro c hc
    have hc' : c ≠ '}' := fun h => hclosed (h ▸ hc)
    simpa using hc'
  obtain ⟨c, source, rfl⟩ := List.exists_cons_of_ne_nil hne
  unfold body?
  rw [List.takeWhile_append_of_pos hopen, List.dropWhile_append_of_pos hopen,
    List.takeWhile_cons_of_neg (by decide), List.dropWhile_cons_of_neg (by decide),
    List.append_nil]

theorem source_ne_nil_of_body? {cs source rest : List Char} (h : body? cs = some (source, rest)) :
    source ≠ [] ∧ '}' ∉ source := by
  unfold body? at h
  split at h
  · rename_i c source' _ rest' htake _
    simp only [Option.some.injEq, Prod.mk.injEq] at h
    obtain ⟨rfl, -⟩ := h
    refine ⟨List.cons_ne_nil _ _, fun hmem => ?_⟩
    rw [← htake] at hmem
    simpa using List.mem_takeWhile_imp hmem
  · cases h

theorem body?_eq_some_iff {cs source rest : List Char} :
    body? cs = some (source, rest) ↔
      cs = source ++ '}' :: rest ∧ source ≠ [] ∧ '}' ∉ source := by
  constructor
  · intro h
    exact ⟨(body?_eq_some h).symm, source_ne_nil_of_body? h⟩
  · rintro ⟨rfl, hne, hclosed⟩
    exact body?_append hne hclosed rest

theorem single?_eq_some_iff {cs source : List Char} :
    single? cs = some source ↔
      cs = (Segment.token source).raw ∧ source ≠ [] ∧ '}' ∉ source := by
  constructor
  · intro h
    unfold single? at h
    split at h
    · rename_i cs'
      split at h
      · rename_i source' hbody
        obtain ⟨rfl, hne, hclosed⟩ := body?_eq_some_iff.mp hbody
        cases h
        exact ⟨rfl, hne, hclosed⟩
      · cases h
    · cases h
  · rintro ⟨rfl, hne, hclosed⟩
    simp only [Segment.raw, single?, body?_append hne hclosed]

/-! ## Where there are no tokens -/

theorem cutToken?_eq_none {cs : List Char} (h : hasToken cs = false) : cutToken? cs = none := by
  fun_induction cutToken? cs with
  | case1 => rfl
  | case2 cs _ _ _ => simp [hasToken] at h
  | case3 cs _ _ => simp [hasToken] at h
  | case4 c cs _ ih =>
    simp only [hasToken, Bool.or_eq_false_iff] at h
    rw [ih h.2, Option.map_none]

theorem hasToken_eq_false {cs : List Char} (h : '$' ∉ cs) : hasToken cs = false := by
  induction cs with
  | nil => rfl
  | cons c cs ih =>
    rw [List.mem_cons, not_or] at h
    simp [hasToken, ih h.2, List.isPrefixOf, h.1]

theorem segmentsWithin_eq_literal {cs : List Char} (h : hasToken cs = false) (n : Nat) :
    segmentsWithin n cs = literal cs := by
  cases n with
  | zero => rfl
  | succ n => simp only [segmentsWithin, cutToken?_eq_none h]

theorem filterMap_source?_literal (text : List Char) :
    (literal text).filterMap Segment.source? = [] := by
  unfold literal
  split <;> rfl

theorem tokens_eq_nil {cs : List Char} (h : hasToken cs = false) : tokens cs = [] := by
  rw [tokens, segments, segmentsWithin_eq_literal h, filterMap_source?_literal]

/-! ## Where there is one token -/

theorem cutToken?_append {before cs : List Char} (h : '$' ∉ before) :
    cutToken? (before ++ cs) = (cutToken? cs).map fun (b, found) => (before ++ b, found) := by
  induction before with
  | nil => simp
  | cons c before ih =>
    rw [List.mem_cons, not_or] at h
    rw [List.cons_append, cutToken?, ih h.2, Option.map_map]
    · rfl
    · intro cs' hc _
      exact h.1 hc.symm

theorem cutToken?_raw {source : List Char} (hne : source ≠ []) (hclosed : '}' ∉ source)
    (rest : List Char) :
    cutToken? ((Segment.token source).raw ++ rest) = some ([], source, rest) := by
  have hraw : (Segment.token source).raw ++ rest = '$' :: '{' :: (source ++ '}' :: rest) := by
    simp [Segment.raw]
  rw [hraw, cutToken?, body?_append hne hclosed]

/-- Blanks are no part of a token. -/
theorem dollar_not_mem {cs : List Char} (h : ∀ c ∈ cs, Text.isBlank c) : '$' ∉ cs := by
  intro hmem
  exact absurd (h '$' hmem) (by decide)

theorem exists_blanks_trim (cs : List Char) :
    ∃ before after, cs = before ++ (Text.trim cs ++ after) ∧
      (∀ c ∈ before, Text.isBlank c) ∧ ∀ c ∈ after, Text.isBlank c := by
  refine ⟨cs.takeWhile Text.isBlank, ((Text.trimStart cs).reverse.takeWhile Text.isBlank).reverse,
    ?_, fun c hc => List.mem_takeWhile_imp hc, fun c hc => ?_⟩
  · rw [Text.trim, Text.trimEnd, ← List.reverse_append, List.takeWhile_append_dropWhile,
      List.reverse_reverse, Text.trimStart, List.takeWhile_append_dropWhile]
  · exact List.mem_takeWhile_imp (List.mem_reverse.mp hc)

/-- **A text that is one token up to blanks has that token and no other.** -/
theorem tokens_of_single?_trim {cs source : List Char} (h : single? (Text.trim cs) = some source) :
    tokens cs = [.ofList source] := by
  obtain ⟨hraw, hne, hclosed⟩ := single?_eq_some_iff.mp h
  obtain ⟨before, after, hcs, hbefore, hafter⟩ := exists_blanks_trim cs
  have hcut : cutToken? cs = some (before, source, after) := by
    rw [hcs, hraw, cutToken?_append (dollar_not_mem hbefore), cutToken?_raw hne hclosed]
    simp
  have hlength : cs.length ≠ 0 := by
    rw [hcs, hraw]
    simp [Segment.raw]
  obtain ⟨n, hn⟩ := Nat.exists_eq_succ_of_ne_zero hlength
  have hrest : segmentsWithin n after = literal after :=
    segmentsWithin_eq_literal (hasToken_eq_false (dollar_not_mem hafter)) n
  rw [tokens, segments, hn, segmentsWithin, hcut]
  simp only [List.filterMap_append, List.filterMap_cons, filterMap_source?_literal, hrest,
    Segment.source?, List.nil_append]

end Template

end TemplateExpr
