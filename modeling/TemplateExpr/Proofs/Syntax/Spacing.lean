import Mathlib.Data.List.Chain
import TemplateExpr.Proofs.Syntax.Extent
import TemplateExpr.Proofs.Syntax.Relocation

/-!
# Spacing does not count

The blanks between the tokens of a text may be any others, and there may be blanks where there were
none. The text has the same tokens then, in other places (`Lexer.Lexes.respaced`), and so it is the
same expression or has the same error (`tokens_and_expression_of_spacing`). Only blanks between two
tokens may not be taken away altogether: `a ?. 5` has other tokens than `a?.5`.
-/

namespace TemplateExpr

/-- A token without its place. -/
def Token.content (t : Token) : TokenKind × String := (t.kind, t.lexeme)

/-- An error without its place. -/
def ExprError.placeless (e : ExprError) : ExprError := e.moved fun _ => 0

/-! ## Tokens -/

/-- Gaps for tokens to stand between: one before all of them and one behind each. They are blank, and
two tokens have none between them only where there was none. -/
structure Spacing (lead : List Char) (pieces : List (Token × List Char)) : Prop where
  lead : IsGap lead
  gaps : ∀ piece ∈ pieces, IsGap piece.2
  kept : pieces.IsChain fun p q => p.2 = [] → p.1.stop = q.1.position

namespace Spacing

variable {lead gap : List Char} {t : Token} {pieces : List (Token × List Char)}

/-- Behind its first token there is a spacing for the others. -/
theorem tail (h : Spacing lead ((t, gap) :: pieces)) : Spacing gap pieces where
  lead := h.gaps _ List.mem_cons_self
  gaps := fun piece hpiece => h.gaps piece (List.mem_cons_of_mem _ hpiece)
  kept := (List.isChain_cons.mp h.kept).2

theorem stop_eq_position (h : Spacing lead ((t, gap) :: pieces)) :
    ∀ piece ∈ pieces.head?, gap = [] → t.stop = piece.1.position :=
  fun piece hpiece hgap => (List.isChain_cons.mp h.kept).1 piece hpiece hgap

end Spacing

theorem spread_cons (lead gap : List Char) (t : Token) (pieces : List (Token × List Char)) :
    spread lead ((t, gap) :: pieces) = lead ++ (t.lexeme.toList ++ spread gap pieces) := by
  simp [spread]

theorem spread_nil (lead : List Char) : spread lead [] = lead := by simp [spread]

namespace Lexer

/-- The point of a fraction is never a token of its own. -/
theorem not_isDigit_behind_point {c : Char} {cs : List Char} (h : (scanToken c cs).read = ['.']) :
    ∀ d ∈ (scanToken c cs).rest.head?, ¬ d.isDigit := by
  have hsplit := read_append_rest c cs
  rw [h, List.singleton_append, List.cons.injEq] at hsplit
  obtain ⟨rfl, hrest⟩ := hsplit
  rw [hrest]
  intro d hd hdigit
  have hstarts := startsWithDigit_iff.mpr ⟨d, hd, hdigit⟩
  rw [scanToken_eq, if_neg (by decide), if_pos (.inr ⟨rfl, hstarts⟩)] at h
  cases startsWithDigit_of_read_scanNumber hstarts h []

variable {position : Nat} {cs gap : List Char} {pieces : List (Token × List Char)}

/-- The tokens that are left and their spacing show what they showed, if they do not stand in front of
a gap that is empty now and was not. -/
theorem Lexes.shows_spread (h : Lexes position cs ((pieces.map Prod.fst).map .ok))
    (hspacing : Spacing gap pieces)
    (hfirst : ∀ piece ∈ pieces.head?, gap = [] → position = piece.1.position) :
    Shows cs (spread gap pieces) := by
  induction pieces generalizing position cs gap with
  | nil =>
    rw [spread_nil]
    exact .breaks fun c hc => hspacing.lead c (List.mem_of_mem_head? hc)
  | cons piece pieces ih =>
    obtain ⟨t, behind⟩ := piece
    rw [spread_cons]
    cases gap with
    | cons b gap => exact .breaks fun c hc => hspacing.lead c (List.mem_of_mem_head? hc)
    | nil =>
      cases h with
      | @token _ skipped cs c kind _ _ _ _ more =>
        have hskipped : skipped = [] := by
          have hposition : position = position + skipped.length := hfirst _ rfl rfl
          exact List.eq_nil_of_length_eq_zero (by omega)
        subst hskipped
        have hnext := hspacing.stop_eq_position
        rw [Token.stop, String.length_ofList] at hnext
        rw [List.nil_append, List.nil_append, ← read_append_rest c cs, String.toList_ofList]
        exact (ih more hspacing.tail hnext).append_left not_isDigit_behind_point

theorem lexes_cons {c : Char} {kind : TokenKind} {read rest : List Char}
    {found : List (Except ExprError Token)} (hgap : IsGap gap) (hc : ¬ Text.isBlank c)
    (hscan : scanToken c cs = ⟨.ok kind, read, rest⟩)
    (more : Lexes (position + gap.length + read.length) rest found) :
    Lexes position (gap ++ c :: cs) (.ok ⟨kind, position + gap.length, .ofList read⟩ :: found) := by
  have htoken := @Lexes.token position gap cs c kind found hgap hc
  rw [hscan] at htoken
  exact htoken rfl more

/-- **A text with another spacing has the same tokens**, each where its lexeme is now. -/
theorem Lexes.respaced (h : Lexes position cs ((pieces.map Prod.fst).map .ok))
    (hspacing : Spacing gap pieces) (start : Nat) :
    ∃ ts : List Token, Lexes start (spread gap pieces) (ts.map .ok) ∧
      ts.map Token.content = (pieces.map Prod.fst).map Token.content := by
  induction pieces generalizing position cs gap start with
  | nil => exact ⟨[], by simpa [spread_nil] using Lexes.stop hspacing.lead, rfl⟩
  | cons piece pieces ih =>
    obtain ⟨t, behind⟩ := piece
    cases h with
    | @token _ skipped cs c kind _ _ hc hscan more =>
      have hnext := hspacing.stop_eq_position
      rw [Token.stop, String.length_ofList] at hnext
      obtain ⟨tail, hread, hscan'⟩ := steady_scanToken c cs kind _ hscan
        (more.shows_spread hspacing.tail hnext)
      obtain ⟨ts, hts, hcontent⟩ := ih more hspacing.tail
        (start + gap.length + (c :: tail).length)
      refine ⟨⟨kind, start + gap.length, .ofList (c :: tail)⟩ :: ts, ?_, ?_⟩
      · rw [spread_cons, String.toList_ofList, hread]
        exact lexes_cons hspacing.lead hc hscan' hts
      · rw [List.map_cons, List.map_cons, List.map_cons, hcontent, ← hread]
        rfl

end Lexer

/-! ## Expressions -/

/-- Tokens that differ in their places only are the same once these are forgotten. -/
theorem map_moved_eq_of_map_content_eq {ts ts' : List Token}
    (h : ts.map Token.content = ts'.map Token.content) :
    ts.map (Token.moved fun _ => 0) = ts'.map (Token.moved fun _ => 0) := by
  have hplace := congrArg (List.map fun content => (⟨content.1, 0, content.2⟩ : Token)) h
  rw [List.map_map, List.map_map] at hplace
  exact hplace

theorem parseTokens_of_map_content_eq {ts ts' : List Token}
    (h : ts.map Token.content = ts'.map Token.content) (maxDepth : Nat) :
    (parseTokens ts maxDepth).mapError ExprError.placeless =
      (parseTokens ts' maxDepth).mapError ExprError.placeless := by
  have hlength : ts.length = ts'.length := by simpa using congrArg List.length h
  by_cases hts : ts = []
  · subst hts
    have hts' : ts' = [] := List.eq_nil_of_length_eq_zero hlength.symm
    rw [hts']
  · have hts' : ts' ≠ [] := by
      rintro rfl
      exact hts (List.eq_nil_of_length_eq_zero hlength)
    have hcursor : Cursor.moved (fun _ => 0) ⟨ts, 0⟩ = Cursor.moved (fun _ => 0) ⟨ts', 0⟩ :=
      congrArg (Cursor.mk · 0) (map_moved_eq_of_map_content_eq h)
    calc (parseTokens ts maxDepth).mapError ExprError.placeless
        = outcomeOf (Parser.expression ts.length ⟨maxDepth, 0⟩ (Cursor.moved _ ⟨ts, 0⟩)) :=
          mapError_moved_parseTokens hts (fun _ => 0) maxDepth
      _ = outcomeOf (Parser.expression ts'.length ⟨maxDepth, 0⟩ (Cursor.moved _ ⟨ts', 0⟩)) := by
          rw [hlength, hcursor]
      _ = (parseTokens ts' maxDepth).mapError ExprError.placeless :=
          (mapError_moved_parseTokens hts' (fun _ => 0) maxDepth).symm

/-- **Spacing does not count.** If a text has tokens, then with any spacing these make up a text with
the same kinds and lexemes of tokens, and under every limit on nesting it is the same expression or
has the same error, up to its position. -/
theorem tokens_and_expression_of_spacing {text : String} {lead : List Char}
    {pieces : List (Token × List Char)} (htokens : tokenize text = .ok (pieces.map Prod.fst))
    (hspacing : Spacing lead pieces) :
    (∃ ts, tokenize (.ofList (spread lead pieces)) = .ok ts ∧
      ts.map Token.content = (pieces.map Prod.fst).map Token.content) ∧
    ∀ maxDepth, (parse (.ofList (spread lead pieces)) maxDepth).mapError ExprError.placeless =
      (parse text maxDepth).mapError ExprError.placeless := by
  obtain ⟨ts, hlexes, hcontent⟩ := (tokenize_eq_ok_iff.mp htokens).respaced hspacing 0
  have hts : tokenize (.ofList (spread lead pieces)) = .ok ts := by
    rw [tokenize_eq_ok_iff, String.toList_ofList]
    exact hlexes
  refine ⟨⟨ts, hts, hcontent⟩, fun maxDepth => ?_⟩
  simp only [parse, hts, htokens]
  exact parseTokens_of_map_content_eq hcontent maxDepth

/-- The question mark in front of a fraction and the signed exponent are the same with blanks around
them. -/
theorem tokens_and_expression_of_spacing_of_fraction :
    let pieces : List (Token × List Char) := [(⟨.name "a", 0, "a"⟩, [' ']),
      (⟨.symbol .question, 1, "?"⟩, []), (⟨.number (.ofInt 0), 2, ".0"⟩, ['\n', '\n']),
      (⟨.symbol .colon, 4, ":"⟩, [' ']), (⟨.number (.ofInt 120), 5, "12e+1"⟩, ['\t'])]
    tokenize "a?.0:12e+1" = .ok (pieces.map Prod.fst) ∧ Spacing [' '] pieces ∧
      (∃ ts, tokenize " a ?.0\n\n: 12e+1\t" = .ok ts ∧
        ts.map Token.content = (pieces.map Prod.fst).map Token.content) ∧
      ∀ maxDepth, (parse " a ?.0\n\n: 12e+1\t" maxDepth).mapError ExprError.placeless =
        (parse "a?.0:12e+1" maxDepth).mapError ExprError.placeless := by
  intro pieces
  have htokens : tokenize "a?.0:12e+1" = .ok (pieces.map Prod.fst) := by decide +kernel
  have hspacing : Spacing [' '] pieces :=
    ⟨by decide +kernel, by decide +kernel, by decide +kernel⟩
  have htext : String.ofList (spread [' '] pieces) = " a ?.0\n\n: 12e+1\t" := by decide +kernel
  have hsame := tokens_and_expression_of_spacing htokens hspacing
  rw [htext] at hsame
  exact ⟨htokens, hspacing, hsame⟩

end TemplateExpr
