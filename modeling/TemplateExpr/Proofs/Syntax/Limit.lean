import TemplateExpr.Proofs.Syntax.Relocation

/-!
# What a higher limit on nesting changes

A limit on nesting can stop the parser, and does nothing else: where it does not stop a run, every
higher limit gives the same result. This is `Parser.Tracks` with the tokens left where they are.
-/

namespace TemplateExpr

variable {ts : List Token} {low high : Nat}

theorem parseTokens_eq_of_le (h : low ≤ high)
    (hlow : parseTokens ts low ≠ .error (.exhausted low)) :
    parseTokens ts high = parseTokens ts low := by
  by_cases hts : ts = []
  · subst hts
    rfl
  · rw [parseTokens_eq_outcomeOf hts] at hlow ⊢
    rw [parseTokens_eq_outcomeOf hts]
    rcases Parser.tracks_expression id ts.length ⟨low, stopOf ts⟩ ⟨high, stopOf ts⟩
      ⟨ts, 0⟩ rfl h with ⟨-, now, hstopped⟩ | hsame
    · rw [hstopped] at hlow
      exact absurd rfl hlow
    · rw [Cursor.moved_id, Parser.movedAnswer_id] at hsame
      rw [hsame]

theorem eq_of_parseTokens_eq_exhausted {limit : Nat}
    (h : parseTokens ts low = .error (.exhausted limit)) : limit = low := by
  rcases fault_of_parseTokens_eq_error h with ⟨position, cause, heq⟩ | ⟨heq, -⟩
  · cases heq
  · exact ExprError.exhausted.inj heq

/-- **The limit on nesting never changes a result.** If it does not stop the parser, every higher
limit gives the same expression or the same error, and the only limit that the parser reports to be
exhausted is the one that it has. -/
theorem parseTokens_persists (ts : List Token) (low high : Nat) (h : low ≤ high) :
    (parseTokens ts low ≠ .error (.exhausted low) → parseTokens ts high = parseTokens ts low) ∧
      ∀ limit, parseTokens ts low = .error (.exhausted limit) → limit = low :=
  ⟨parseTokens_eq_of_le h, fun _ => eq_of_parseTokens_eq_exhausted⟩

/-- Four levels are enough to find that the parenthesis around a sum is not closed, and three are
not. -/
theorem parseTokens_persists_of_open_parenthesis :
    let ts : List Token := [⟨.symbol .leftBracket, 0, "["⟩, ⟨.symbol .leftParen, 1, "("⟩,
      ⟨.name "a", 2, "a"⟩, ⟨.symbol .plus, 3, "+"⟩, ⟨.name "b", 4, "b"⟩,
      ⟨.symbol .rightBracket, 5, "]"⟩]
    parseTokens ts 3 = .error (.exhausted 3) ∧ 4 ≤ 64 ∧
      parseTokens ts 4 = .error (.syntactic 5 .parenthesis) ∧
      parseTokens ts 64 = parseTokens ts 4 := by
  intro ts
  have hlow : parseTokens ts 4 = .error (.syntactic 5 .parenthesis) := rfl
  refine ⟨rfl, by decide, hlow, (parseTokens_persists ts 4 64 (by decide)).1 ?_⟩
  rw [hlow]
  intro h
  cases h

end TemplateExpr
