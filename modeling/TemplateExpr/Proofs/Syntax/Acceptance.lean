import TemplateExpr.Proofs.Syntax.Completeness
import TemplateExpr.Proofs.Syntax.Soundness

/-!
# The parser accepts exactly its grammar

What the parser returns, the tokens derive (`expression_of_parseTokens_eq_ok`), and what they
derive, the parser returns unless the limit on nesting stops it
(`parseTokens_eq_ok_or_exhausted`). The limit can only stop it if it is at most twice the number of
tokens (`fault_of_parseTokens_eq_error`), so that above it the two are equivalent, and no tokens
derive two expressions.
-/

namespace TemplateExpr

open Grammar

variable {ts : List Token} {maxDepth : Nat} {e : Expr}

theorem not_expression_nil : ¬ Expression [] e :=
  fun h => absurd h.opened.length_pos (Nat.lt_irrefl 0)

theorem parseTokens_of_ne_nil (h : ts ≠ []) (maxDepth : Nat) :
    parseTokens ts maxDepth =
      match Parser.expression ts.length ⟨maxDepth, stopOf ts⟩ ⟨ts, 0⟩ with
      | .error e _ => .error e
      | .ok e cursor =>
        match cursor.rest with
        | [] => .ok e
        | t :: _ => .error (.syntactic t.position (.unexpectedToken t.lexeme)) := by
  have hempty : ts.isEmpty ≠ true := fun hempty => h (List.isEmpty_iff.mp hempty)
  unfold parseTokens
  exact if_neg hempty

/-- What a run over all tokens ends with, as far as the grammar and the limit go. -/
theorem parseTokens_sound (ts : List Token) (maxDepth : Nat) :
    match parseTokens ts maxDepth with
    | .ok e => Expression ts e
    | .error error => Parser.Fault ⟨maxDepth, stopOf ts⟩ (2 * ts.length + 1) error := by
  by_cases hts : ts = []
  · subst hts
    exact Parser.fault_syntactic
  · rw [parseTokens_of_ne_nil hts]
    have hreads := Parser.reads_expression ts.length ⟨maxDepth, stopOf ts⟩ ts 0
      (2 * ts.length + 1) (by omega)
    unfold Parser.Ends at hreads
    cases hrun : Parser.expression ts.length ⟨maxDepth, stopOf ts⟩ ⟨ts, 0⟩ with
    | error error cursor =>
      rw [hrun] at hreads
      exact hreads
    | ok e cursor =>
      rw [hrun] at hreads
      obtain ⟨read, left, hread, rfl, he⟩ := hreads
      cases left with
      | nil =>
        rw [List.append_nil] at hread
        subst hread
        exact he
      | cons t left => exact Parser.fault_syntactic

theorem expression_of_parseTokens_eq_ok (h : parseTokens ts maxDepth = .ok e) :
    Expression ts e := by
  have hsound := parseTokens_sound ts maxDepth
  rw [h] at hsound
  exact hsound

theorem fault_of_parseTokens_eq_error {error : ExprError}
    (h : parseTokens ts maxDepth = .error error) :
    (∃ position cause, error = .syntactic position cause) ∨
      error = .exhausted maxDepth ∧ maxDepth ≤ 2 * ts.length := by
  have hsound := parseTokens_sound ts maxDepth
  rw [h] at hsound
  exact hsound.imp_right fun ⟨herror, hlimit⟩ => ⟨herror, Nat.le_of_lt_succ hlimit⟩

theorem parseTokens_eq_ok_or_exhausted (h : Expression ts e) (maxDepth : Nat) :
    parseTokens ts maxDepth = .ok e ∨ parseTokens ts maxDepth = .error (.exhausted maxDepth) := by
  have hts : ts ≠ [] := by
    intro hrest
    subst hrest
    exact not_expression_nil h
  have hparses := h.parses ts.length (Nat.le_refl _) ⟨maxDepth, stopOf ts⟩ 0 [] stops_nil
  rw [List.append_nil] at hparses
  rw [parseTokens_of_ne_nil hts]
  unfold Parser.Yields Parser.Ends at hparses
  cases hrun : Parser.expression ts.length ⟨maxDepth, stopOf ts⟩ ⟨ts, 0⟩ with
  | error error cursor =>
    rw [hrun] at hparses
    exact .inr (congrArg _ hparses)
  | ok e' cursor =>
    rw [hrun] at hparses
    obtain ⟨rfl, rfl⟩ := hparses
    exact .inl rfl

/-- Above twice the number of tokens, the limit on nesting is out of reach. -/
theorem parseTokens_eq_ok_iff (h : 2 * ts.length < maxDepth) :
    parseTokens ts maxDepth = .ok e ↔ Expression ts e := by
  constructor
  · exact expression_of_parseTokens_eq_ok
  · intro he
    rcases parseTokens_eq_ok_or_exhausted he maxDepth with hok | herror
    · exact hok
    · rcases fault_of_parseTokens_eq_error herror with ⟨position, cause, heq⟩ | ⟨-, hlimit⟩
      · cases heq
      · exact absurd h (Nat.not_lt.mpr hlimit)

/-- **The parser accepts exactly its grammar, with one tree for each input.** If the limit on
nesting is more than twice the number of tokens, it returns an expression exactly if the tokens
derive it, they derive at most one, and if they derive none, it fails with an error of syntax. -/
theorem parseTokens_accepts_grammar (ts : List Token) (maxDepth : Nat)
    (h : 2 * ts.length < maxDepth) :
    (∀ e, parseTokens ts maxDepth = .ok e ↔ Expression ts e) ∧
      (∀ e e', Expression ts e → Expression ts e' → e = e') ∧
      ((¬ ∃ e, Expression ts e) →
        ∃ position cause, parseTokens ts maxDepth = .error (.syntactic position cause)) := by
  refine ⟨fun e => parseTokens_eq_ok_iff h, fun e e' he he' => ?_, fun hnone => ?_⟩
  · rw [← parseTokens_eq_ok_iff h] at he he'
    exact Except.ok.inj (he.symm.trans he')
  · cases hrun : parseTokens ts maxDepth with
    | ok e => exact absurd ⟨e, expression_of_parseTokens_eq_ok hrun⟩ hnone
    | error error =>
      rcases fault_of_parseTokens_eq_error hrun with ⟨position, cause, rfl⟩ | ⟨-, hlimit⟩
      · exact ⟨position, cause, rfl⟩
      · exact absurd h (Nat.not_lt.mpr hlimit)

/-- A sign binds more tightly than a power, and a link more tightly than a sign; a sign alone is no
expression. -/
theorem parseTokens_accepts_signed_power :
    let minus : Token := ⟨.symbol .minus, 0, "-"⟩
    let ts : List Token := [minus, ⟨.name "a", 1, "a"⟩, ⟨.symbol .dot, 2, "."⟩,
      ⟨.keyword .null, 3, "null"⟩, ⟨.symbol .leftParen, 7, "("⟩, ⟨.symbol .rightParen, 8, ")"⟩,
      ⟨.symbol .starStar, 9, "**"⟩, ⟨.name "b", 11, "b"⟩]
    let e : Expr := .binary .pow
      (.unary .neg (.methodCall (.identifier "a") "null" [] false)) (.identifier "b")
    Expression ts e ∧ (∀ e', Expression ts e' → e = e') ∧ ¬ ∃ e, Expression [minus] e := by
  intro minus ts e
  obtain ⟨haccepts, hunique, -⟩ := parseTokens_accepts_grammar ts 17 (by decide)
  have he : Expression ts e := (haccepts e).mp rfl
  refine ⟨he, fun e' he' => hunique e e' he he', ?_⟩
  intro hminus
  obtain ⟨e', he'⟩ := hminus
  have hok := ((parseTokens_accepts_grammar [minus] 3 (by decide)).1 e').mpr he'
  cases hok

end TemplateExpr
