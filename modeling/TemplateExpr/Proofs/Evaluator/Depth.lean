import TemplateExpr.Proofs.Eval.Budget
import TemplateExpr.Proofs.Evaluator.Resilience
import TemplateExpr.Proofs.Syntax.Height

/-!
# What validation says about the depth of an evaluation

One limit serves for the nesting of the parser and for that of the evaluation, but the two count
differently: the parser gives the levels of a chain back, and takes none for a short entry. An
expression that validates may therefore be refused when it is evaluated, and if there are steps
enough it is refused exactly if some visit is nested deeper than the limit
(`evaluateExpression_of_validate`). No visit is nested deeper than four times the square of the
limit, since no tree is higher that the parser accepts (`height_le_of_validate`).
-/

namespace TemplateExpr

/-! ## Enough steps -/

/-- With steps enough, limits stop an evaluation exactly if a visit is nested too deeply. -/
theorem evaluate_of_nodes_le (env : Environment) (limits : Limits) (e : Expr)
    (h : e.nodes ≤ limits.maxSteps) :
    (evaluate env limits e).1 =
      if ∃ depth ∈ (unboundedRun env e).visits, limits.maxDepth < depth then
        .error (.exhausted limits.maxDepth)
      else (unboundedRun env e).outcome := by
  have hvisits : 0 + (unboundedRun env e).visits.length ≤ limits.maxSteps := by
    rw [Nat.zero_add]
    exact (within_unboundedRun env e).1.trans h
  have hnone := Limits.firstRefused?_eq_none_iff hvisits
  rw [evaluate_eq_firstRefused?]
  cases hrefused : limits.firstRefused? 0 (unboundedRun env e).visits with
  | none =>
    have hdepth := hnone.mp hrefused
    rw [if_neg]
    rintro ⟨depth, hmem, hlt⟩
    exact absurd (hdepth depth hmem) (Nat.not_le.mpr hlt)
  | some number =>
    have hnumber : ¬ limits.maxSteps < number :=
      Nat.not_lt.mpr ((Limits.firstRefused?_le hrefused).trans hvisits)
    rw [if_pos]
    · simp only [Limits.exceeded, if_neg hnumber]
    · by_contra hnot
      push Not at hnot
      rw [hnone.mpr hnot] at hrefused
      cases hrefused

/-! ## Validated texts -/

theorem parse_of_tokens {source : String} {maxDepth : Nat} {ts : List Token} {e : Expr}
    (htokens : tokenize source = .ok ts) (hparse : parseTokens ts maxDepth = .ok e) :
    parse source maxDepth = .ok e := by
  rw [parse, htokens]
  exact hparse

theorem exists_tokens_of_parse_eq_ok {source : String} {maxDepth : Nat} {e : Expr}
    (h : parse source maxDepth = .ok e) :
    ∃ ts, tokenize source = .ok ts ∧ parseTokens ts maxDepth = .ok e := by
  unfold parse at h
  cases htokens : tokenize source with
  | error error =>
    rw [htokens] at h
    cases h
  | ok ts =>
    rw [htokens] at h
    exact ⟨ts, rfl, h⟩

namespace Evaluator

variable (ev : Evaluator) (now : Instant) (options : EvalOptions) {text : String} {e : Expr}

theorem parse_of_validate (h : ev.validate text = .ok e) :
    parse (Text.trimmed text) ev.config.maxDepth = .ok e := by
  unfold validate at h
  simp only at h
  split at h
  · cases hrefuse : refuseDangerous (Text.trimmed text) with
    | error error =>
      rw [hrefuse] at h
      cases h
    | ok u =>
      rw [hrefuse] at h
      simpa only [bind, Except.bind] using h
  · simpa only [pure_bind] using h

theorem validate_of_parse (hsafe : isDangerous (Text.trimmed text) = false)
    (hparse : parse (Text.trimmed text) ev.config.maxDepth = .ok e) : ev.validate text = .ok e := by
  have hrefuse : refuseDangerous (Text.trimmed text) = .ok () := by
    rw [refuseDangerous, hsafe]
    rfl
  rw [validate, hrefuse, hparse]
  split <;> rfl

theorem height_le_of_validate (h : ev.validate text = .ok e) :
    e.height ≤ 4 * ev.config.maxDepth * ev.config.maxDepth := by
  obtain ⟨ts, -, hparse⟩ := exists_tokens_of_parse_eq_ok (ev.parse_of_validate h)
  obtain ⟨hpos, hheight⟩ := height_le_heightCap hparse
  have hsquare := Parser.heightCap_add_self ev.config.maxDepth
  omega

theorem evaluateExpression_of_validate (h : ev.validate text = .ok e)
    (hsteps : e.nodes ≤ ev.config.maxSteps) :
    ev.evaluateExpression now options text =
      if ev.IsDangerous options text then .error (.dangerous (Text.trimmed text))
      else if ∃ depth ∈ (unboundedRun ⟨ev.scope, now⟩ e).visits, ev.config.maxDepth < depth then
        .error (.evaluation (Text.trimmed text) (.exhausted ev.config.maxDepth))
      else (unboundedRun ⟨ev.scope, now⟩ e).outcome.mapError
        (.evaluation (Text.trimmed text)) := by
  have hparse := ev.parse_of_validate h
  have hne : Text.trimmed text ≠ "" := by
    intro hempty
    rw [hempty] at hparse
    cases hparse
  have hrun : ev.run now (Text.trimmed text) =
      (TemplateExpr.evaluate ⟨ev.scope, now⟩ ⟨ev.config.maxSteps, ev.config.maxDepth⟩ e).1 := by
    rw [run, hparse]
    rfl
  rw [evaluateExpression_eq, if_neg hne, hrun, evaluate_of_nodes_le _ _ _ hsteps]
  split
  · rfl
  · split <;> rfl

/-- **A validated expression is refused for its depth exactly if a visit is nested too deeply.** The
limit of the parser does not rule that out, but it does rule out all visits that are nested deeper
than four times its square. -/
theorem validate_bounds_visits (ev : Evaluator) (now : Instant) (options : EvalOptions)
    (text : String) (e : Expr) (h : ev.validate text = .ok e)
    (hsteps : e.nodes ≤ ev.config.maxSteps) :
    ev.evaluateExpression now options text =
        (if ev.IsDangerous options text then .error (.dangerous (Text.trimmed text))
        else if ∃ depth ∈ (unboundedRun ⟨ev.scope, now⟩ e).visits, ev.config.maxDepth < depth then
          .error (.evaluation (Text.trimmed text) (.exhausted ev.config.maxDepth))
        else (unboundedRun ⟨ev.scope, now⟩ e).outcome.mapError
          (.evaluation (Text.trimmed text))) ∧
      ∀ depth ∈ (unboundedRun ⟨ev.scope, now⟩ e).visits,
        depth ≤ 4 * ev.config.maxDepth * ev.config.maxDepth := by
  refine ⟨evaluateExpression_of_validate ev now options h hsteps, fun depth hdepth => ?_⟩
  exact ((within_unboundedRun _ e).2 depth hdepth).trans (ev.height_le_of_validate h)

/-- The name in a short entry is nested in the object, but no level is taken for it. -/
theorem validate_bounds_visits_of_short_entry :
    let ev : Evaluator := ⟨.ofFields [("a", .null)], { maxDepth := 1 }⟩
    let e : Expr := .object [("a", .identifier "a")]
    ev.validate "\x7ba\x7d" = .ok e ∧ e.nodes ≤ ev.config.maxSteps ∧
      ev.evaluateExpression ⟨0, 0⟩ {} "\x7ba\x7d" =
        .error (.evaluation "\x7ba\x7d" (.exhausted 1)) ∧
      ∀ depth ∈ (unboundedRun ⟨ev.scope, ⟨0, 0⟩⟩ e).visits, depth ≤ 4 * 1 * 1 := by
  intro ev e
  have htrim : Text.trimmed "\x7ba\x7d" = "\x7ba\x7d" := by decide
  have htokens : tokenize "\x7ba\x7d" = .ok [⟨.symbol .leftBrace, 0, "\x7b"⟩, ⟨.name "a", 1, "a"⟩,
      ⟨.symbol .rightBrace, 2, "\x7d"⟩] := by rfl
  have hparse : parse (Text.trimmed "\x7ba\x7d") 1 = .ok e := by
    rw [htrim]
    exact parse_of_tokens htokens rfl
  have hvalidate : ev.validate "\x7ba\x7d" = .ok e := ev.validate_of_parse (by decide) hparse
  have hsteps : e.nodes ≤ ev.config.maxSteps := by decide
  have hdeep : ∃ depth ∈ (unboundedRun ⟨ev.scope, ⟨0, 0⟩⟩ e).visits, 1 < depth :=
    ⟨2, by decide, by decide⟩
  obtain ⟨hrefused, hvisits⟩ :=
    validate_bounds_visits ev ⟨0, 0⟩ {} "\x7ba\x7d" e hvalidate hsteps
  have hnot : ¬ ev.IsDangerous {} "\x7ba\x7d" := by decide
  rw [if_neg hnot, if_pos hdeep, htrim] at hrefused
  exact ⟨hvalidate, hsteps, hrefused, hvisits⟩

/-- **Validation does not predict whether the depth suffices.** The level of the field is given back
before the conjunction takes one, so that both fit into two levels, but the tree has three. -/
theorem not_validate_predicts_depth :
    ¬ ∀ (ev : Evaluator) (now : Instant) (options : EvalOptions) (text : String) (e : Expr),
      ev.validate text = .ok e → e.nodes ≤ ev.config.maxSteps →
        ev.evaluateExpression now options text ≠
          .error (.evaluation (Text.trimmed text) (.exhausted ev.config.maxDepth)) := by
  intro hpredicts
  let ev : Evaluator :=
    ⟨.ofFields [("a", .object [("b", .bool true)]), ("c", .bool true)], { maxDepth := 2 }⟩
  let e : Expr := .logical .and (.field (.identifier "a") "b" false) (.identifier "c")
  have htrim : Text.trimmed "a.b&&c" = "a.b&&c" := by decide
  have htokens : tokenize "a.b&&c" = .ok [⟨.name "a", 0, "a"⟩, ⟨.symbol .dot, 1, "."⟩,
      ⟨.name "b", 2, "b"⟩, ⟨.symbol .and, 3, "&&"⟩, ⟨.name "c", 5, "c"⟩] := by rfl
  have hparse : parse (Text.trimmed "a.b&&c") 2 = .ok e := by
    rw [htrim]
    exact parse_of_tokens htokens rfl
  have hvalidate : ev.validate "a.b&&c" = .ok e := ev.validate_of_parse (by decide) hparse
  have hsteps : e.nodes ≤ ev.config.maxSteps := by decide
  have hdeep : ∃ depth ∈ (unboundedRun ⟨ev.scope, ⟨0, 0⟩⟩ e).visits, 2 < depth :=
    ⟨3, by decide, by decide⟩
  have hnot : ¬ ev.IsDangerous {} "a.b&&c" := by decide
  refine hpredicts ev ⟨0, 0⟩ {} "a.b&&c" e hvalidate hsteps ?_
  rw [evaluateExpression_of_validate ev _ _ hvalidate hsteps, if_neg hnot, if_pos hdeep]

end Evaluator

end TemplateExpr
