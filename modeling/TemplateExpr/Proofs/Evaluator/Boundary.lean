import TemplateExpr.Proofs.Eval.Outcome
import TemplateExpr.Proofs.Evaluator.Depth
import TemplateExpr.Proofs.Syntax.Acceptance
import TemplateExpr.Proofs.Text.Blank

/-!
# Where errors leave the evaluator

Validating a text and evaluating it as an expression go the same way as far as validation goes: the
denylist first, then the tokens, then the tree. What the denylist refuses leaves both with the same
error. Every other failure leaves the evaluation as the failure of that expression, with what went
wrong as its cause: what validation reports, or what the evaluation of the tree ends with. So of the
errors there are, an evaluation reports two, and the others only as causes.
-/

namespace TemplateExpr

/-! ## Errors of the parser -/

theorem lexical_of_mem_lexFrom {n position : Nat} {cs : List Char} {error : ExprError}
    (h : .error error ∈ Lexer.lexFrom n position cs) :
    ∃ position cause, error = .lexical position cause := by
  induction n generalizing position cs with
  | zero => cases h
  | succ n ih =>
    rw [Lexer.lexFrom] at h
    split at h
    · cases h
    · simp only at h
      rcases List.mem_cons.mp h with hhead | htail
      · split at hhead
        · cases hhead
        · cases hhead
          exact ⟨_, _, rfl⟩
      · exact ih htail

theorem mem_of_mapM_id_eq_error {tokens : List (Except ExprError Token)} {error : ExprError}
    (h : tokens.mapM id = .error error) : .error error ∈ tokens := by
  induction tokens with
  | nil => cases h
  | cons token tokens ih =>
    rw [List.mapM_cons] at h
    cases token with
    | error e =>
      cases h
      exact List.mem_cons_self
    | ok t =>
      refine List.mem_cons_of_mem _ (ih ?_)
      cases htokens : tokens.mapM id with
      | error e =>
        rw [htokens] at h
        cases h
        rfl
      | ok ts =>
        rw [htokens] at h
        cases h

/-- A text is no expression because of its characters, its tokens, or the limit on nesting. -/
theorem parse_fails {source : String} {maxDepth : Nat} {error : ExprError}
    (h : parse source maxDepth = .error error) :
    (∃ position cause, error = .lexical position cause) ∨
      (∃ position cause, error = .syntactic position cause) ∨ error = .exhausted maxDepth := by
  unfold parse at h
  cases htokens : tokenize source with
  | error e =>
    rw [htokens] at h
    cases h
    exact .inl (lexical_of_mem_lexFrom (mem_of_mapM_id_eq_error htokens))
  | ok ts =>
    rw [htokens] at h
    rcases fault_of_parseTokens_eq_error h with hsyntactic | ⟨hexhausted, -⟩
    · exact .inr (.inl hsyntactic)
    · exact .inr (.inr hexhausted)

namespace Evaluator

variable (ev : Evaluator) (now : Instant) {options : EvalOptions} {text : String}
  {error : ExprError} {e : Expr}

/-! ## Validation -/

theorem validate_eq (h : options.sanitize = none) (text : String) :
    ev.validate text =
      if ev.IsDangerous options text then .error (.dangerous (Text.trimmed text))
      else parse (Text.trimmed text) ev.config.maxDepth := by
  have hsanitizes : ev.sanitizes options = ev.config.sanitize := by
    rw [sanitizes, h, Option.getD_none]
  by_cases hsanitize : ev.config.sanitize = true <;>
    by_cases hdangerous : isDangerous (Text.trimmed text) = true <;>
    simp [validate, refuseDangerous, IsDangerous, hsanitizes, hsanitize, hdangerous, bind,
      Except.bind]

theorem validate_eq_dangerous_iff (h : options.sanitize = none) :
    ev.validate text = .error (.dangerous (Text.trimmed text)) ↔ ev.IsDangerous options text := by
  rw [validate_eq ev h]
  split
  · exact iff_of_true rfl ‹_›
  · refine iff_of_false (fun hparse => ?_) ‹_›
    rcases parse_fails hparse with ⟨_, _, heq⟩ | ⟨_, _, heq⟩ | heq <;> cases heq

/-! ## Evaluation -/

theorem evaluateExpression_eq_dangerous_iff :
    ev.evaluateExpression now options text = .error (.dangerous (Text.trimmed text)) ↔
      ev.IsDangerous options text := by
  constructor
  · intro h
    by_contra hsafe
    have hreported := evaluateExpression_of_not_isDangerous ev now options hsafe h
    exact Bool.noConfusion hreported
  · exact evaluateExpression_of_isDangerous ev now options

/-- What is not refused is parsed and evaluated, and every failure is that of the expression. -/
theorem evaluateExpression_of_trimmed_ne (hne : Text.trimmed text ≠ "")
    (hsafe : ¬ ev.IsDangerous options text) :
    ev.evaluateExpression now options text =
      (parse (Text.trimmed text) ev.config.maxDepth >>= fun e =>
        (TemplateExpr.evaluate ⟨ev.scope, now⟩ ⟨ev.config.maxSteps, ev.config.maxDepth⟩ e).1).mapError
          (.evaluation (Text.trimmed text)) := by
  rw [evaluateExpression_eq, if_neg hne, if_neg hsafe]
  rfl

/-- What is not refused has the value of the expression that it is read as, if the limits let all of
its nodes be visited. -/
theorem evaluateExpression_of_parse {v : Value} (hsafe : ¬ ev.IsDangerous options text)
    (hparse : parse (Text.trimmed text) ev.config.maxDepth = .ok e)
    (hsteps : e.nodes ≤ ev.config.maxSteps) (hdepth : e.height ≤ ev.config.maxDepth)
    (hvalue : (Eval.eval ⟨ev.scope, now⟩ e : Plain Value) = Except.ok v) :
    ev.evaluateExpression now options text = .ok v := by
  have hne : Text.trimmed text ≠ "" := by
    intro hempty
    rw [hempty] at hparse
    cases hparse
  have hlimits : Limits.Suffice ⟨ev.config.maxSteps, ev.config.maxDepth⟩ ⟨ev.scope, now⟩ e :=
    suffice_of_nodes_le hsteps hdepth
  rw [evaluateExpression_of_trimmed_ne ev now hne hsafe, hparse]
  exact congrArg (Except.mapError _) ((evaluate_eq_plain hlimits).trans hvalue)

theorem evaluateExpression_of_validate_eq_error (h : options.sanitize = none)
    (hne : Text.trimmed text ≠ "") (hvalidate : ev.validate text = .error error)
    (herror : error ≠ .dangerous (Text.trimmed text)) :
    ev.evaluateExpression now options text = .error (.evaluation (Text.trimmed text) error) := by
  have hsafe : ¬ ev.IsDangerous options text := by
    rw [← validate_eq_dangerous_iff ev h, hvalidate]
    exact fun heq => herror (Except.error.inj heq)
  rw [validate_eq ev h, if_neg hsafe] at hvalidate
  rw [evaluateExpression_of_trimmed_ne ev now hne hsafe, hvalidate]
  rfl

theorem evaluateExpression_of_validate_eq_ok (h : options.sanitize = none)
    (hne : Text.trimmed text ≠ "") (hvalidate : ev.validate text = .ok e) :
    ev.evaluateExpression now options text =
      (TemplateExpr.evaluate ⟨ev.scope, now⟩
        ⟨ev.config.maxSteps, ev.config.maxDepth⟩ e).1.mapError
          (.evaluation (Text.trimmed text)) := by
  have hsafe : ¬ ev.IsDangerous options text := by
    rw [← validate_eq_dangerous_iff ev h, hvalidate]
    exact fun heq => by cases heq
  rw [validate_eq ev h, if_neg hsafe] at hvalidate
  rw [evaluateExpression_of_trimmed_ne ev now hne hsafe, hvalidate]
  rfl

/-- Errors leave an evaluation in two forms. -/
theorem evaluateExpression_fails (h : ev.evaluateExpression now options text = .error error) :
    error = .dangerous (Text.trimmed text) ∨
      ∃ cause, error = .evaluation (Text.trimmed text) cause := by
  rw [evaluateExpression_eq] at h
  split at h
  · cases h
  · split at h
    · cases h
      exact .inl rfl
    · cases hrun : ev.run now (Text.trimmed text) with
      | ok v =>
        rw [hrun] at h
        cases h
      | error cause =>
        rw [hrun] at h
        cases h
        exact .inr ⟨cause, rfl⟩

/-- **Validation and evaluation share one boundary for errors.** If the call leaves the denylist to
the configuration, a text that is not blank is refused as dangerous by both or by neither. What else
validation reports is the cause with which the evaluation fails. A tree that validates is evaluated
within the limits of the configuration, and what this ends with is the value, or the cause of the
failure: a name without a meaning, an operation that does not apply, or a limit. Whatever the text
and the options, no error but these two leaves an evaluation. -/
theorem evaluateExpression_shares_boundary (ev : Evaluator) (now : Instant) :
    (∀ (options : EvalOptions) (text : String), options.sanitize = none →
      (¬ ∀ c ∈ text.toList, Text.isBlank c) →
        (ev.evaluateExpression now options text = .error (.dangerous (Text.trimmed text)) ↔
          ev.validate text = .error (.dangerous (Text.trimmed text))) ∧
        (∀ error, ev.validate text = .error error → error ≠ .dangerous (Text.trimmed text) →
          ev.evaluateExpression now options text =
            .error (.evaluation (Text.trimmed text) error)) ∧
        ∀ e, ev.validate text = .ok e →
          ev.evaluateExpression now options text =
            (TemplateExpr.evaluate ⟨ev.scope, now⟩
              ⟨ev.config.maxSteps, ev.config.maxDepth⟩ e).1.mapError
                (.evaluation (Text.trimmed text)) ∧
          ∀ cause, (TemplateExpr.evaluate ⟨ev.scope, now⟩
              ⟨ev.config.maxSteps, ev.config.maxDepth⟩ e).1 = .error cause →
            (∃ name, cause = .unbound name) ∨ (∃ reason, cause = .type reason) ∨
              ∃ limit, cause = .exhausted limit) ∧
    ∀ options text error, ev.evaluateExpression now options text = .error error →
      error = .dangerous (Text.trimmed text) ∨
        ∃ cause, error = .evaluation (Text.trimmed text) cause := by
  refine ⟨fun options text h hblank => ?_, fun options text error => ev.evaluateExpression_fails now⟩
  have hne : Text.trimmed text ≠ "" := fun heq => hblank (Text.trimmed_eq_empty_iff.mp heq)
  refine ⟨?_, fun error hvalidate herror => ?_, fun e hvalidate => ⟨?_, fun cause hcause => ?_⟩⟩
  · rw [evaluateExpression_eq_dangerous_iff, validate_eq_dangerous_iff ev h]
  · exact ev.evaluateExpression_of_validate_eq_error now h hne hvalidate herror
  · exact ev.evaluateExpression_of_validate_eq_ok now h hne hvalidate
  · rcases evaluate_fails hcause with hintrinsic | hsteps | hdepth
    · cases hintrinsic with
      | unbound name => exact .inl ⟨name, rfl⟩
      | type reason => exact .inr (.inl ⟨reason, rfl⟩)
    · exact .inr (.inr ⟨_, hsteps⟩)
    · exact .inr (.inr ⟨_, hdepth⟩)

/-- An unclosed parenthesis is found by both; a name without a binding is found by the evaluation
only. -/
theorem evaluateExpression_shares_boundary_of_unbound_name :
    let ev := Evaluator.ofScope .empty
    (¬ ∀ c ∈ " (a ".toList, Text.isBlank c) ∧ (¬ ∀ c ∈ "a".toList, Text.isBlank c) ∧
      ev.validate " (a " = .error (.syntactic 2 .parenthesis) ∧
      ev.evaluateExpression ⟨0, 0⟩ {} " (a " =
        .error (.evaluation "(a" (.syntactic 2 .parenthesis)) ∧
      ev.validate "a" = .ok (.identifier "a") ∧
      ev.evaluateExpression ⟨0, 0⟩ {} "a" = .error (.evaluation "a" (.unbound "a")) := by
  intro ev
  have hopen : ¬ ∀ c ∈ " (a ".toList, Text.isBlank c :=
    fun h => absurd (h 'a' (by simp)) (by decide)
  have hname : ¬ ∀ c ∈ "a".toList, Text.isBlank c :=
    fun h => absurd (h 'a' (by simp)) (by decide)
  have htrim : Text.trimmed " (a " = "(a" := by decide
  have htrim' : Text.trimmed "a" = "a" := by decide
  have hdefault : ({} : EvalOptions).sanitize = none := rfl
  have hrefused : ev.validate " (a " = .error (.syntactic 2 .parenthesis) := by
    rw [validate_eq ev hdefault, if_neg (by decide), htrim]
    rfl
  have hvalid : ev.validate "a" = .ok (.identifier "a") := by
    rw [validate_eq ev hdefault, if_neg (by decide), htrim']
    rfl
  obtain ⟨hshared, -⟩ := evaluateExpression_shares_boundary ev ⟨0, 0⟩
  have hfails := (hshared {} _ rfl hopen).2.1 _ hrefused (by decide)
  have hvalue := ((hshared {} _ rfl hname).2.2 _ hvalid).1
  rw [htrim] at hfails
  rw [htrim'] at hvalue
  exact ⟨hopen, hname, hrefused, hfails, hvalid, hvalue⟩

end Evaluator

end TemplateExpr
