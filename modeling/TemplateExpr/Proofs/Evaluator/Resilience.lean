import TemplateExpr.Evaluator
import TemplateExpr.Proofs.Template.Tokens

/-!
# What a template reports

`Evaluator.evaluate` fails exactly if some token of the template fails in a way that is reported,
and then with the failure of the leftmost such token (`evaluate_eq_error_iff`). Every way to
evaluate a template, the shortcuts included, comes down to this one rule. Which failures are
reported depends on the options: all of them if the call asks for it, and those of the denylist
otherwise, for which no default stands in.
-/

namespace TemplateExpr

/-! ## The leftmost item with a property -/

/-- An item has a property, and none before it has. -/
def Leftmost {α : Type} (P : α → Prop) (items : List α) (item : α) : Prop :=
  ∃ before after, items = before ++ item :: after ∧ P item ∧ ∀ other ∈ before, ¬ P other

section Leftmost

variable {α : Type} {P : α → Prop} {item head : α} {items : List α}

theorem not_leftmost_nil : ¬ Leftmost P [] item := by
  intro hfound
  obtain ⟨before, after, h, -⟩ := hfound
  simp at h

theorem leftmost_cons :
    Leftmost P (head :: items) item ↔ P head ∧ item = head ∨ ¬ P head ∧ Leftmost P items item := by
  constructor
  · intro hfound
    obtain ⟨before, after, hitems, hitem, hbefore⟩ := hfound
    cases before with
    | nil =>
      cases hitems
      exact .inl ⟨hitem, rfl⟩
    | cons first before =>
      cases hitems
      rw [List.forall_mem_cons] at hbefore
      exact .inr ⟨hbefore.1, before, after, rfl, hitem, hbefore.2⟩
  · rintro (⟨hhead, rfl⟩ | ⟨hhead, before, after, rfl, hitem, hbefore⟩)
    · exact ⟨[], items, rfl, hhead, fun _ h => absurd h List.not_mem_nil⟩
    · exact ⟨head :: before, after, rfl, hitem, List.forall_mem_cons.mpr ⟨hhead, hbefore⟩⟩

theorem exists_leftmost_iff : (∃ item, Leftmost P items item) ↔ ∃ item ∈ items, P item := by
  constructor
  · intro hfound
    obtain ⟨item, before, after, rfl, hitem, -⟩ := hfound
    exact ⟨item, List.mem_append_right _ List.mem_cons_self, hitem⟩
  · intro hfound
    obtain ⟨item, hmem, hitem⟩ := hfound
    induction items with
    | nil => exact absurd hmem List.not_mem_nil
    | cons head items ih =>
      by_cases hhead : P head
      · exact ⟨head, leftmost_cons.mpr (.inl ⟨hhead, rfl⟩)⟩
      · rcases List.mem_cons.mp hmem with rfl | hmem
        · exact absurd hitem hhead
        · obtain ⟨first, hfirst⟩ := ih hmem
          exact ⟨first, leftmost_cons.mpr (.inr ⟨hhead, hfirst⟩)⟩

theorem Leftmost.congr {Q : α → Prop} (h : ∀ a, P a ↔ Q a) :
    Leftmost P items item ↔ Leftmost Q items item := by
  rw [funext fun a => propext (h a)]

end Leftmost

namespace Evaluator

variable (ev : Evaluator) (now : Instant) (options : EvalOptions)

/-- A token fails with an error that the call reports. -/
def Reports (token : String) : Prop :=
  ∃ error, ev.evaluateExpression now options token = .error error ∧ reports options error

/-- A token matches the denylist, and the call checks it. -/
def IsDangerous (token : String) : Prop :=
  ev.sanitizes options ∧ isDangerous (Text.trimmed token)

instance (token : String) : Decidable (ev.IsDangerous options token) :=
  inferInstanceAs (Decidable (_ ∧ _))

/-! ## One token -/

theorem not_isDangerous_empty : isDangerous "" = false := by decide

theorem evaluateExpression_eq (text : String) :
    ev.evaluateExpression now options text =
      if Text.trimmed text = "" then .ok .undefined
      else if ev.IsDangerous options text then .error (.dangerous (Text.trimmed text))
      else (ev.run now (Text.trimmed text)).mapError (.evaluation (Text.trimmed text)) := by
  unfold evaluateExpression
  simp only [String.isEmpty_iff]
  split
  · rfl
  · cases hrun : ev.run now (Text.trimmed text) <;>
      by_cases hsanitizes : ev.sanitizes options = true <;>
      by_cases hdangerous : isDangerous (Text.trimmed text) = true <;>
      simp [hsanitizes, hdangerous, IsDangerous, refuseDangerous, bind, Except.bind,
        Except.mapError]

theorem evaluateExpression_of_isDangerous {token : String} (h : ev.IsDangerous options token) :
    ev.evaluateExpression now options token = .error (.dangerous (Text.trimmed token)) := by
  have hne : Text.trimmed token ≠ "" := by
    intro hempty
    have hdangerous := h.2
    rw [hempty, not_isDangerous_empty] at hdangerous
    exact Bool.false_ne_true hdangerous
  rw [evaluateExpression_eq, if_neg hne, if_pos h]

/-- A token that does not match the denylist, or is not checked, may fail, but not for that. -/
theorem evaluateExpression_of_not_isDangerous {token : String} {error : ExprError}
    (h : ¬ ev.IsDangerous options token)
    (herror : ev.evaluateExpression now options token = .error error) :
    error.isDangerous = false := by
  rw [evaluateExpression_eq, if_neg h] at herror
  split at herror
  · cases herror
  · cases hrun : ev.run now (Text.trimmed token) with
    | ok v =>
      rw [hrun] at herror
      cases herror
    | error cause =>
      rw [hrun] at herror
      cases herror
      rfl

/-- Without errors thrown, the reported failures are those of the denylist. -/
theorem reports_iff_isDangerous (h : options.throwOnError = false) (token : String) :
    ev.Reports now options token ↔ ev.IsDangerous options token := by
  constructor
  · intro hfound
    obtain ⟨error, herror, hreports⟩ := hfound
    by_contra hsafe
    rw [reports, h, Bool.or_false,
      evaluateExpression_of_not_isDangerous ev now options hsafe herror] at hreports
    exact Bool.false_ne_true hreports
  · intro hdangerous
    exact ⟨_, evaluateExpression_of_isDangerous ev now options hdangerous, rfl⟩

/-- With errors thrown, every failure is reported. -/
theorem reports_iff_error (h : options.throwOnError = true) (token : String) :
    ev.Reports now options token ↔
      ∃ error, ev.evaluateExpression now options token = .error error := by
  constructor
  · intro hfound
    obtain ⟨error, herror, -⟩ := hfound
    exact ⟨error, herror⟩
  · intro hfound
    obtain ⟨error, herror⟩ := hfound
    exact ⟨error, herror, by rw [reports, h, Bool.or_true]⟩

/-! ## Whole templates -/

/-- The failure that a template has if its tokens are the given ones. -/
def FailsWith (tokens : List String) (error : ExprError) : Prop :=
  ∃ token, Leftmost (ev.Reports now options) tokens token ∧
    ev.evaluateExpression now options token = .error error

theorem failsWith_cons {token : String} {tokens : List String} {error : ExprError} :
    ev.FailsWith now options (token :: tokens) error ↔
      ev.Reports now options token ∧ ev.evaluateExpression now options token = .error error ∨
        ¬ ev.Reports now options token ∧ ev.FailsWith now options tokens error := by
  unfold FailsWith
  simp only [leftmost_cons]
  constructor
  · rintro ⟨first, ⟨hreports, rfl⟩ | ⟨hreports, hfirst⟩, herror⟩
    · exact .inl ⟨hreports, herror⟩
    · exact .inr ⟨hreports, first, hfirst, herror⟩
  · rintro (⟨hreports, herror⟩ | ⟨hreports, first, hfirst, herror⟩)
    · exact ⟨token, .inl ⟨hreports, rfl⟩, herror⟩
    · exact ⟨first, .inr ⟨hreports, hfirst⟩, herror⟩

/-- A token fails to expand exactly with a failure that is reported. -/
theorem expandSegment_token_eq_error_iff {source : List Char} {error : ExprError} :
    ev.expandSegment now options (.token source) = .error error ↔
      ev.Reports now options (.ofList source) ∧
        ev.evaluateExpression now options (.ofList source) = .error error := by
  unfold expandSegment Reports
  simp only
  cases h : ev.evaluateExpression now options (.ofList source) with
  | ok v => simp
  | error e =>
    by_cases hreports : reports options e = true
    · simp [hreports]
    · simp [hreports]

theorem expandSegment_token_isOk {source : List Char}
    (h : ¬ ev.Reports now options (.ofList source)) :
    ∃ text, ev.expandSegment now options (.token source) = .ok text := by
  cases hexpand : ev.expandSegment now options (.token source) with
  | ok text => exact ⟨text, rfl⟩
  | error e => exact absurd ((expandSegment_token_eq_error_iff ev now options).mp hexpand).1 h

/-- If every piece can be expanded, so can all of them. -/
theorem mapM_eq_ok_map {f : Segment → Except ExprError (List Char)} {g : Segment → List Char}
    {segments : List Segment} (h : ∀ segment ∈ segments, f segment = .ok (g segment)) :
    segments.mapM f = .ok (segments.map g) := by
  induction segments with
  | nil => rfl
  | cons segment segments ih =>
    obtain ⟨hhead, htail⟩ := List.forall_mem_cons.mp h
    rw [List.mapM_cons, hhead, ih htail]
    rfl

theorem mapM_cons_of_error {f : Segment → Except ExprError (List Char)} {segment : Segment}
    {segments : List Segment} {e : ExprError} (h : f segment = .error e) :
    (segment :: segments).mapM f = .error e := by
  rw [List.mapM_cons, h]
  rfl

theorem mapM_cons_eq_error_iff_of_ok {f : Segment → Except ExprError (List Char)}
    {segment : Segment} {segments : List Segment} {text : List Char} {error : ExprError}
    (h : f segment = .ok text) :
    (segment :: segments).mapM f = .error error ↔ segments.mapM f = .error error := by
  rw [List.mapM_cons, h]
  cases segments.mapM f with
  | ok texts => simp [bind, Except.bind, pure, Except.pure]
  | error e => simp [bind, Except.bind]

/-- The pieces of a template are expanded from left to right up to the first reported failure. -/
theorem mapM_expandSegment_eq_error_iff {segments : List Segment} {error : ExprError} :
    segments.mapM (ev.expandSegment now options) = .error error ↔
      ev.FailsWith now options (segments.filterMap Segment.source?) error := by
  induction segments with
  | nil => simp [FailsWith, not_leftmost_nil, pure, Except.pure]
  | cons segment segments ih =>
    cases segment with
    | literal text =>
      have hok : ev.expandSegment now options (.literal text) = .ok text := rfl
      rw [mapM_cons_eq_error_iff_of_ok hok, ih, List.filterMap_cons_none rfl]
    | token source =>
      have hsource : (Segment.token source).source? = some (.ofList source) := rfl
      rw [List.filterMap_cons_some hsource, failsWith_cons]
      by_cases h : ev.Reports now options (.ofList source)
      · obtain ⟨e, he, -⟩ := id h
        have hexpand := (expandSegment_token_eq_error_iff ev now options).mpr ⟨h, he⟩
        rw [mapM_cons_of_error hexpand, he]
        simp [h]
      · obtain ⟨text, htext⟩ := expandSegment_token_isOk ev now options h
        rw [mapM_cons_eq_error_iff_of_ok htext, ih]
        simp [h]

/-- **A template fails as its leftmost token with a reported failure does**, and never otherwise. -/
theorem evaluate_eq_error_iff {template : Value} {error : ExprError} :
    ev.evaluate now options template = .error error ↔
      ev.FailsWith now options (Template.tokensOf template) error := by
  cases template with
  | string text =>
    show ev.evaluateText now options text = .error error ↔
      ev.FailsWith now options (Template.tokens text.toList) error
    unfold evaluateText
    simp only
    split
    · rename_i htoken
      rw [Bool.not_eq_true'] at htoken
      rw [Template.tokens_eq_nil htoken]
      simp [FailsWith, not_leftmost_nil]
    · split
      · rename_i source hsingle
        rw [Template.tokens_of_single?_trim hsingle, failsWith_cons]
        have hnil : ¬ ev.FailsWith now options [] error := fun ⟨_, h, _⟩ => not_leftmost_nil h
        unfold Reports
        cases h : ev.evaluateExpression now options (.ofList source) with
        | ok v => simp [hnil]
        | error e =>
          by_cases hreports : reports options e = true
          · simp [hnil, hreports]
          · simp [hnil, hreports]
      · rw [Template.tokens, ← mapM_expandSegment_eq_error_iff]
        cases (Template.segments text.toList).mapM (ev.expandSegment now options) with
        | ok pieces => simp [bind, Except.bind, pure, Except.pure]
        | error e => simp [bind, Except.bind]
  | _ => simp [evaluate, Template.tokensOf, FailsWith, not_leftmost_nil]

/-- A template fails if some token has a reported failure. -/
theorem exists_evaluate_eq_error_iff {template : Value} :
    (∃ error, ev.evaluate now options template = .error error) ↔
      ∃ token ∈ Template.tokensOf template, ev.Reports now options token := by
  simp only [evaluate_eq_error_iff, FailsWith]
  rw [← exists_leftmost_iff]
  constructor
  · intro hfound
    obtain ⟨-, token, htoken, -⟩ := hfound
    exact ⟨token, htoken⟩
  · intro hfound
    obtain ⟨token, htoken⟩ := hfound
    obtain ⟨before, after, -, ⟨error, herror, -⟩, -⟩ := id htoken
    exact ⟨error, token, htoken, herror⟩

theorem evaluate_eq_dangerous_iff (h : options.throwOnError = false) {template : Value}
    {error : ExprError} :
    ev.evaluate now options template = .error error ↔
      ∃ token, Leftmost (ev.IsDangerous options) (Template.tokensOf template) token ∧
        error = .dangerous (Text.trimmed token) := by
  rw [evaluate_eq_error_iff, FailsWith]
  refine exists_congr fun token => ?_
  rw [Leftmost.congr (reports_iff_isDangerous ev now options h)]
  refine and_congr_right fun htoken => ?_
  obtain ⟨before, after, -, hdangerous, -⟩ := htoken
  rw [evaluateExpression_of_isDangerous ev now options hdangerous, Except.error.injEq]
  exact eq_comm

theorem exists_evaluate_eq_ok_iff (h : options.throwOnError = true) {template : Value} :
    (∃ v, ev.evaluate now options template = .ok v) ↔
      ∀ token ∈ Template.tokensOf template,
        ∃ v, ev.evaluateExpression now options token = .ok v := by
  have hok : ∀ {α : Type} (result : Except ExprError α),
      (∃ v, result = .ok v) ↔ ¬ ∃ error, result = .error error := by
    rintro α (e | v) <;> simp
  rw [hok, exists_evaluate_eq_error_iff]
  simp only [hok, reports_iff_error ev now options h, not_exists, not_and]

theorem evaluate_eq_first_error_iff (h : options.throwOnError = true) {template : Value}
    {error : ExprError} :
    ev.evaluate now options template = .error error ↔
      ∃ token,
        Leftmost (fun token => ∃ e, ev.evaluateExpression now options token = .error e)
          (Template.tokensOf template) token ∧
        ev.evaluateExpression now options token = .error error := by
  rw [evaluate_eq_error_iff, FailsWith]
  refine exists_congr fun token => ?_
  rw [Leftmost.congr (reports_iff_error ev now options h)]

/-! ## Conditions -/

theorem evaluate_of_tokensOf_eq_nil {template : Value} {error : ExprError}
    (h : Template.tokensOf template = []) : ev.evaluate now options template ≠ .error error := by
  intro herror
  rw [evaluate_eq_error_iff, h] at herror
  obtain ⟨token, htoken, -⟩ := herror
  exact not_leftmost_nil htoken

theorem evaluateCondition_of_falsy {v : Value} (hbool : ∀ b, v ≠ .bool b)
    (h : v.isTruthy = false) : ev.evaluateCondition now options (some v) = .ok true := by
  cases v with
  | bool b => exact absurd rfl (hbool b)
  | _ => simp [evaluateCondition, h]

theorem evaluateCondition_of_truthy {v : Value} (hbool : ∀ b, v ≠ .bool b)
    (h : v.isTruthy = true) :
    ev.evaluateCondition now options (some v) =
      (ev.evaluate now options v).map Value.isTruthy := by
  have hmap : ∀ result : Except ExprError Value,
      (do return (← result).isTruthy) = result.map Value.isTruthy := by
    rintro (e | w) <;> rfl
  cases v with
  | bool b => exact absurd rfl (hbool b)
  | _ => simp only [evaluateCondition, h, if_true, hmap]

theorem tokensOf_of_falsy {v : Value} (h : v.isTruthy = false) : Template.tokensOf v = [] := by
  cases v with
  | string text =>
    have hempty : text = "" := by simpa [Value.isTruthy] using h
    rw [hempty]
    rfl
  | _ => rfl

/-- A condition fails exactly if it fails as a template. -/
theorem evaluateCondition_some_eq_error_iff {v : Value} {error : ExprError} :
    ev.evaluateCondition now options (some v) = .error error ↔
      ev.evaluate now options v = .error error := by
  by_cases hbool : ∃ b, v = .bool b
  · obtain ⟨b, rfl⟩ := hbool
    simp [evaluateCondition, evaluate]
  · rw [not_exists] at hbool
    cases h : v.isTruthy with
    | true =>
      rw [evaluateCondition_of_truthy ev now options hbool h]
      cases ev.evaluate now options v <;> simp [Except.map]
    | false =>
      rw [evaluateCondition_of_falsy ev now options hbool h]
      simp [evaluate_of_tokensOf_eq_nil ev now options (tokensOf_of_falsy h)]

theorem evaluateCondition_eq_error_iff {condition : Option Value} {error : ExprError} :
    ev.evaluateCondition now options condition = .error error ↔
      ∃ text, condition = some (.string text) ∧
        ev.evaluate now options (.string text) = .error error := by
  cases condition with
  | none => simp [evaluateCondition]
  | some v =>
    rw [evaluateCondition_some_eq_error_iff]
    cases v with
    | string text => simp
    | _ => simp [evaluate]

/-- **Only the denylist is never overlooked.** Without errors thrown, a template fails exactly if
it has a dangerous token, with the leftmost one, whatever its default. With errors thrown it fails
as its leftmost failing token does. A condition fails only as a template does, and then never if it
is falsy. -/
theorem evaluate_overlooks_all_but_denylist :
    (∀ options template, options.throwOnError = false →
      (∀ error, ev.evaluate now options template = .error error ↔
        ∃ token, Leftmost (ev.IsDangerous options) (Template.tokensOf template) token ∧
          error = .dangerous (Text.trimmed token)) ∧
      ((∃ error, ev.evaluate now options template = .error error) ↔
        ∃ token ∈ Template.tokensOf template, ev.IsDangerous options token)) ∧
    (∀ options template, options.throwOnError = true →
      ((∃ v, ev.evaluate now options template = .ok v) ↔
        ∀ token ∈ Template.tokensOf template,
          ∃ v, ev.evaluateExpression now options token = .ok v) ∧
      (∀ error, ev.evaluate now options template = .error error ↔
        ∃ token,
          Leftmost (fun token => ∃ e, ev.evaluateExpression now options token = .error e)
            (Template.tokensOf template) token ∧
          ev.evaluateExpression now options token = .error error)) ∧
    (∀ options,
      (∀ condition error, ev.evaluateCondition now options condition = .error error ↔
        ∃ text, condition = some (.string text) ∧
          ev.evaluate now options (.string text) = .error error) ∧
      ev.evaluateCondition now options none = .ok true ∧
      (∀ b, ev.evaluateCondition now options (some (.bool b)) = .ok b) ∧
      ∀ v, (∀ b, v ≠ .bool b) → ev.evaluateCondition now options (some v) =
        if v.isTruthy then (ev.evaluate now options v).map Value.isTruthy else .ok true) := by
  refine ⟨fun options template h => ⟨fun error => ?_, ?_⟩,
    fun options template h => ⟨?_, fun error => ?_⟩,
    fun options => ⟨fun condition error => ?_, rfl, fun b => rfl, fun v hbool => ?_⟩⟩
  · exact evaluate_eq_dangerous_iff ev now options h
  · rw [exists_evaluate_eq_error_iff]
    simp only [reports_iff_isDangerous ev now options h]
  · exact exists_evaluate_eq_ok_iff ev now options h
  · exact evaluate_eq_first_error_iff ev now options h
  · exact evaluateCondition_eq_error_iff ev now options
  · split
    · rename_i htruthy
      exact evaluateCondition_of_truthy ev now options hbool htruthy
    · rename_i hfalsy
      exact evaluateCondition_of_falsy ev now options hbool (Bool.eq_false_iff.mpr hfalsy)

/-- A token that does not parse stands before the dangerous one, which is reported all the same. -/
theorem evaluate_overlooks_unclosed_token :
    let ev := Evaluator.ofScope .empty
    let now : Instant := ⟨0, 0⟩
    let template := Value.string "${(} ${import(1)} ${eval(2)}"
    ev.evaluate now {} template = .error (.dangerous "import(1)") ∧
      (¬ ∃ v, ev.evaluate now { throwOnError := true } template = .ok v) ∧
      ev.evaluateCondition now {} (some .null) = .ok true := by
  intro ev now template
  obtain ⟨hkept, hthrown, hcondition⟩ := evaluate_overlooks_all_but_denylist ev now
  have htokens : Template.tokensOf template = ["("] ++ "import(1)" :: ["eval(2)"] := by decide
  refine ⟨?_, fun hok => ?_, ?_⟩
  · have hfirst : Leftmost (ev.IsDangerous {}) (Template.tokensOf template) "import(1)" :=
      ⟨["("], ["eval(2)"], htokens, by decide, by decide⟩
    exact ((hkept {} template rfl).1 _).mpr ⟨_, hfirst, rfl⟩
  · obtain ⟨v, hv⟩ := (hthrown _ template rfl).1.mp hok "(" (by rw [htokens]; decide)
    have hfails : ∃ e, ev.evaluateExpression now { throwOnError := true } "(" = .error e :=
      ⟨_, rfl⟩
    obtain ⟨e, he⟩ := hfails
    rw [he] at hv
    cases hv
  · exact (hcondition {}).2.2.2 .null (fun b h => by cases h)

end Evaluator

end TemplateExpr
