import TemplateExpr.Config.Basic
import TemplateExpr.Denylist
import TemplateExpr.Eval.Interpreter
import TemplateExpr.Syntax.Parser
import TemplateExpr.Template

/-!
# Evaluating templates, expressions and conditions

An evaluator is a scope with a configuration. It evaluates

* an expression (`evaluateExpression`), whose failures are all reported as failures of that
  expression, apart from those of the denylist;
* a template (`evaluate`), which degrades instead of failing: a token that fails stays as it is,
  and a template that is one token becomes the default value if there is one. Only the denylist is
  never overlooked;
* a condition (`evaluateCondition`), which holds when there is nothing to evaluate.
-/

namespace TemplateExpr

/-- How one call evaluates. -/
structure EvalOptions where
  /-- What a template that is one failing token becomes. -/
  defaultValue : Option Value := none
  /-- Whether failures are reported instead of overlooked. -/
  throwOnError : Bool := false
  /-- Whether the denylist is checked, if the call decides. -/
  sanitize : Option Bool := none

/-- A scope with a configuration. -/
structure Evaluator where
  scope : Scope
  config : Config

namespace Evaluator

/-- An evaluator with the default configuration. -/
def ofScope (scope : Scope) : Evaluator := ⟨scope, {}⟩

/-- Writes bindings into the scope. -/
def extend (ev : Evaluator) (pairs : List (String × Value)) : Evaluator :=
  { ev with scope := ev.scope.extend pairs }

/-- An evaluator over a scope inside the one of this evaluator. -/
def child (ev : Evaluator) (pairs : List (String × Value)) : Evaluator :=
  { ev with scope := ev.scope.child pairs }

/-- Whether a call checks the denylist. -/
def sanitizes (ev : Evaluator) (options : EvalOptions) : Bool :=
  options.sanitize.getD ev.config.sanitize

/-- Parses and evaluates a text within the limits of the configuration. -/
def run (ev : Evaluator) (now : Instant) (source : String) : Except ExprError Value := do
  let e ← parse source ev.config.maxDepth
  (TemplateExpr.evaluate ⟨ev.scope, now⟩ ⟨ev.config.maxSteps, ev.config.maxDepth⟩ e).1

/-- The value of an expression; an empty one is undefined. -/
def evaluateExpression (ev : Evaluator) (now : Instant) (options : EvalOptions) (text : String) :
    Except ExprError Value :=
  let source := Text.trimmed text
  if source.isEmpty then .ok .undefined
  else do
    if ev.sanitizes options then refuseDangerous source
    match ev.run now source with
    | .ok v => .ok v
    | .error cause => .error (.evaluation source cause)

/-- Whether a failure is reported: that of the denylist always, others if the call asks for it. -/
def reports (options : EvalOptions) (error : ExprError) : Bool :=
  error.isDangerous || options.throwOnError

/-- The text that a piece of a template becomes. -/
def expandSegment (ev : Evaluator) (now : Instant) (options : EvalOptions) (segment : Segment) :
    Except ExprError (List Char) :=
  match segment with
  | .literal text => .ok text
  | .token source =>
    match ev.evaluateExpression now options (.ofList source) with
    | .ok v => .ok v.templateText.toList
    | .error e => if reports options e then .error e else .ok segment.raw

/-- The value of a template text. -/
def evaluateText (ev : Evaluator) (now : Instant) (options : EvalOptions) (text : String) :
    Except ExprError Value :=
  let cs := text.toList
  if !Template.hasToken cs then .ok (.string text)
  else
    match Template.single? (Text.trim cs) with
    | some source =>
      match ev.evaluateExpression now options (.ofList source) with
      | .ok v => .ok v
      | .error e =>
        if reports options e then .error e else .ok (options.defaultValue.getD (.string text))
    | none => do
      let pieces ← (Template.segments cs).mapM (ev.expandSegment now options)
      return .string (.ofList pieces.flatten)

/-- The value of a template; what is no text is its own value. -/
def evaluate (ev : Evaluator) (now : Instant) (options : EvalOptions) (template : Value) :
    Except ExprError Value :=
  match template with
  | .string text => ev.evaluateText now options text
  | other => .ok other

/-- Whether a condition holds. A missing condition holds, and so do falsy ones other than `false`,
which restrict nothing. -/
def evaluateCondition (ev : Evaluator) (now : Instant) (options : EvalOptions)
    (condition : Option Value) : Except ExprError Bool :=
  match condition with
  | none => .ok true
  | some (.bool b) => .ok b
  | some v => if v.isTruthy then return (← ev.evaluate now options v).isTruthy else .ok true

/-- The expression that a text is, if the denylist allows it. -/
def validate (ev : Evaluator) (text : String) : Except ExprError Expr := do
  let source := Text.trimmed text
  if ev.config.sanitize then refuseDangerous source
  parse source ev.config.maxDepth

end Evaluator

end TemplateExpr
