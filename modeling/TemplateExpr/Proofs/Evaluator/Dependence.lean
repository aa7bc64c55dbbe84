import TemplateExpr.Evaluator
import TemplateExpr.Proofs.Eval.Clock
import TemplateExpr.Proofs.Template.Tokens

/-!
# What an evaluator reads

What an evaluator makes of a text depends on its configuration and on what it makes of the sources
in the text (`evaluate_congr`). What it makes of a source depends on what the names in it mean, and
on the moment only if one of the names tells the time (`run_eq_of_alike`, `run_eq_of_timeless`).
-/

namespace TemplateExpr

namespace Evaluator

variable {ev ev' : Evaluator} {now now' : Instant}

/-! ## Texts -/

theorem evaluateExpression_congr (hconfig : ev.config = ev'.config) {text : String}
    (hrun : ev.run now (Text.trimmed text) = ev'.run now' (Text.trimmed text))
    (options : EvalOptions) :
    ev.evaluateExpression now options text = ev'.evaluateExpression now' options text := by
  unfold evaluateExpression sanitizes
  simp only [hconfig, hrun]

theorem mapM_expandSegment_congr (hconfig : ev.config = ev'.config) {segments : List Segment}
    (hrun : ∀ source ∈ segments.filterMap Segment.source?,
      ev.run now (Text.trimmed source) = ev'.run now' (Text.trimmed source))
    (options : EvalOptions) :
    segments.mapM (ev.expandSegment now options) =
      segments.mapM (ev'.expandSegment now' options) := by
  induction segments with
  | nil => rw [List.mapM_nil, List.mapM_nil]
  | cons segment segments ih =>
    have hsegment : ev.expandSegment now options segment =
        ev'.expandSegment now' options segment := by
      cases segment with
      | literal text => rfl
      | token source =>
        have hsource := evaluateExpression_congr hconfig (hrun (.ofList source) (by
          simp [Segment.source?])) options
        simp only [expandSegment, hsource]
    have hrest := ih fun source hsource => hrun source (by
      rw [List.filterMap_cons]
      split
      · exact hsource
      · exact List.mem_cons_of_mem _ hsource)
    rw [List.mapM_cons, List.mapM_cons, hsegment, hrest]

/-- **A template depends on its tokens.** -/
theorem evaluate_congr (hconfig : ev.config = ev'.config) {template : Value}
    (hrun : ∀ source ∈ Template.tokensOf template,
      ev.run now (Text.trimmed source) = ev'.run now' (Text.trimmed source))
    (options : EvalOptions) :
    ev.evaluate now options template = ev'.evaluate now' options template := by
  cases template with
  | string text =>
    simp only [evaluate, evaluateText]
    split
    · rfl
    · split
      · rename_i source hsingle
        have hsource : .ofList source ∈ Template.tokensOf (.string text) := by
          rw [Template.tokensOf, Template.tokens_of_single?_trim hsingle]
          exact List.mem_singleton_self _
        rw [evaluateExpression_congr hconfig (hrun _ hsource)]
      · rw [mapM_expandSegment_congr hconfig hrun]
  | _ => rfl

/-! ## Sources -/

/-- Evaluators with the same configuration, over scopes that bind the same names to the same values
and list them in the same order. -/
structure Alike (ev ev' : Evaluator) : Prop where
  config : ev.config = ev'.config
  bindings : ∀ name, ev.scope.lookup? name = ev'.scope.lookup? name
  listing : ev.scope.flatten = ev'.scope.flatten

theorem run_eq_of_alike (h : ev.Alike ev') (now : Instant) (source : String) :
    ev.run now source = ev'.run now source := by
  unfold run
  rw [h.config]
  cases parse source ev'.config.maxDepth with
  | error error => rfl
  | ok e => exact congrArg Prod.fst (Eval.evaluate_congr now _ fun name _ => h.bindings name)

theorem run_eq_of_timeless (hscope : ev.scope.Timeless) {source : String}
    (h : ∀ e, parse source ev.config.maxDepth = .ok e →
      ∀ f : Formula, f.ReadsClock → f.name ∉ e.referencedNames) (now now' : Instant) :
    ev.run now source = ev.run now' source := by
  unfold run
  cases hparse : parse source ev.config.maxDepth with
  | error error =>
    show Except.error error = Except.error error
    rfl
  | ok e => exact congrArg Prod.fst (evaluate_eq_of_timeless hscope (h e hparse) now now' _)

end Evaluator

end TemplateExpr
