import TemplateExpr.Proofs.Evaluator.Resilience
import TemplateExpr.Proofs.Template.Scan

/-!
# What is left of a template that fails

A token that fails stays as it is, unless its failure is reported. So a template whose tokens all
fail, or that has none, is its own value (`evaluate_of_tokens_fail`): the pieces of the scan are
put together again, and the scan loses nothing. The shortcuts for a text without tokens and for a
text that is one token come to the same.
-/

namespace TemplateExpr

namespace Evaluator

variable (ev : Evaluator) (now : Instant) (options : EvalOptions)

/-- A token does not evaluate. -/
def Fails (token : String) : Prop :=
  ∃ error, ev.evaluateExpression now options token = .error error

variable {ev} {now} {options}

theorem not_reports (hthrow : options.throwOnError = false)
    (hsanitize : ev.sanitizes options = false) (token : String) :
    ¬ ev.Reports now options token := by
  rw [reports_iff_isDangerous ev now options hthrow]
  intro hdangerous
  exact Bool.false_ne_true (hsanitize.symm.trans hdangerous.1)

theorem reports_eq_false {token : String} {error : ExprError}
    (h : ¬ ev.Reports now options token)
    (herror : ev.evaluateExpression now options token = .error error) :
    reports options error = false := by
  rw [← Bool.not_eq_true]
  exact fun hreports => h ⟨error, herror, hreports⟩

/-- A piece stays as it is if it is a literal, or a token that fails and is not reported. -/
theorem expandSegment_eq_raw {segment : Segment}
    (hreports : ∀ token, ¬ ev.Reports now options token)
    (hfails : ∀ token, segment.source? = some token → ev.Fails now options token) :
    ev.expandSegment now options segment = .ok segment.raw := by
  cases segment with
  | literal text => rfl
  | token source =>
    obtain ⟨error, herror⟩ := hfails _ rfl
    simp only [expandSegment, herror, reports_eq_false (hreports _) herror]
    rfl

/-- **A template whose tokens all fail without being reported is its own value.** -/
theorem evaluate_of_tokens_fail {text : String} (hdefault : options.defaultValue = none)
    (hreports : ∀ token, ¬ ev.Reports now options token)
    (hfails : ∀ token ∈ Template.tokens text.toList, ev.Fails now options token) :
    ev.evaluate now options (.string text) = .ok (.string text) := by
  show ev.evaluateText now options text = _
  unfold evaluateText
  simp only
  split
  · rfl
  · split
    · rename_i source hsingle
      rw [Template.tokens_of_single?_trim hsingle] at hfails
      obtain ⟨error, herror⟩ := hfails _ List.mem_cons_self
      simp only [herror, reports_eq_false (hreports _) herror, hdefault]
      rfl
    · have hpieces : (Template.segments text.toList).mapM (ev.expandSegment now options) =
          .ok ((Template.segments text.toList).map Segment.raw) :=
        mapM_eq_ok_map fun segment hsegment => expandSegment_eq_raw hreports fun token htoken =>
          hfails token (List.mem_filterMap.mpr ⟨segment, hsegment, htoken⟩)
      rw [hpieces]
      show Except.ok (Value.string (.ofList _)) = _
      rw [← List.flatMap_def, Template.flatMap_raw_segments, String.ofList_toList]

/-- **The scan loses nothing and finds every token.** The pieces of every text satisfy the laws of
a split, the shortcut for a text that is one token agrees with them, and with failures overlooked
and no default a template whose tokens all fail is its own value. -/
theorem scan_loses_nothing :
    (∀ cs, Template.Split cs (Template.segments cs)) ∧
    (∀ cs source, Template.single? cs = some source ↔
      Template.segments cs = [.token source] ∧ (Segment.token source).raw = cs) ∧
    (∀ (ev : Evaluator) (now : Instant) (options : EvalOptions) (text : String),
      options.throwOnError = false → options.defaultValue = none → ev.sanitizes options = false →
      (∀ token ∈ Template.tokens text.toList, ev.Fails now options token) →
      ev.evaluate now options (.string text) = .ok (.string text)) := by
  refine ⟨Template.split_segments, fun cs source => Template.single?_eq_some_iff_segments,
    fun ev now options text hthrow hdefault hsanitize hfails => ?_⟩
  exact evaluate_of_tokens_fail hdefault (not_reports hthrow hsanitize) hfails

/-- Empty braces, a token that does not parse, and a start that is never closed. -/
theorem scan_loses_nothing_of_half_open_text :
    let ev := Evaluator.ofScope .empty
    let now : Instant := ⟨0, 0⟩
    let options : EvalOptions := { sanitize := some false }
    let text := "$\x7b\x7d$\x7b(\x7d$\x7b$\x7bopen"
    Template.segments text.toList =
        [.literal ['$', '{', '}'], .token ['('], .literal "$\x7b$\x7bopen".toList] ∧
      Template.Split text.toList (Template.segments text.toList) ∧
      Template.single? "$\x7b$\x7b(\x7d".toList = some ['$', '{', '('] ∧
      ev.evaluate now options (.string text) = .ok (.string text) := by
  intro ev now options text
  obtain ⟨hsplit, hsingle, hkept⟩ := scan_loses_nothing
  refine ⟨by decide, hsplit _, (hsingle _ _).mpr (by decide), ?_⟩
  refine hkept ev now options text rfl rfl rfl ?_
  have htokens : Template.tokens text.toList = ["("] := by decide
  rw [htokens, List.forall_mem_singleton]
  exact ⟨_, rfl⟩

end Evaluator

end TemplateExpr
