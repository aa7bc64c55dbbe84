import TemplateExpr.Proofs.Evaluator.Resilience
import TemplateExpr.Proofs.Template.Scan

/-!
# What a template becomes

A template becomes its text with the tokens replaced by the template forms of their values, unless
it is one token and blanks, whose value it becomes as it is. There are two ways to evaluate a
template, one for each case, and they cut the text in different ways; the laws here say that they
agree about one token in any surroundings.

* `Template.segments_surrounded`, `Template.single?_trim_surrounded` — how either way cuts a text
  around a token.
* `evaluate_of_tokens_ok` — a template that is not one token, as the pieces of its scan.
* `evaluate_concatenates` — the same for one token between two texts, for which blanks decide.
-/

namespace TemplateExpr

namespace Template

variable {before source rest after : List Char}

/-! ## A token between texts -/

theorem hasToken_iff_infix {cs : List Char} : hasToken cs = true ↔ ['$', '{'] <:+: cs := by
  induction cs with
  | nil => simp [hasToken]
  | cons c cs ih => rw [hasToken, Bool.or_eq_true, ih, List.isPrefixOf_iff_prefix, List.infix_cons_iff]

theorem hasToken_surrounded (before source rest : List Char) :
    hasToken (before ++ ((Segment.token source).raw ++ rest)) = true :=
  hasToken_iff_infix.mpr ⟨before, source ++ '}' :: rest, by simp [Segment.raw]⟩

/-- A text without the start of a token is not cut, even if it ends in a dollar sign. -/
theorem cutToken?_surrounded (hbefore : hasToken before = false) (hne : source ≠ [])
    (hclosed : '}' ∉ source) (rest : List Char) :
    cutToken? (before ++ ((Segment.token source).raw ++ rest)) = some (before, source, rest) := by
  induction before with
  | nil => exact cutToken?_raw hne hclosed rest
  | cons c before ih =>
    obtain ⟨hhead, htail⟩ := Bool.or_eq_false_iff.mp hbefore
    rw [List.cons_append, cutToken?, ih htail, Option.map_some]
    intro cs hc hcs
    subst hc
    cases before with
    | nil => cases hcs
    | cons d before =>
      cases hcs
      simp at hhead

theorem segments_surrounded (hbefore : hasToken before = false) (hafter : hasToken after = false)
    (hne : source ≠ []) (hclosed : '}' ∉ source) :
    segments (before ++ ((Segment.token source).raw ++ after)) =
      literal before ++ .token source :: literal after := by
  have hlength : (before ++ ((Segment.token source).raw ++ after)).length ≠ 0 := by
    simp [Segment.raw]
  obtain ⟨n, hn⟩ := Nat.exists_eq_succ_of_ne_zero hlength
  rw [segments, hn, segmentsWithin, cutToken?_surrounded hbefore hne hclosed]
  simp only [segmentsWithin_eq_literal hafter]

/-- Trimming takes away the blanks around a token and nothing of the token. -/
theorem trim_surrounded (hbefore : ∀ c ∈ before, Text.isBlank c)
    (hafter : ∀ c ∈ after, Text.isBlank c) :
    Text.trim (before ++ ((Segment.token source).raw ++ after)) = (Segment.token source).raw := by
  have hstart : Text.trimStart (before ++ ((Segment.token source).raw ++ after)) =
      (Segment.token source).raw ++ after := by
    rw [Text.trimStart, List.dropWhile_append_of_pos hbefore]
    exact List.dropWhile_cons_of_neg (by decide)
  have hreverse : (Segment.token source).raw.reverse = '}' :: (source.reverse ++ ['{', '$']) := by
    simp [Segment.raw]
  have hafter' : ∀ c ∈ after.reverse, Text.isBlank c := fun c hc =>
    hafter c (List.mem_reverse.mp hc)
  rw [Text.trim, hstart, Text.trimEnd, List.reverse_append, List.dropWhile_append_of_pos hafter',
    hreverse, List.dropWhile_cons_of_neg (by decide), ← hreverse, List.reverse_reverse]

/-- **A text is one token exactly if there is nothing but blanks around the token.** -/
theorem single?_trim_surrounded (hbefore : hasToken before = false) (hne : source ≠ [])
    (hclosed : '}' ∉ source) (after : List Char) :
    single? (Text.trim (before ++ ((Segment.token source).raw ++ after))) =
      if before.all Text.isBlank && after.all Text.isBlank then some source else none := by
  split
  · rename_i hblank
    rw [Bool.and_eq_true, List.all_eq_true, List.all_eq_true] at hblank
    rw [trim_surrounded hblank.1 hblank.2, single?_eq_some_iff]
    exact ⟨rfl, hne, hclosed⟩
  · rename_i hblank
    rw [Option.eq_none_iff_forall_ne_some]
    intro other hsingle
    obtain ⟨hraw, hne', hclosed'⟩ := single?_eq_some_iff.mp hsingle
    obtain ⟨before', after', hcs, hbefore', hafter'⟩ :=
      exists_blanks_trim (before ++ ((Segment.token source).raw ++ after))
    -- The first token is found behind `before` and behind the blanks that were trimmed.
    have hcut := cutToken?_surrounded hbefore hne hclosed after
    rw [hcs, hraw, cutToken?_append (dollar_not_mem hbefore'), cutToken?_raw hne' hclosed'] at hcut
    simp only [Option.map_some, List.append_nil, Option.some.injEq, Prod.mk.injEq] at hcut
    obtain ⟨rfl, -, rfl⟩ := hcut
    refine hblank ?_
    rw [Bool.and_eq_true, List.all_eq_true, List.all_eq_true]
    exact ⟨hbefore', hafter'⟩

end Template

namespace Evaluator

variable {ev : Evaluator} {now : Instant} {options : EvalOptions}

/-! ## The pieces of a template -/

/-- What a piece shows if the tokens have the given values. -/
def shown (value : String → Value) : Segment → List Char
  | .literal text => text
  | .token source => (value (.ofList source)).templateText.toList

theorem flatMap_shown_literal (value : String → Value) (text : List Char) :
    (Template.literal text).flatMap (shown value) = text := by
  by_cases htext : text = []
  · simp [Template.literal, htext]
  · simp [Template.literal_of_ne_nil htext, shown]

theorem expandSegment_eq_shown {segment : Segment} {value : String → Value}
    (h : ∀ token, segment.source? = some token →
      ev.evaluateExpression now options token = .ok (value token)) :
    ev.expandSegment now options segment = .ok (shown value segment) := by
  cases segment with
  | literal text => rfl
  | token source =>
    have hsource := h (.ofList source) rfl
    simp only [expandSegment, hsource, shown]

/-- **A template that is not one token becomes its literals and the template forms of the values of
its tokens**, one after the other. -/
theorem evaluate_of_tokens_ok {text : String} (value : String → Value)
    (hsingle : Template.single? (Text.trim text.toList) = none)
    (htokens : ∀ token ∈ Template.tokens text.toList,
      ev.evaluateExpression now options token = .ok (value token)) :
    ev.evaluate now options (.string text) =
      .ok (.string (.ofList ((Template.segments text.toList).flatMap (shown value)))) := by
  show ev.evaluateText now options text = _
  unfold evaluateText
  simp only [hsingle]
  split
  · rename_i hnone
    rw [Bool.not_eq_true'] at hnone
    -- Without tokens the text is a literal, or empty.
    have hsegments : Template.segments text.toList = Template.literal text.toList :=
      Template.segmentsWithin_eq_literal hnone _
    rw [hsegments, flatMap_shown_literal, String.ofList_toList]
  · have hpieces : (Template.segments text.toList).mapM (ev.expandSegment now options) =
        .ok ((Template.segments text.toList).map (shown value)) :=
      mapM_eq_ok_map fun segment hsegment => expandSegment_eq_shown fun token htoken =>
        htokens token (List.mem_filterMap.mpr ⟨segment, hsegment, htoken⟩)
    rw [hpieces, List.flatMap_def]
    rfl

/-! ## One token -/

/-- The text of a token between two others. -/
theorem toList_surrounded (before source after : String) :
    (before ++ "$\x7b" ++ source ++ "\x7d" ++ after).toList =
      before.toList ++ ((Segment.token source.toList).raw ++ after.toList) := by
  have hopening : "$\x7b".toList = ['$', '{'] := rfl
  have hclosing : "\x7d".toList = ['}'] := rfl
  simp only [String.toList_append, hopening, hclosing, Segment.raw, List.append_assoc,
    List.cons_append, List.nil_append]

/-- A template that is one token has the value of the token. -/
theorem evaluate_of_single? {text source : String} {v : Value}
    (hsingle : Template.single? (Text.trim text.toList) = some source.toList)
    (htoken : Template.hasToken text.toList = true)
    (hsource : ev.evaluateExpression now options source = .ok v) :
    ev.evaluate now options (.string text) = .ok v := by
  show ev.evaluateText now options text = _
  unfold evaluateText
  simp only [htoken, hsingle, String.ofList_toList, hsource]
  rfl

/-- **The two ways to evaluate a template agree.** One token between two texts becomes its value if
the texts are blank, and otherwise the text with the template form of its value in place of the
token. Any template that is not one token becomes its literals and the template forms of the values
of its tokens. -/
theorem evaluate_concatenates (ev : Evaluator) (now : Instant) (options : EvalOptions) :
    (∀ (source : String) (v : Value), source ≠ "" → '}' ∉ source.toList →
      ev.evaluateExpression now options source = .ok v →
      ∀ before after : String, ¬ ['$', '{'] <:+: before.toList → ¬ ['$', '{'] <:+: after.toList →
        ev.evaluate now options (.string (before ++ "$\x7b" ++ source ++ "\x7d" ++ after)) =
          .ok (if before.toList.all Text.isBlank && after.toList.all Text.isBlank then v
            else .string (before ++ v.templateText ++ after))) ∧
    ∀ (text : String) (value : String → Value),
      Template.single? (Text.trim text.toList) = none →
      (∀ token ∈ Template.tokens text.toList,
        ev.evaluateExpression now options token = .ok (value token)) →
      ev.evaluate now options (.string text) =
        .ok (.string (.ofList ((Template.segments text.toList).flatMap (shown value)))) := by
  refine ⟨fun source v hne hclosed hsource before after hbefore hafter => ?_,
    fun text value => evaluate_of_tokens_ok value⟩
  rw [← Template.hasToken_iff_infix, Bool.not_eq_true] at hbefore hafter
  have hne' : source.toList ≠ [] := fun h => hne (String.toList_eq_nil_iff.mp h)
  have htext := toList_surrounded before source after
  have hsingle := Template.single?_trim_surrounded hbefore hne' hclosed after.toList
  have hsegments := Template.segments_surrounded hbefore hafter hne' hclosed
  rw [← htext] at hsingle hsegments
  split
  · rename_i hblank
    rw [if_pos hblank] at hsingle
    refine evaluate_of_single? hsingle ?_ hsource
    rw [htext]
    exact Template.hasToken_surrounded _ _ _
  · rename_i hblank
    rw [if_neg hblank] at hsingle
    have htokens : ∀ token ∈ Template.tokens
          (before ++ "$\x7b" ++ source ++ "\x7d" ++ after).toList,
        ev.evaluateExpression now options token = .ok v := by
      rw [Template.tokens, hsegments, List.filterMap_append, List.filterMap_cons,
        Template.filterMap_source?_literal, Template.filterMap_source?_literal]
      simpa [Segment.source?] using hsource
    rw [evaluate_of_tokens_ok (fun _ => v) hsingle htokens, hsegments,
      List.flatMap_append, List.flatMap_cons, flatMap_shown_literal, flatMap_shown_literal]
    simp [shown, String.ofList_append, String.append_assoc]

/-- A dollar sign in front of the token, and a closing brace and a line break behind it; then blanks,
not all of them ASCII; then two tokens with empty braces behind them. -/
theorem evaluate_concatenates_dollar_and_blanks :
    let ev := Evaluator.ofScope (.ofFields [("a", .string "x")])
    let now : Instant := ⟨0, 0⟩
    let token (before after : String) := Value.string (before ++ "$\x7b" ++ " a\n" ++ "\x7d" ++ after)
    ev.evaluate now {} (token "$" "\x7d\n") = .ok (.string ("$" ++ "x" ++ "\x7d\n")) ∧
      ev.evaluate now {} (token "\t" "\u3000") = .ok (.string "x") ∧
      ev.evaluate now {} (.string "$\x7ba\x7d-$\x7ba \x7d$\x7b\x7d") =
        .ok (.string (.ofList ['x', '-', 'x', '$', '{', '}'])) := by
  intro ev now token
  obtain ⟨hsurrounded, hpieces⟩ := evaluate_concatenates ev now {}
  have hsource : ev.evaluateExpression now {} " a\n" = .ok (.string "x") := by rfl
  have htoken := hsurrounded " a\n" _ (by decide) (by decide) hsource
  have htext : ("$".toList.all Text.isBlank && "\x7d\n".toList.all Text.isBlank) = false := by
    decide
  have hblank : ("\t".toList.all Text.isBlank && "\u3000".toList.all Text.isBlank) = true := by
    decide
  refine ⟨?_, ?_, ?_⟩
  · have h := htoken "$" "\x7d\n" (by decide) (by decide)
    rwa [htext] at h
  · have h := htoken "\t" "\u3000" (by decide) (by decide)
    rwa [hblank] at h
  · have htokens : Template.tokens "$\x7ba\x7d-$\x7ba \x7d$\x7b\x7d".toList = ["a", "a "] := by
      decide
    have hsegments : Template.segments "$\x7ba\x7d-$\x7ba \x7d$\x7b\x7d".toList =
        [.token ['a'], .literal ['-'], .token ['a', ' '], .literal ['$', '{', '}']] := by decide
    have hvalues : ∀ token ∈ ["a", "a "],
        ev.evaluateExpression now {} token = .ok (.string "x") := by
      simp only [List.forall_mem_cons, List.not_mem_nil, false_imp_iff, implies_true, and_true]
      exact ⟨rfl, rfl⟩
    rw [← htokens] at hvalues
    rw [hpieces _ _ (by decide) hvalues, hsegments]
    simp [shown, Value.templateText, Value.isNullish, Value.text]

end Evaluator

end TemplateExpr
