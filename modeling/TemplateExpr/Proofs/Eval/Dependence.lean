import TemplateExpr.Eval.Interpreter
import TemplateExpr.Proofs.Syntax.Tree

/-!
# What an evaluation depends on

The value of an expression depends on the scope through the names in the expression only. This
holds on every machine (`evalLink_congr`): with the same meaning for every name in it, an expression
is the same computation in both environments, so its value, its error and its steps are the same.

`Expr.referencedNames` lists these names. Its order is that of the first use of each
(`Expr.pairwise_idxOf_eraseDups`).
-/

namespace TemplateExpr

namespace Eval

variable {m : Type → Type} [Machine m] {env env' : Environment}

theorem isUnbound_congr {e : Expr}
    (h : ∀ name ∈ e.identifiers, env.lookup? name = env'.lookup? name) :
    isUnbound env e = isUnbound env' e := by
  cases e with
  | identifier name =>
    have hname := h name (List.mem_singleton_self name)
    simp only [isUnbound, hname]
  | _ => rfl

/-- Two environments have the same clock and give the names the same meaning. -/
structure Agree (env env' : Environment) (names : List String) : Prop where
  now : env.now = env'.now
  lookup : ∀ name ∈ names, env.lookup? name = env'.lookup? name

namespace Agree

theorem left {names names' : List String} (h : Agree env env' (names ++ names')) :
    Agree env env' names :=
  ⟨h.now, fun name hname => h.lookup name (List.mem_append_left _ hname)⟩

theorem right {names names' : List String} (h : Agree env env' (names ++ names')) :
    Agree env env' names' :=
  ⟨h.now, fun name hname => h.lookup name (List.mem_append_right _ hname)⟩

theorem callValue {names : List String} (h : Agree env env' names) (callee : Value)
    (described : String) (arguments : Arguments) :
    (callValue env callee described arguments : m Value) =
      callValue env' callee described arguments := by
  unfold Eval.callValue
  rw [h.now]

theorem callMethod {names : List String} (h : Agree env env' names) (receiver : Value)
    (method described : String) (arguments : Arguments) :
    (callMethod env receiver method described arguments : m Value) =
      callMethod env' receiver method described arguments := by
  unfold Eval.callMethod
  rw [h.now]

end Agree

mutual

/-- **An expression is the same computation in environments that agree on its names.** -/
theorem evalLink_congr : ∀ (e : Expr), Agree env env' e.identifiers →
    (evalLink env e : m (Option Value)) = evalLink env' e
  | .number _, _ | .string _, _ | .bool _, _ | .null, _ | .undefined, _ => rfl
  | .identifier name, h => by
    have hname := h.lookup name (List.mem_singleton_self name)
    simp only [evalLink, resolve, hname]
  | .binary _ left right, h | .logical _ left right, h => by
    simp only [evalLink, evalLink_congr left h.left, evalLink_congr right h.right]
  | .unary _ operand, h => by
    have hunbound : isUnbound env operand = isUnbound env' operand := isUnbound_congr h.lookup
    simp only [evalLink, evalLink_congr operand h, hunbound]
  | .conditional condition consequent alternate, h => by
    simp only [evalLink, evalLink_congr condition h.left.left,
      evalLink_congr consequent h.left.right, evalLink_congr alternate h.right]
  | .call callee arguments, h => by
    simp only [evalLink, evalLink_congr callee h.left, evalAll_congr arguments h.right,
      h.callValue]
  | .methodCall receiver _ arguments _, h => by
    simp only [evalLink, evalLink_congr receiver h.left, evalAll_congr arguments h.right,
      h.callMethod]
  | .field receiver _ _, h => by
    simp only [evalLink, evalLink_congr receiver h]
  | .index receiver key, h => by
    simp only [evalLink, evalLink_congr receiver h.left, evalLink_congr key h.right]
  | .array elements, h => by
    simp only [evalLink, evalAll_congr elements h]
  | .object entries, h => by
    simp only [evalLink, evalEntries_congr entries h]

theorem evalAll_congr : ∀ (es : List Expr), Agree env env' (Expr.identifiersOfList es) →
    (evalAll env es : m (List Value)) = evalAll env' es
  | [], _ => rfl
  | e :: es, h => by
    simp only [evalAll, evalLink_congr e h.left, evalAll_congr es h.right]

theorem evalEntries_congr :
    ∀ (entries : List (String × Expr)), Agree env env' (Expr.identifiersOfEntries entries) →
      (evalEntries env entries : m (List (String × Value))) = evalEntries env' entries
  | [], _ => rfl
  | (_, e) :: entries, h => by
    simp only [evalEntries, evalLink_congr e h.left, evalEntries_congr entries h.right]

end

/-- Scopes that bind the names of an expression alike agree on them, whatever the library adds. -/
theorem agree_of_lookup?_eq {s s' : Scope} (now : Instant) {e : Expr}
    (h : ∀ name ∈ e.referencedNames, s.lookup? name = s'.lookup? name) :
    Agree ⟨s, now⟩ ⟨s', now⟩ e.identifiers := by
  refine ⟨rfl, fun name hname => ?_⟩
  have hscope : s.lookup? name = s'.lookup? name := h name (Expr.mem_referencedNames.mpr hname)
  simp only [Environment.lookup?, hscope]

theorem evaluate_congr {s s' : Scope} (now : Instant) (limits : Limits) {e : Expr}
    (h : ∀ name ∈ e.referencedNames, s.lookup? name = s'.lookup? name) :
    evaluate ⟨s, now⟩ limits e = evaluate ⟨s', now⟩ limits e := by
  have hlink : (evalLink ⟨s, now⟩ e : Metered (Option Value)) = evalLink ⟨s', now⟩ e :=
    evalLink_congr e (agree_of_lookup?_eq now h)
  simp only [evaluate, eval, hlink]

end Eval

/-- **The referenced names are all that an expression reads from the scope.** Scopes that agree on
them give the same value or error, in as many steps. They are the names of the identifier nodes,
each once, in the order of their first use. -/
theorem referencedNames_determine_evaluate (e : Expr) :
    (∀ (s s' : Scope) (now : Instant) (limits : Limits),
      (∀ name ∈ e.referencedNames, s.lookup? name = s'.lookup? name) →
        evaluate ⟨s, now⟩ limits e = evaluate ⟨s', now⟩ limits e) ∧
      e.referencedNames.Nodup ∧
      (∀ name, name ∈ e.referencedNames ↔ .identifier name ∈ e.subtrees) ∧
      e.referencedNames.Pairwise fun a b =>
        (e.subtrees.filterMap Expr.name?).idxOf a < (e.subtrees.filterMap Expr.name?).idxOf b := by
  refine ⟨fun s s' now limits h => Eval.evaluate_congr now limits h,
    Expr.nodup_referencedNames e, fun name => ?_, ?_⟩
  · rw [Expr.mem_referencedNames, Expr.mem_identifiers]
  · rw [← Expr.identifiers_eq_filterMap]
    exact Expr.pairwise_idxOf_eraseDups e.identifiers

/-- The binding of `c` makes no difference to an object with the short entry `a`, the type of the
unbound `b`, and a call of the library. -/
theorem evaluate_eq_without_unread_binding :
    let e : Expr := .object [("a", .identifier "a"), ("type", .unary .typeof (.identifier "b")),
      ("size", .call (.identifier "ABS") [.identifier "a"])]
    let now : Instant := ⟨0, 0⟩
    (∀ name ∈ e.referencedNames, (Scope.ofFields [("a", .number 1), ("c", .null)]).lookup? name =
      (Scope.ofFields [("a", .number 1)]).lookup? name) ∧
    evaluate ⟨.ofFields [("a", .number 1), ("c", .null)], now⟩ ⟨9, 9⟩ e =
      evaluate ⟨.ofFields [("a", .number 1)], now⟩ ⟨9, 9⟩ e := by
  intro e now
  have hnames : e.referencedNames = ["a", "b", "ABS"] := by decide
  have hagree : ∀ name ∈ e.referencedNames,
      (Scope.ofFields [("a", .number 1), ("c", .null)]).lookup? name =
        (Scope.ofFields [("a", .number 1)]).lookup? name := by
    intro name hname
    rw [hnames] at hname
    simp only [List.mem_cons, List.not_mem_nil, or_false] at hname
    rcases hname with rfl | rfl | rfl <;> rfl
  exact ⟨hagree, (referencedNames_determine_evaluate e).1 _ _ now ⟨9, 9⟩ hagree⟩

end TemplateExpr
