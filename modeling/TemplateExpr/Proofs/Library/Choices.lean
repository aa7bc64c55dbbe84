import TemplateExpr.Proofs.Eval.Values
import TemplateExpr.Proofs.Value.Equality

/-!
# Choices as operators

The functions that choose among their arguments have all of them evaluated, while the operators leave
out what they do not need. On operands that have values the choice is the same, for any number of
them (`choices_agree_with_operators`): a function of many arguments stands for a chain of one
operator, or for conditionals one behind the other.

A chain of operators is a fold of what one operator makes of two values, so each of the variadic
functions comes down to what a step of the fold does to the truth, or to the presence, of the value
that has been reached.
-/

namespace TemplateExpr

/-! ## Folds of operators -/

namespace LogicalOp

theorem isTruthy_and_apply (a b : Value) :
    (and.apply a b).isTruthy = (a.isTruthy && b.isTruthy) := by
  unfold apply settles
  cases h : a.isTruthy <;> simp [h]

theorem isTruthy_or_apply (a b : Value) : (or.apply a b).isTruthy = (a.isTruthy || b.isTruthy) := by
  unfold apply settles
  cases h : a.isTruthy <;> simp [h]

theorem isTruthy_foldl_and (v : Value) (vs : List Value) :
    (vs.foldl and.apply v).isTruthy = (v.isTruthy && vs.all Value.isTruthy) := by
  induction vs generalizing v with
  | nil => simp
  | cons w vs ih => rw [List.foldl_cons, ih, isTruthy_and_apply, List.all_cons, Bool.and_assoc]

theorem isTruthy_foldl_or (v : Value) (vs : List Value) :
    (vs.foldl or.apply v).isTruthy = (v.isTruthy || vs.any Value.isTruthy) := by
  induction vs generalizing v with
  | nil => simp
  | cons w vs ih => rw [List.foldl_cons, ih, isTruthy_or_apply, List.any_cons, Bool.or_assoc]

/-- The first value that is not nullish is kept to the end. -/
theorem foldl_nullish (v : Value) (vs : List Value) :
    nullish.apply (vs.foldl nullish.apply v) .undefined =
      ((v :: vs).find? (!·.isNullish)).getD .undefined := by
  induction vs generalizing v with
  | nil => cases h : v.isNullish <;> simp [apply, settles, h]
  | cons w vs ih =>
    rw [List.foldl_cons, ih]
    cases h : v.isNullish <;> simp [apply, settles, h]

end LogicalOp

/-! ## Cases -/

namespace Library

/-- The arguments behind a subject: cases with their values, and a value without a case. -/
def caseArguments {α : Type} (cases : List (α × α)) (fallback : Option α) : List α :=
  cases.flatMap (fun pair => [pair.1, pair.2]) ++ fallback.toList

theorem forall_mem_caseArguments {α : Type} {P : α → Prop} {cases : List (α × α)}
    {fallback : Option α} :
    (∀ x ∈ caseArguments cases fallback, P x) ↔
      (∀ pair ∈ cases, P pair.1 ∧ P pair.2) ∧ ∀ x ∈ fallback, P x := by
  simp only [caseArguments, List.forall_mem_append, List.forall_mem_flatMap, List.forall_mem_cons,
    List.not_mem_nil, false_implies, implies_true, and_true, Option.mem_toList, Option.mem_def]

theorem choose_caseArguments (subject : Value) (cases : List (Value × Value))
    (fallback : Option Value) :
    choose subject (caseArguments cases fallback) =
      cases.foldr (fun pair rest => if pair.1.strictEquals subject then pair.2 else rest)
        (fallback.getD .undefined) := by
  unfold caseArguments
  induction cases with
  | nil => cases fallback <;> rfl
  | cons pair cases ih =>
    rw [List.foldr_cons, ← ih]
    rfl

end Library

/-! ## Expressions of operators -/

namespace Expr

/-- Expressions with an operator between them, the first one given apart. -/
def operated (op : LogicalOp) (first : Expr) (es : List Expr) : Expr := es.foldl (logical op) first

/-- Expressions with `??` between them, and `undefined` behind them. -/
def firstPresent : List Expr → Expr
  | [] => undefined
  | e :: es => logical .nullish (e.operated .nullish es) undefined

/-- Conditionals one behind the other, each comparing the subject with a case. -/
def firstEqual (subject : Expr) (cases : List (Expr × Expr)) (fallback : Option Expr) : Expr :=
  cases.foldr (fun pair rest => conditional (binary .strictEq subject pair.1) pair.2 rest)
    (fallback.getD undefined)

end Expr

namespace Plain

variable {env : Environment}

theorem hasValue_operated (op : LogicalOp) {first : Expr} {v : Value} {es : List Expr}
    {vs : List Value} (hfirst : HasValue env first v) (hes : List.Forall₂ (HasValue env) es vs) :
    HasValue env (first.operated op es) (vs.foldl op.apply v) := by
  unfold Expr.operated
  induction hes generalizing first v with
  | nil => exact hfirst
  | cons he hes ih => exact ih (evalLink_logical op hfirst he)

theorem hasValue_firstPresent {es : List Expr} {vs : List Value}
    (hes : List.Forall₂ (HasValue env) es vs) :
    HasValue env (.firstPresent es) (Library.coalesce vs) := by
  have hundefined : HasValue env .undefined .undefined := rfl
  cases hes with
  | nil => exact hundefined
  | cons he hes =>
    have hvalue := evalLink_logical .nullish (hasValue_operated .nullish he hes) hundefined
    rwa [LogicalOp.foldl_nullish] at hvalue

theorem evalAll_of_forall₂ {es : List Expr} {vs : List Value}
    (hes : List.Forall₂ (HasValue env) es vs) :
    (Eval.evalAll env es : Plain (List Value)) = Except.ok vs := by
  induction hes with
  | nil => exact evalAll_nil
  | cons he _ ih => exact evalAll_cons he ih

end Plain

/-! ## Operands -/

/-- A name and the value it is to have. -/
structure Operand where
  name : String
  value : Value

namespace Operand

def expr (x : Operand) : Expr := .identifier x.name

def BoundIn (x : Operand) (env : Environment) : Prop := env.lookup? x.name = some x.value

variable {env : Environment}

theorem BoundIn.hasValue {x : Operand} (h : x.BoundIn env) : Plain.HasValue env x.expr x.value :=
  Plain.evalLink_of_lookup? h

theorem forall₂_hasValue {xs : List Operand} (h : ∀ x ∈ xs, x.BoundIn env) :
    List.Forall₂ (Plain.HasValue env) (xs.map expr) (xs.map value) := by
  induction xs with
  | nil => exact .nil
  | cons x xs ih =>
    obtain ⟨hx, hxs⟩ := List.forall_mem_cons.mp h
    exact .cons hx.hasValue (ih hxs)

end Operand

/-- What conditionals on operands make of them. -/
theorem Plain.hasValue_firstEqual {env : Environment} {subject : Operand}
    {cases : List (Operand × Operand)} {fallback : Option Operand} (hsubject : subject.BoundIn env)
    (hcases : ∀ pair ∈ cases, pair.1.BoundIn env ∧ pair.2.BoundIn env)
    (hfallback : ∀ x ∈ fallback, x.BoundIn env) :
    HasValue env
      (subject.expr.firstEqual (cases.map fun pair => (pair.1.expr, pair.2.expr))
        (fallback.map Operand.expr))
      (cases.foldr
        (fun pair rest => if subject.value.strictEquals pair.1.value then pair.2.value else rest)
        ((fallback.map Operand.value).getD .undefined)) := by
  unfold Expr.firstEqual
  induction cases with
  | nil =>
    cases fallback with
    | none => rfl
    | some x => exact (hfallback x rfl).hasValue
  | cons pair cases ih =>
    obtain ⟨⟨hcase, hvalue⟩, hrest⟩ := List.forall_mem_cons.mp hcases
    exact evalLink_conditional (evalLink_binary .strictEq hsubject.hasValue hcase.hasValue)
      hvalue.hasValue (ih hrest)

/-! ## Functions and expressions -/

/-- A formula function has its name, unless the scope has another value for it. -/
theorem Environment.lookup?_name {env : Environment} {f : Formula}
    (h : env.scope.lookup? f.name = none) : env.lookup? f.name = some (.function f) := by
  rw [lookup?, h, Formula.ofName?_name]
  rfl

/-- A formula function of operands comes to the value of an expression, read in some way: when it is
applied to their values, and when it is called by its name within limits that do not stop the call.
The expression has its value without limits, and within all that do not stop its evaluation. -/
def Formula.Stands (f : Formula) (env : Environment) (operands : List Operand) (e : Expr)
    (read : Value → Value) : Prop :=
  ∃ v, (unboundedRun env e).outcome = .ok v ∧
    (∀ limits : Limits, limits.Suffice env e → (evaluate env limits e).1 = .ok v) ∧
    f.call env.now (operands.map Operand.value) = .ok (read v) ∧
    ∀ limits : Limits, env.lookup? f.name = some (.function f) →
      limits.Suffice env (.call (.identifier f.name) (operands.map Operand.expr)) →
      (evaluate env limits (.call (.identifier f.name) (operands.map Operand.expr))).1 = .ok (read v)

theorem Formula.stands_of_hasValue {f : Formula} {env : Environment} {operands : List Operand}
    {e : Expr} {read : Value → Value} {v : Value} (hbound : ∀ x ∈ operands, x.BoundIn env)
    (he : Plain.HasValue env e v)
    (hcall : f.call env.now (operands.map Operand.value) = .ok (read v)) :
    f.Stands env operands e read :=
  ⟨v, (outcome_unboundedRun env e).trans he.eval, fun _ hlimits => he.evaluate hlimits, hcall,
    fun _ hname hlimits =>
      Plain.HasValue.evaluate (Plain.evalLink_call (Plain.evalLink_of_lookup? hname)
        (Plain.evalAll_of_forall₂ (Operand.forall₂_hasValue hbound)) hcall) hlimits⟩

/-- The truth of a value, as a value. -/
def Value.truth (v : Value) : Value := .bool v.isTruthy

/-- Equality of a case with the subject, in the order of the function, is equality of the subject with
the case, in that of the expression. -/
theorem Library.switch_caseArguments {subject : Operand} {cases : List (Operand × Operand)}
    {fallback : Option Operand} (hsubject : subject.value.HasDistinctKeys)
    (hcases : ∀ pair ∈ cases, pair.1.value.HasDistinctKeys) :
    switch ((subject :: caseArguments cases fallback).map Operand.value) =
      cases.foldr
        (fun pair rest => if subject.value.strictEquals pair.1.value then pair.2.value else rest)
        ((fallback.map Operand.value).getD .undefined) := by
  have harguments : (caseArguments cases fallback).map Operand.value =
      caseArguments (cases.map fun pair => (pair.1.value, pair.2.value))
        (fallback.map Operand.value) := by
    cases fallback <;> simp [caseArguments, List.map_flatMap, List.flatMap_map]
  show choose subject.value ((caseArguments cases fallback).map Operand.value) = _
  rw [harguments, choose_caseArguments, List.foldr_map]
  refine List.foldr_ext _ _ _ fun pair hpair rest => ?_
  dsimp only
  rw [Value.strictEquals_comm (hcases pair hpair) hsubject]

/-- **The choices are the operators.** On operands that have values, and for any number of them: `IF`
is a conditional, `COALESCE` a chain of `??` with `undefined` behind it, `AND` and `OR` are the truth
of a chain of `&&` or `||` behind `true` or `false`, `NOT` is `!`, and `SWITCH` is conditionals that
compare its subject with one case after the other, with its last argument or `undefined` behind
them. -/
theorem choices_agree_with_operators (env : Environment) :
    (∀ c t e : Operand, c.BoundIn env → t.BoundIn env → e.BoundIn env →
      Formula.ifElse.Stands env [c, t, e] (.conditional c.expr t.expr e.expr) id) ∧
    (∀ xs : List Operand, (∀ x ∈ xs, x.BoundIn env) →
      Formula.coalesce.Stands env xs (.firstPresent (xs.map Operand.expr)) id ∧
      Formula.and.Stands env xs ((Expr.bool true).operated .and (xs.map Operand.expr)) Value.truth ∧
      Formula.or.Stands env xs ((Expr.bool false).operated .or (xs.map Operand.expr)) Value.truth) ∧
    (∀ x : Operand, x.BoundIn env → Formula.not.Stands env [x] (.unary .not x.expr) id) ∧
    ∀ (subject : Operand) (cases : List (Operand × Operand)) (fallback : Option Operand),
      (∀ x ∈ subject :: Library.caseArguments cases fallback,
        x.BoundIn env ∧ x.value.HasDistinctKeys) →
      Formula.switch.Stands env (subject :: Library.caseArguments cases fallback)
        (subject.expr.firstEqual (cases.map fun pair => (pair.1.expr, pair.2.expr))
          (fallback.map Operand.expr)) id := by
  refine ⟨fun c t e hc ht he => ?_, fun xs hxs => ⟨?_, ?_, ?_⟩, fun x hx => ?_,
    fun subject cases fallback hoperands => ?_⟩
  · refine Formula.stands_of_hasValue ?_
      (Plain.evalLink_conditional hc.hasValue ht.hasValue he.hasValue) rfl
    simp only [List.forall_mem_cons, List.not_mem_nil, false_implies, implies_true, and_true]
    exact ⟨hc, ht, he⟩
  · exact Formula.stands_of_hasValue hxs
      (Plain.hasValue_firstPresent (Operand.forall₂_hasValue hxs)) rfl
  · refine Formula.stands_of_hasValue hxs
      (Plain.hasValue_operated .and rfl (Operand.forall₂_hasValue hxs)) ?_
    rw [Value.truth, LogicalOp.isTruthy_foldl_and]
    rfl
  · refine Formula.stands_of_hasValue hxs
      (Plain.hasValue_operated .or rfl (Operand.forall₂_hasValue hxs)) ?_
    rw [Value.truth, LogicalOp.isTruthy_foldl_or]
    rfl
  · exact Formula.stands_of_hasValue (List.forall_mem_singleton.mpr hx)
      (Plain.evalLink_not hx.hasValue) rfl
  · obtain ⟨⟨hsubject, hdistinct⟩, harguments⟩ := List.forall_mem_cons.mp hoperands
    obtain ⟨hcases, hfallback⟩ := Library.forall_mem_caseArguments.mp harguments
    have hvalue := Plain.hasValue_firstEqual hsubject
      (fun pair hpair => ⟨(hcases pair hpair).1.1, (hcases pair hpair).2.1⟩)
      fun x hx => (hfallback x hx).1
    refine Formula.stands_of_hasValue (fun x hx => (hoperands x hx).1) hvalue ?_
    exact congrArg Except.ok
      (Library.switch_caseArguments hdistinct fun pair hpair => (hcases pair hpair).1.2)

/-- The empty text is present, for the operator as for the function that is called by its name; a text
is not equal to the truth that it spells, so the second case is taken, and the value behind the cases is
not. -/
theorem choices_agree_with_operators_of_texts :
    let scope : Scope := .ofFields [("a", .null), ("b", .string ""), ("s", .bool true),
      ("t", .string "true")]
    let a : Operand := ⟨"a", .null⟩
    let b : Operand := ⟨"b", .string ""⟩
    let s : Operand := ⟨"s", .bool true⟩
    let t : Operand := ⟨"t", .string "true"⟩
    (evaluate ⟨scope, ⟨0, 0⟩⟩ ⟨5, 3⟩ (.firstPresent [a.expr, b.expr])).1 = .ok (.string "") ∧
      (evaluate ⟨scope, ⟨0, 0⟩⟩ ⟨4, 2⟩ (.call (.identifier "COALESCE") [a.expr, b.expr])).1 =
        .ok (.string "") ∧
      (evaluate ⟨scope, ⟨0, 0⟩⟩ ⟨11, 4⟩
        (s.expr.firstEqual [(t.expr, a.expr), (s.expr, b.expr)] (some t.expr))).1 =
        .ok (.string "") := by
  intro scope a b s t
  obtain ⟨-, hmany, -, hswitch⟩ := choices_agree_with_operators ⟨scope, ⟨0, 0⟩⟩
  obtain ⟨⟨v, -, hv, hcoalesce, hcall⟩, -, -⟩ := hmany [a, b]
    (by simp only [List.forall_mem_cons, List.not_mem_nil, false_implies, implies_true, and_true]
        exact ⟨rfl, rfl⟩)
  obtain ⟨w, -, hw, hchoice, -⟩ := hswitch s [(t, a), (s, b)] (some t) (by
    simp only [List.forall_mem_cons, Library.forall_mem_caseArguments, List.not_mem_nil,
      false_implies, implies_true, and_true, Option.mem_def, Option.some.injEq, forall_eq']
    exact ⟨⟨rfl, .plain nofun nofun⟩, ⟨⟨⟨rfl, .plain nofun nofun⟩, rfl, .plain nofun nofun⟩,
      ⟨rfl, .plain nofun nofun⟩, rfl, .plain nofun nofun⟩, rfl, .plain nofun nofun⟩)
  obtain rfl : Value.string "" = v := Except.ok.inj hcoalesce
  obtain rfl : Value.string "" = w := Except.ok.inj hchoice
  have hname : scope.lookup? Formula.coalesce.name = none := by decide
  exact ⟨hv ⟨5, 3⟩ (suffice_of_nodes_le (by decide) (by decide)),
    hcall ⟨4, 2⟩ (Environment.lookup?_name hname) (suffice_of_nodes_le (by decide) (by decide)),
    hw ⟨11, 4⟩ (suffice_of_nodes_le (by decide) (by decide))⟩

end TemplateExpr
