import TemplateExpr.Proofs.Eval.Budget

/-!
# What an evaluation ends with

`Plain` is the machine that ignores visits: an evaluation on it is its value or its error and nothing
else. It is what remains of the machine without limits when the visits are forgotten
(`outcome_unboundedRun`), so an evaluation within limits that is not stopped ends as on it
(`evaluate_eq_plain`).

The rules of evaluation, the library and the methods raise two kinds of errors: names without a
meaning, and operations that do not apply (`Plain.evalLink_raises`). A third one comes from the
limits.
-/

namespace TemplateExpr

/-- Computations that end with a value or an error; visits make no difference to them. -/
def Plain (α : Type) : Type := Except ExprError α

namespace Plain

variable {α β : Type}

instance : Monad Plain := inferInstanceAs (Monad (Except ExprError))

instance : Machine Plain where
  fail error := Except.error error
  visit body := body

/-- Forgetting the visits of a computation without limits. -/
def forgetVisits : Correspondence Unbounded Plain where
  Rel p q := ∀ depth, (p depth).outcome = q
  pure _ _ := rfl
  map f p q h depth := by
    show (Unbounded.bind p (fun a => pure (f a)) depth).outcome = f <$> q
    rw [Unbounded.bind, ← h depth]
    cases (p depth).outcome <;> rfl
  bind {_ _ p q f g} h hf depth := by
    show (Unbounded.bind p f depth).outcome = q >>= g
    rw [Unbounded.bind, ← h depth]
    cases (p depth).outcome with
    | error e => rfl
    | ok a => exact hf a depth
  fail _ _ := rfl
  visit h depth := h (depth + 1)

end Plain

theorem outcome_unboundedRun (env : Environment) (e : Expr) :
    (unboundedRun env e).outcome = (Eval.eval env e : Plain Value) :=
  Plain.forgetVisits.eval env e 0

/-- A link that has been evaluated within limits has that value without them. -/
theorem Plain.evalLink_of_metered {env : Environment} {e : Expr} {limits : Limits}
    {before after : Meter} {v? : Option Value}
    (h : (Eval.evalLink env e : Metered (Option Value)) limits before = .ok v? after) :
    (Eval.evalLink env e : Plain (Option Value)) = Except.ok v? := by
  rw [Metered.boundsCorrespondence.evalLink env e limits before] at h
  rw [← Plain.forgetVisits.evalLink env e before.depth]
  unfold Run.bounded at h
  split at h
  · cases h
  · rename_i hok
    cases h
    exact hok
  · cases h

/-! ## Limits that are not reached -/

/-- The limits do not stop the evaluation of the expression. -/
def Limits.Suffice (limits : Limits) (env : Environment) (e : Expr) : Prop :=
  ∀ limit, (evaluate env limits e).1 ≠ .error (.exhausted limit)

theorem evaluate_eq_exhausted_or_plain (env : Environment) (limits : Limits) (e : Expr) :
    (evaluate env limits e).1 = .error (.exhausted limits.maxSteps) ∨
      (evaluate env limits e).1 = .error (.exhausted limits.maxDepth) ∨
      (evaluate env limits e).1 = (Eval.eval env e : Plain Value) := by
  rw [evaluate_eq_firstRefused?, ← outcome_unboundedRun]
  cases limits.firstRefused? 0 (unboundedRun env e).visits with
  | none => exact .inr (.inr rfl)
  | some number =>
    simp only [Limits.exceeded]
    split
    · exact .inl rfl
    · exact .inr (.inl rfl)

theorem evaluate_eq_plain {env : Environment} {limits : Limits} {e : Expr}
    (h : limits.Suffice env e) : (evaluate env limits e).1 = (Eval.eval env e : Plain Value) := by
  rcases evaluate_eq_exhausted_or_plain env limits e with hsteps | hdepth | hplain
  · exact absurd hsteps (h _)
  · exact absurd hdepth (h _)
  · exact hplain

/-- Limits that do not stop an evaluation leave all of its run. -/
theorem evaluate_eq_of_suffice {env : Environment} {limits : Limits} {e : Expr}
    (h : limits.Suffice env e) :
    evaluate env limits e = ((unboundedRun env e).outcome, (unboundedRun env e).visits.length) := by
  have hresult := evaluate_eq_firstRefused? env limits e
  cases hrefused : limits.firstRefused? 0 (unboundedRun env e).visits with
  | none => rwa [hrefused] at hresult
  | some number =>
    rw [hrefused] at hresult
    exact absurd (congrArg Prod.fst hresult) (h _)

/-- An evaluation that ends with a value was not stopped. -/
theorem run_of_evaluate_eq_ok {env : Environment} {limits : Limits} {e : Expr} {v : Value}
    {steps : Nat} (h : evaluate env limits e = (.ok v, steps)) :
    (unboundedRun env e).outcome = .ok v ∧ (unboundedRun env e).visits.length = steps ∧
      steps ≤ limits.maxSteps ∧ ∀ depth ∈ (unboundedRun env e).visits, depth ≤ limits.maxDepth := by
  rw [evaluate_eq_firstRefused?] at h
  cases hrefused : limits.firstRefused? 0 (unboundedRun env e).visits with
  | some number => rw [hrefused] at h; cases h
  | none =>
    rw [hrefused] at h
    obtain ⟨houtcome, hsteps⟩ := Prod.mk.inj h
    have hle := Limits.length_le_of_firstRefused?_eq_none (Nat.zero_le _) hrefused
    refine ⟨houtcome, hsteps, by omega, ?_⟩
    rwa [Limits.firstRefused?_eq_none_iff hle] at hrefused

/-! ## Errors of the library and the methods -/

/-- A computation fails in no other way than because an operation does not apply. -/
def OnlyTypeErrors {α : Type} (outcome : Except ExprError α) : Prop :=
  ∀ error, outcome = .error error → ∃ cause, error = .type cause

namespace OnlyTypeErrors

variable {α β : Type}

theorem ok (a : α) : OnlyTypeErrors (.ok a) := by
  intro error h
  cases h

theorem error (cause : TypeCause) : OnlyTypeErrors (.error (.type cause) : Except ExprError α) := by
  intro error h
  cases h
  exact ⟨cause, rfl⟩

theorem bind {outcome : Except ExprError α} {f : α → Except ExprError β}
    (houtcome : OnlyTypeErrors outcome) (hf : ∀ a, OnlyTypeErrors (f a)) :
    OnlyTypeErrors (outcome >>= f) := by
  intro error h
  cases outcome with
  | error e =>
    cases h
    exact houtcome _ rfl
  | ok a => exact hf a error h

theorem map (f : α → β) {outcome : Except ExprError α} (h : OnlyTypeErrors outcome) :
    OnlyTypeErrors (outcome.map f) := by
  cases outcome with
  | error e =>
    obtain ⟨cause, rfl⟩ := h e rfl
    exact error cause
  | ok a => exact ok (f a)

end OnlyTypeErrors

theorem Library.onlyTypeErrors_withPlaces (value places : Number) :
    OnlyTypeErrors (withPlaces value places) := by
  unfold withPlaces
  split
  · exact .ok _
  · exact .error .fractionDigits

theorem Library.onlyTypeErrors_dateAdd (arguments : Arguments) :
    OnlyTypeErrors (dateAdd arguments) := by
  unfold dateAdd
  split
  · exact .ok _
  · exact .error .invalidDate

/-- The library refuses arguments with a type error and in no other way. -/
theorem Formula.onlyTypeErrors_call (now : Instant) (f : Formula) (arguments : Arguments) :
    OnlyTypeErrors (f.call now arguments) := by
  cases f with
  | dateAdd => exact (Library.onlyTypeErrors_dateAdd arguments).bind fun text => .ok _
  | fixed => exact (Library.onlyTypeErrors_withPlaces _ _).bind fun text => .ok _
  | percent =>
    exact ((Library.onlyTypeErrors_withPlaces _ _).bind fun text => .ok _).bind fun text => .ok _
  | _ => exact .ok _

/-- So do the methods. -/
theorem Value.onlyTypeErrors_method? {receiver : Value} {method : String} {arguments : Arguments}
    {outcome : Except ExprError Value} (h : receiver.method? method arguments = some outcome) :
    OnlyTypeErrors outcome := by
  unfold method? at h
  rw [Option.orElse_eq_orElse, Option.orElse_eq_or, Option.or_eq_some_iff] at h
  rcases h with hown | ⟨-, htext⟩
  · split at hown
    · obtain ⟨v, -, rfl⟩ := Option.map_eq_some_iff.mp hown
      exact .ok v
    · obtain ⟨v, -, rfl⟩ := Option.map_eq_some_iff.mp hown
      exact .ok v
    · split at hown <;> cases hown
      exact (Library.onlyTypeErrors_withPlaces _ _).map string
    · cases hown
  · split at htext <;> cases htext
    exact .ok _

/-! ## Errors of an evaluation -/

/-- The errors that come from the rules of evaluation. -/
inductive ExprError.Intrinsic : ExprError → Prop where
  | unbound (name : String) : Intrinsic (.unbound name)
  | type (cause : TypeCause) : Intrinsic (.type cause)

namespace Plain

variable {α β : Type}

/-- A computation fails with no other errors than those of the rules of evaluation. -/
def Raises (p : Plain α) : Prop := ∀ error, p = Except.error error → error.Intrinsic

namespace Raises

theorem pure (a : α) : Raises (Pure.pure a) := by
  intro error h
  cases h

theorem fail {error : ExprError} (h : error.Intrinsic) :
    Raises (Machine.fail error : Plain α) := by
  intro error' heq
  cases heq
  exact h

theorem bind {p : Plain α} {f : α → Plain β} (hp : Raises p) (hf : ∀ a, Raises (f a)) :
    Raises (p >>= f) := by
  intro error h
  cases p with
  | error e =>
    cases h
    exact hp _ rfl
  | ok a => exact hf a error h

theorem map (f : α → β) {p : Plain α} (hp : Raises p) : Raises (f <$> p) := by
  intro error h
  cases p with
  | error e =>
    cases h
    exact hp _ rfl
  | ok a => cases h

theorem orUndefined {p : Plain (Option Value)} (hp : Raises p) : Raises (Eval.orUndefined p) :=
  hp.bind fun link => pure (link.getD .undefined)

theorem settle {outcome : Except ExprError Value} (h : OnlyTypeErrors outcome) :
    Raises (Eval.settle outcome) := by
  cases outcome with
  | ok v => exact pure v
  | error e =>
    obtain ⟨cause, rfl⟩ := h e rfl
    exact fail (.type cause)

theorem resolve (env : Environment) (name : String) : Raises (Eval.resolve env name) := by
  unfold Eval.resolve
  split
  · exact pure _
  · exact fail (.unbound name)

theorem withReceiver (optional : Bool) (key : String) (receiver : Value) {p : Plain Value}
    (hp : Raises p) : Raises (Eval.withReceiver optional key receiver p) := by
  unfold Eval.withReceiver
  split
  · exact hp.map some
  · split
    · exact pure none
    · exact fail (.type _)

theorem callValue (env : Environment) (callee : Value) (described : String)
    (arguments : Arguments) : Raises (Eval.callValue env callee described arguments) := by
  unfold Eval.callValue
  split
  · exact settle (Formula.onlyTypeErrors_call _ _ _)
  · exact fail (.type _)

theorem callMethod (env : Environment) (receiver : Value) (method described : String)
    (arguments : Arguments) :
    Raises (Eval.callMethod env receiver method described arguments) := by
  unfold Eval.callMethod
  split
  · exact settle (Formula.onlyTypeErrors_call _ _ _)
  · split
    · rename_i outcome houtcome
      exact settle (Value.onlyTypeErrors_method? houtcome)
    · exact fail (.type _)

theorem link {p : Plain (Option Value)} {f : Value → Plain (Option Value)} (hp : Raises p)
    (hnext : ∀ v, Raises (f v)) :
    Raises (p >>= fun | none => Pure.pure none | some v => f v) := by
  refine hp.bind fun v? => ?_
  cases v? with
  | none => exact pure none
  | some v => exact hnext v

end Raises

open Raises in
mutual

/-- **An expression fails because of a name without a meaning or an operation that does not apply.** -/
theorem evalLink_raises (env : Environment) : ∀ e : Expr, Raises (Eval.evalLink env e)
  | .number _ | .string _ | .bool _ | .null | .undefined => pure _
  | .identifier name => (resolve env name).map some
  | .binary _ left right =>
    (evalLink_raises env left).orUndefined.bind fun _ =>
      (evalLink_raises env right).orUndefined.bind fun _ => pure _
  | .logical op left right => by
    refine (evalLink_raises env left).orUndefined.bind fun a => ?_
    split
    · exact pure _
    · exact (evalLink_raises env right).orUndefined.map some
  | .unary op operand => by
    unfold Eval.evalLink
    show Raises (if _ then _ else _)
    split
    · exact pure _
    · exact (evalLink_raises env operand).orUndefined.bind fun _ => pure _
  | .conditional condition consequent alternate => by
    refine (evalLink_raises env condition).orUndefined.bind fun c => ?_
    split
    · exact (evalLink_raises env consequent).orUndefined.map some
    · exact (evalLink_raises env alternate).orUndefined.map some
  | .call callee arguments =>
    (evalLink_raises env callee).link fun f =>
      (evalAll_raises env arguments).bind fun values => (callValue env f _ values).map some
  | .methodCall receiver method arguments optional =>
    (evalLink_raises env receiver).link fun v => withReceiver optional method v <|
      (evalAll_raises env arguments).bind fun values => callMethod env v method _ values
  | .field receiver name optional =>
    (evalLink_raises env receiver).link fun v => withReceiver optional name v (pure _)
  | .index receiver key =>
    (evalLink_raises env receiver).link fun v =>
      (evalLink_raises env key).orUndefined.bind fun k => withReceiver false k.text v (pure _)
  | .array elements => (evalAll_raises env elements).bind fun _ => pure _
  | .object entries => (evalEntries_raises env entries).bind fun _ => pure _

theorem evalAll_raises (env : Environment) : ∀ es : List Expr, Raises (Eval.evalAll env es)
  | [] => pure []
  | e :: es =>
    (evalLink_raises env e).orUndefined.bind fun _ =>
      (evalAll_raises env es).bind fun _ => pure _

theorem evalEntries_raises (env : Environment) :
    ∀ entries : List (String × Expr), Raises (Eval.evalEntries env entries)
  | [] => pure []
  | (_, e) :: entries =>
    (evalLink_raises env e).orUndefined.bind fun _ =>
      (evalEntries_raises env entries).bind fun _ => pure _

end

end Plain

/-- An evaluation within limits fails as the rules have it, or because of a limit. -/
theorem evaluate_fails {env : Environment} {limits : Limits} {e : Expr} {error : ExprError}
    (h : (evaluate env limits e).1 = .error error) :
    error.Intrinsic ∨ error = .exhausted limits.maxSteps ∨ error = .exhausted limits.maxDepth := by
  rcases evaluate_eq_exhausted_or_plain env limits e with hsteps | hdepth | hplain
  · exact .inr (.inl (Except.error.inj (h.symm.trans hsteps)))
  · exact .inr (.inr (Except.error.inj (h.symm.trans hdepth)))
  · refine .inl ((Plain.evalLink_raises env e).orUndefined error ?_)
    exact hplain.symm.trans h

/-- As many steps as nodes and as many levels as the tree is high are always enough. -/
theorem suffice_of_nodes_le {env : Environment} {limits : Limits} {e : Expr}
    (hsteps : e.nodes ≤ limits.maxSteps) (hdepth : e.height ≤ limits.maxDepth) :
    limits.Suffice env e := by
  intro limit hstopped
  obtain ⟨hvisits, hheight⟩ := within_unboundedRun env e
  have hnone : limits.firstRefused? 0 (unboundedRun env e).visits = none := by
    rw [Limits.firstRefused?_eq_none_iff (by omega)]
    exact fun depth hmem => Nat.le_trans (hheight depth hmem) hdepth
  rw [evaluate_eq_firstRefused?, hnone] at hstopped
  have hplain : (Eval.eval env e : Plain Value) = Except.error (.exhausted limit) := by
    rw [← outcome_unboundedRun]
    exact hstopped
  cases (Plain.evalLink_raises env e).orUndefined _ hplain

end TemplateExpr
