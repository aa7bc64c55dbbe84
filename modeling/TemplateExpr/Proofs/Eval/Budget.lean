import TemplateExpr.Proofs.Eval.Correspondence
import TemplateExpr.Proofs.Stateful
import TemplateExpr.Proofs.Syntax.Tree

/-!
# What limits do to an evaluation

`Unbounded` is the machine without limits: it only records how deeply nested each visit is. An
evaluation within limits is the one without them up to the first visit that the limits refuse, and
stops there (`Metered.eval_eq_bounded`). So limits never change a value, and an evaluation that they
stop says which of them was exceeded.

A node is visited at most once, at a depth that is its place in the tree; the visits of an
evaluation are therefore bounded by the nodes and the height of the expression
(`within_unboundedRun`).
-/

namespace TemplateExpr

/-! ## The machine without limits -/

/-- An evaluation that no limit stops. -/
structure Run (α : Type) where
  outcome : Except ExprError α
  /-- How deeply nested each visit is, in the order of the visits. -/
  visits : List Nat

/-- Computations without limits. They are told how deeply nested they are. -/
def Unbounded (α : Type) : Type := Nat → Run α

namespace Unbounded

variable {α β : Type}

def bind (p : Unbounded α) (f : α → Unbounded β) : Unbounded β := fun depth =>
  match (p depth).outcome with
  | .ok a => ⟨(f a depth).outcome, (p depth).visits ++ (f a depth).visits⟩
  | .error e => ⟨.error e, (p depth).visits⟩

instance : Monad Unbounded where
  pure a := fun _ => ⟨.ok a, []⟩
  bind := bind

/-- A visit records its depth, one below what it is nested in. -/
def visit (body : Unbounded α) : Unbounded α := fun depth =>
  ⟨(body (depth + 1)).outcome, (depth + 1) :: (body (depth + 1)).visits⟩

instance : Machine Unbounded where
  fail error := fun _ => ⟨.error error, []⟩
  visit := visit

end Unbounded

/-- The evaluation of an expression without limits, from its root. -/
def unboundedRun (env : Environment) (e : Expr) : Run Value :=
  (Eval.eval env e : Unbounded Value) 0

/-! ## Refusals -/

namespace Limits

/-- Whether limits let a visit happen, by its number, counted from one, and its depth. -/
def Allow (limits : Limits) (number depth : Nat) : Prop :=
  number ≤ limits.maxSteps ∧ depth ≤ limits.maxDepth

instance (limits : Limits) (number depth : Nat) : Decidable (limits.Allow number depth) :=
  inferInstanceAs (Decidable (_ ∧ _))

/-- The limit that stops a visit: that of the steps, also where both are exceeded. -/
def exceeded (limits : Limits) (number : Nat) : Nat :=
  if limits.maxSteps < number then limits.maxSteps else limits.maxDepth

/-- The number of the first visit that limits refuse, after so many steps. -/
def firstRefused? (limits : Limits) (steps : Nat) : List Nat → Option Nat
  | [] => none
  | depth :: visits =>
    if limits.Allow (steps + 1) depth then firstRefused? limits (steps + 1) visits
    else some (steps + 1)

theorem firstRefused?_append (limits : Limits) (steps : Nat) (visits visits' : List Nat) :
    limits.firstRefused? steps (visits ++ visits') =
      (limits.firstRefused? steps visits).or
        (limits.firstRefused? (steps + visits.length) visits') := by
  induction visits generalizing steps with
  | nil => rfl
  | cons depth visits ih =>
    have hsteps : steps + (visits.length + 1) = steps + 1 + visits.length := by omega
    simp only [List.cons_append, firstRefused?, List.length_cons, hsteps]
    split
    · exact ih (steps + 1)
    · rfl

/-- The first refusal is that of the first numbered visit that is not allowed. -/
theorem firstRefused?_eq_find? (limits : Limits) (steps : Nat) (visits : List Nat) :
    limits.firstRefused? steps visits =
      ((visits.zipIdx (steps + 1)).find? fun (depth, number) =>
        ¬ limits.Allow number depth).map (·.2) := by
  induction visits generalizing steps with
  | nil => rfl
  | cons depth visits ih =>
    by_cases h : limits.Allow (steps + 1) depth
    · simp [firstRefused?, List.zipIdx_cons, h, ih]
    · simp [firstRefused?, List.zipIdx_cons, h]

variable {limits : Limits} {steps number : Nat} {visits : List Nat}

theorem firstRefused?_le (h : limits.firstRefused? steps visits = some number) :
    number ≤ steps + visits.length := by
  induction visits generalizing steps with
  | nil => cases h
  | cons depth visits ih =>
    rw [firstRefused?] at h
    rw [List.length_cons]
    split at h
    · have := ih h
      omega
    · cases h
      omega

/-- With steps enough, only the depth is refused. -/
theorem firstRefused?_eq_none_iff (h : steps + visits.length ≤ limits.maxSteps) :
    limits.firstRefused? steps visits = none ↔ ∀ depth ∈ visits, depth ≤ limits.maxDepth := by
  induction visits generalizing steps with
  | nil => simp [firstRefused?]
  | cons depth visits ih =>
    rw [List.length_cons] at h
    have hstep : steps + 1 ≤ limits.maxSteps := by omega
    rw [firstRefused?, List.forall_mem_cons]
    by_cases hdepth : depth ≤ limits.maxDepth
    · rw [if_pos ⟨hstep, hdepth⟩, ih (by omega)]
      simp [hdepth]
    · rw [if_neg fun hallow => hdepth hallow.2]
      simp [hdepth]

/-- Limits that refuse no visit allow a step for each. -/
theorem length_le_of_firstRefused?_eq_none (hsteps : steps ≤ limits.maxSteps)
    (h : limits.firstRefused? steps visits = none) : steps + visits.length ≤ limits.maxSteps := by
  induction visits generalizing steps with
  | nil => exact hsteps
  | cons depth visits ih =>
    rw [firstRefused?] at h
    split at h
    · rename_i hallow
      have hrest := ih hallow.1 h
      rw [List.length_cons]
      omega
    · cases h

end Limits

/-! ## Running within limits -/

/-- What limits make of an unbounded run: they stop it at the first visit that they refuse. -/
def Run.bounded {α : Type} (run : Run α) (limits : Limits) (meter : Meter) :
    EStateM.Result ExprError Meter α :=
  match limits.firstRefused? meter.steps run.visits, run.outcome with
  | some number, _ => .error (.exhausted (limits.exceeded number)) ⟨number, meter.depth⟩
  | none, .ok a => .ok a ⟨meter.steps + run.visits.length, meter.depth⟩
  | none, .error e => .error e ⟨meter.steps + run.visits.length, meter.depth⟩

namespace Metered

variable {α β : Type}

/-- A computation within limits is an unbounded one, stopped at the first refused visit. -/
def Bounds (p : Metered α) (q : Unbounded α) : Prop :=
  ∀ limits meter, p limits meter = (q meter.depth).bounded limits meter

theorem bounds_pure (a : α) : Bounds (pure a) (pure a) := fun _ _ => rfl

theorem bounds_fail (error : ExprError) :
    Bounds (Machine.fail error : Metered α) (Machine.fail error) := fun _ _ => rfl

theorem bounds_bind {p : Metered α} {q : Unbounded α} {f : α → Metered β} {g : α → Unbounded β}
    (h : Bounds p q) (hf : ∀ a, Bounds (f a) (g a)) : Bounds (p >>= f) (q >>= g) := by
  intro limits meter
  rw [run_bind, h limits meter]
  show _ = (Unbounded.bind q g meter.depth).bounded limits meter
  unfold Unbounded.bind
  cases houtcome : (q meter.depth).outcome with
  | error e =>
    simp only [Run.bounded, houtcome]
    cases limits.firstRefused? meter.steps (q meter.depth).visits <;> rfl
  | ok a =>
    simp only [Run.bounded, houtcome, Limits.firstRefused?_append]
    cases limits.firstRefused? meter.steps (q meter.depth).visits with
    | some number => rfl
    | none =>
      simp only [Option.none_or, hf a limits, Run.bounded, List.length_append, Nat.add_assoc]

theorem bounds_map (f : α → β) {p : Metered α} {q : Unbounded α} (h : Bounds p q) :
    Bounds (f <$> p) (f <$> q) := by
  rw [map_eq_pure_bind]
  exact bounds_bind h fun a => bounds_pure (f a)

theorem bounds_visit {p : Metered α} {q : Unbounded α} (h : Bounds p q) :
    Bounds (Machine.visit p) (Machine.visit q) := by
  intro limits meter
  show visit p limits meter = (Unbounded.visit q meter.depth).bounded limits meter
  simp only [visit, Unbounded.visit, Run.bounded, Limits.firstRefused?, Limits.Allow,
    Limits.exceeded]
  by_cases hsteps : limits.maxSteps < meter.steps + 1
  · have hsteps' : ¬ meter.steps + 1 ≤ limits.maxSteps := by omega
    simp only [hsteps, hsteps', false_and, if_true, if_false]
  · have hsteps' : meter.steps + 1 ≤ limits.maxSteps := by omega
    by_cases hdepth : limits.maxDepth < meter.depth + 1
    · have hdepth' : ¬ meter.depth + 1 ≤ limits.maxDepth := by omega
      simp only [hsteps, hdepth, hdepth', and_false, if_true, if_false]
    · have hdepth' : meter.depth + 1 ≤ limits.maxDepth := by omega
      simp only [hsteps, hsteps', hdepth, hdepth', and_self, if_true, if_false, h limits,
        Run.bounded]
      cases limits.firstRefused? (meter.steps + 1) (q (meter.depth + 1)).visits with
      | some number => rfl
      | none =>
        cases (q (meter.depth + 1)).outcome <;>
          simp only [List.length_cons, Nat.add_sub_cancel, Nat.add_assoc, Nat.add_comm 1]

/-- Limits stop evaluations; they do nothing else. -/
def boundsCorrespondence : Correspondence Metered Unbounded where
  Rel := Bounds
  pure := bounds_pure
  map := bounds_map
  bind := bounds_bind
  fail := bounds_fail
  visit := bounds_visit

/-- **An evaluation within limits is the unbounded one, stopped at the first refused visit.** -/
theorem eval_eq_bounded (env : Environment) (e : Expr) (limits : Limits) (meter : Meter) :
    (Eval.eval env e : Metered Value) limits meter =
      ((Eval.eval env e : Unbounded Value) meter.depth).bounded limits meter :=
  boundsCorrespondence.eval env e limits meter

end Metered

/-! ## How much an expression visits -/

namespace Unbounded

variable {α β : Type}

/-- A computation visits at most so many nodes, and none nested deeper than so many levels. -/
def Within (p : Unbounded α) (nodes height : Nat) : Prop :=
  ∀ depth, (p depth).visits.length ≤ nodes ∧ ∀ d ∈ (p depth).visits, d ≤ depth + height

namespace Within

variable {p : Unbounded α} {nodes nodes' height height' : Nat}

theorem mono (h : Within p nodes height) (hnodes : nodes ≤ nodes') (hheight : height ≤ height') :
    Within p nodes' height' := fun depth =>
  ⟨Nat.le_trans (h depth).1 hnodes, fun d hd => Nat.le_trans ((h depth).2 d hd) (by omega)⟩

theorem deeper (h : Within p nodes height) (hheight : height ≤ height') :
    Within p nodes height' := h.mono (Nat.le_refl _) hheight

theorem pure (a : α) : Within (Pure.pure a) 0 height := fun _ =>
  ⟨Nat.le_refl _, fun _ hd => absurd hd List.not_mem_nil⟩

theorem fail (error : ExprError) : Within (Machine.fail error : Unbounded α) 0 height := fun _ =>
  ⟨Nat.le_refl _, fun _ hd => absurd hd List.not_mem_nil⟩

theorem bind {f : α → Unbounded β} (h : Within p nodes height)
    (hf : ∀ a, Within (f a) nodes' height) : Within (p >>= f) (nodes + nodes') height := by
  intro depth
  obtain ⟨hlength, hdepth⟩ := h depth
  show (Unbounded.bind p f depth).visits.length ≤ _ ∧
    ∀ d ∈ (Unbounded.bind p f depth).visits, d ≤ depth + height
  unfold Unbounded.bind
  split
  · rename_i a _
    obtain ⟨hlength', hdepth'⟩ := hf a depth
    refine ⟨?_, fun d hd => ?_⟩
    · rw [List.length_append]
      exact Nat.add_le_add hlength hlength'
    · rcases List.mem_append.mp hd with hd | hd
      · exact hdepth d hd
      · exact hdepth' d hd
  · exact ⟨Nat.le_trans hlength (Nat.le_add_right _ _), hdepth⟩

theorem map (f : α → β) (h : Within p nodes height) : Within (f <$> p) nodes height :=
  h.bind fun a => pure (f a)

theorem visit (h : Within p nodes height) :
    Within (Machine.visit p) (nodes + 1) (height + 1) := by
  intro depth
  obtain ⟨hlength, hdepth⟩ := h (depth + 1)
  refine ⟨Nat.succ_le_succ hlength, fun d hd => ?_⟩
  rcases List.mem_cons.mp hd with rfl | hd
  · omega
  · have := hdepth d hd
    omega

/-! ### Parts of the rules -/

theorem orUndefined {p : Unbounded (Option Value)} (h : Within p nodes height) :
    Within (Eval.orUndefined p) nodes height :=
  h.bind fun link => pure (link.getD .undefined)

theorem settle (outcome : Except ExprError Value) : Within (Eval.settle outcome) 0 height := by
  cases outcome with
  | ok v => exact pure v
  | error e => exact fail e

theorem resolve (env : Environment) (name : String) : Within (Eval.resolve env name) 0 height := by
  obtain ⟨outcome, h⟩ := Eval.exists_resolve_eq_settle env name
  rw [h]
  exact settle outcome

theorem callValue (env : Environment) (callee : Value) (described : String)
    (arguments : Arguments) : Within (Eval.callValue env callee described arguments) 0 height := by
  obtain ⟨outcome, h⟩ := Eval.exists_callValue_eq_settle env callee described arguments
  rw [h]
  exact settle outcome

theorem callMethod (env : Environment) (receiver : Value) (method described : String)
    (arguments : Arguments) :
    Within (Eval.callMethod env receiver method described arguments) 0 height := by
  obtain ⟨outcome, h⟩ := Eval.exists_callMethod_eq_settle env receiver method described arguments
  rw [h]
  exact settle outcome

theorem withReceiver (optional : Bool) (key : String) (receiver : Value) {p : Unbounded Value}
    (h : Within p nodes height) :
    Within (Eval.withReceiver optional key receiver p) nodes height := by
  unfold Eval.withReceiver
  split
  · exact map some h
  · split
    · exact (pure none).mono (Nat.zero_le _) (Nat.le_refl _)
    · exact (fail _).mono (Nat.zero_le _) (Nat.le_refl _)

theorem link {p : Unbounded (Option Value)} {f : Value → Unbounded (Option Value)}
    (h : Within p nodes height) (hnext : ∀ v, Within (f v) nodes' height) :
    Within (p >>= fun | none => Pure.pure none | some v => f v) (nodes + nodes') height := by
  refine h.bind fun v => ?_
  cases v with
  | none => exact (pure none).mono (Nat.zero_le _) (Nat.le_refl _)
  | some v => exact hnext v

/-! ### Expressions -/

mutual

/-- **An expression visits each of its nodes at most once, at its place in the tree.** -/
theorem evalLink (env : Environment) : ∀ (e : Expr),
    Within (Eval.evalLink env e) e.subtrees.length e.height
  | .number _ | .string _ | .bool _ | .null | .undefined => visit (pure _)
  | .identifier name => visit (map some (resolve env name))
  | .binary op left right => by
    have hl := (evalLink env left).deeper (Nat.le_max_left left.height right.height)
    have hr := (evalLink env right).deeper (Nat.le_max_right left.height right.height)
    simp only [Expr.subtrees, List.length_cons, List.length_append]
    exact visit (hl.orUndefined.bind fun a => hr.orUndefined.bind fun b => pure _)
  | .logical op left right => by
    have hl := (evalLink env left).deeper (Nat.le_max_left left.height right.height)
    have hr := (evalLink env right).deeper (Nat.le_max_right left.height right.height)
    simp only [Expr.subtrees, List.length_cons, List.length_append]
    refine visit (hl.orUndefined.bind fun a => ?_)
    split
    · exact (pure _).mono (Nat.zero_le _) (Nat.le_refl _)
    · exact hr.orUndefined.map some
  | .unary op operand => by
    have h := evalLink env operand
    unfold Eval.evalLink
    simp only [Expr.subtrees, List.length_cons]
    refine visit ?_
    split
    · exact (pure _).mono (Nat.zero_le _) (Nat.le_refl _)
    · exact h.orUndefined.bind fun a => pure _
  | .conditional condition consequent alternate => by
    have hc := (evalLink env condition).deeper
      (Nat.le_max_left condition.height (max consequent.height alternate.height))
    have ht : Within (Eval.evalLink env consequent)
        (consequent.subtrees.length + alternate.subtrees.length)
        (max condition.height (max consequent.height alternate.height)) :=
      (evalLink env consequent).mono (by omega) (by omega)
    have he : Within (Eval.evalLink env alternate)
        (consequent.subtrees.length + alternate.subtrees.length)
        (max condition.height (max consequent.height alternate.height)) :=
      (evalLink env alternate).mono (by omega) (by omega)
    simp only [Expr.subtrees, List.length_cons, List.length_append, Nat.add_assoc]
    refine visit (hc.orUndefined.bind fun c => ?_)
    split
    · exact ht.orUndefined.map some
    · exact he.orUndefined.map some
  | .call callee arguments => by
    have hf := (evalLink env callee).deeper
      (Nat.le_max_left callee.height (Expr.heightOfList arguments))
    have hargs := (evalAll env arguments).deeper
      (Nat.le_max_right callee.height (Expr.heightOfList arguments))
    simp only [Expr.subtrees, List.length_cons, List.length_append]
    exact visit (hf.link fun f => hargs.bind fun values => (callValue env f _ values).map some)
  | .methodCall receiver method arguments optional => by
    have hr := (evalLink env receiver).deeper
      (Nat.le_max_left receiver.height (Expr.heightOfList arguments))
    have hargs := (evalAll env arguments).deeper
      (Nat.le_max_right receiver.height (Expr.heightOfList arguments))
    simp only [Expr.subtrees, List.length_cons, List.length_append]
    exact visit <| hr.link fun v => withReceiver optional method v <|
      hargs.bind fun values => callMethod env v method _ values
  | .field receiver name optional =>
    visit <| (evalLink env receiver).link fun v =>
      withReceiver optional name v (pure (v.property name))
  | .index receiver key => by
    have hr := (evalLink env receiver).deeper (Nat.le_max_left receiver.height key.height)
    have hk := (evalLink env key).deeper (Nat.le_max_right receiver.height key.height)
    simp only [Expr.subtrees, List.length_cons, List.length_append]
    exact visit <| hr.link fun v => hk.orUndefined.bind fun k =>
      withReceiver false k.text v (pure (v.property k.text))
  | .array elements => visit ((evalAll env elements).bind fun values => pure _)
  | .object entries => visit ((evalEntries env entries).bind fun pairs => pure _)

theorem evalAll (env : Environment) : ∀ (es : List Expr),
    Within (Eval.evalAll env es) (Expr.subtreesOfList es).length (Expr.heightOfList es)
  | [] => pure []
  | e :: es => by
    have he := (evalLink env e).deeper (Nat.le_max_left e.height (Expr.heightOfList es))
    have hes := (evalAll env es).deeper (Nat.le_max_right e.height (Expr.heightOfList es))
    simp only [Expr.subtreesOfList, List.length_append]
    exact he.orUndefined.bind fun v => hes.bind fun values => pure _

theorem evalEntries (env : Environment) : ∀ (entries : List (String × Expr)),
    Within (Eval.evalEntries env entries) (Expr.subtreesOfEntries entries).length
      (Expr.heightOfEntries entries)
  | [] => pure []
  | (key, e) :: entries => by
    have he := (evalLink env e).deeper (Nat.le_max_left e.height (Expr.heightOfEntries entries))
    have hes := (evalEntries env entries).deeper
      (Nat.le_max_right e.height (Expr.heightOfEntries entries))
    simp only [Expr.subtreesOfEntries, List.length_append]
    exact he.orUndefined.bind fun v => hes.bind fun pairs => pure _

end

end Within

end Unbounded

theorem within_unboundedRun (env : Environment) (e : Expr) :
    (unboundedRun env e).visits.length ≤ e.nodes ∧
      ∀ depth ∈ (unboundedRun env e).visits, depth ≤ e.height := by
  obtain ⟨hnodes, hheight⟩ := (Unbounded.Within.evalLink env e).orUndefined 0
  refine ⟨hnodes, fun depth hdepth => ?_⟩
  have := hheight depth hdepth
  rwa [Nat.zero_add] at this

/-! ## Evaluation within limits -/

/-- What limits leave of an unbounded run from its root: all of it, or the first refused visit. -/
theorem evaluate_eq_firstRefused? (env : Environment) (limits : Limits) (e : Expr) :
    evaluate env limits e =
      match limits.firstRefused? 0 (unboundedRun env e).visits with
      | none => ((unboundedRun env e).outcome, (unboundedRun env e).visits.length)
      | some number => (.error (.exhausted (limits.exceeded number)), number) := by
  unfold evaluate
  rw [Metered.eval_eq_bounded env e limits ⟨0, 0⟩]
  unfold Run.bounded unboundedRun
  simp only
  cases limits.firstRefused? 0 ((Eval.eval env e : Unbounded Value) 0).visits with
  | some number => rfl
  | none => cases ((Eval.eval env e : Unbounded Value) 0).outcome <;> simp

/-- The nesting is what it was before, whether an evaluation succeeds or fails. -/
theorem depth_after_eval (env : Environment) (limits : Limits) (e : Expr) (meter : Meter) :
    match (Eval.eval env e : Metered Value) limits meter with
    | .ok _ after => after.depth = meter.depth
    | .error _ after => after.depth = meter.depth := by
  rw [Metered.eval_eq_bounded]
  unfold Run.bounded
  generalize (Eval.eval env e : Unbounded Value) meter.depth = run
  cases limits.firstRefused? meter.steps run.visits with
  | some number => rfl
  | none => cases run.outcome <;> rfl

/-- **Limits only ever fail closed.** An evaluation within limits is the unbounded one if the limits
allow all its visits, and otherwise fails at the first visit that they refuse, with the limit of the
steps if that is exceeded and with the limit of the depth if only that is. The visits are no more
than the nodes, and no deeper than the tree is high. -/
theorem evaluate_within_limits (env : Environment) (limits : Limits) (e : Expr) :
    evaluate env limits e =
        (match ((unboundedRun env e).visits.zipIdx 1).find? fun (depth, number) =>
            ¬ limits.Allow number depth with
        | none => ((unboundedRun env e).outcome, (unboundedRun env e).visits.length)
        | some (_, number) =>
          (.error (.exhausted
            (if limits.maxSteps < number then limits.maxSteps else limits.maxDepth)), number)) ∧
      (unboundedRun env e).visits.length ≤ e.nodes ∧
      (∀ depth ∈ (unboundedRun env e).visits, depth ≤ e.height) ∧
      ∀ meter : Meter,
        match (Eval.eval env e : Metered Value) limits meter with
        | .ok _ after => after.depth = meter.depth
        | .error _ after => after.depth = meter.depth := by
  obtain ⟨hnodes, hheight⟩ := within_unboundedRun env e
  refine ⟨?_, hnodes, hheight, depth_after_eval env limits e⟩
  rw [evaluate_eq_firstRefused?, Limits.firstRefused?_eq_find?]
  cases ((unboundedRun env e).visits.zipIdx (0 + 1)).find? fun (depth, number) =>
      ¬ limits.Allow number depth with
  | none => rfl
  | some visit => rfl

end TemplateExpr
