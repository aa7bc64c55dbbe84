import TemplateExpr.Eval.Interpreter

/-!
# Evaluation on two machines

The rules of evaluation are written for any machine, and they use nothing but what a machine offers.
So whatever relates the offers of two machines relates the evaluations of every expression on them:
a `Correspondence` is such a relation, and `Correspondence.evalLink` is the transfer. A statement
about all expressions on two machines is then reduced to five facts about the machines.
-/

namespace TemplateExpr

namespace Eval

/-! ## Parts of the rules that visit nothing

Each has an outcome that is known without the machine. -/

theorem exists_resolve_eq_settle (env : Environment) (name : String) :
    ∃ outcome, ∀ (m : Type → Type) [Machine m], (resolve env name : m Value) = settle outcome := by
  unfold resolve
  cases env.lookup? name with
  | some v => exact ⟨.ok v, fun _ _ => rfl⟩
  | none => exact ⟨.error _, fun _ _ => rfl⟩

theorem exists_callValue_eq_settle (env : Environment) (callee : Value) (described : String)
    (arguments : Arguments) :
    ∃ outcome, ∀ (m : Type → Type) [Machine m],
      (callValue env callee described arguments : m Value) = settle outcome := by
  unfold callValue
  split
  · exact ⟨_, fun _ _ => rfl⟩
  · exact ⟨.error _, fun _ _ => rfl⟩

theorem exists_callMethod_eq_settle (env : Environment) (receiver : Value)
    (method described : String) (arguments : Arguments) :
    ∃ outcome, ∀ (m : Type → Type) [Machine m],
      (callMethod env receiver method described arguments : m Value) = settle outcome := by
  unfold callMethod
  split
  · exact ⟨_, fun _ _ => rfl⟩
  · split
    · exact ⟨_, fun _ _ => rfl⟩
    · exact ⟨.error _, fun _ _ => rfl⟩

end Eval

/-! ## Correspondences -/

/-- A relation between the computations of two machines that respects what machines offer. -/
structure Correspondence (m m' : Type → Type) [Machine m] [Machine m'] where
  Rel : ∀ {α : Type}, m α → m' α → Prop
  pure : ∀ {α : Type} (a : α), Rel (Pure.pure a) (Pure.pure a)
  map : ∀ {α β : Type} (f : α → β) {p : m α} {q : m' α}, Rel p q → Rel (f <$> p) (f <$> q)
  bind : ∀ {α β : Type} {p : m α} {q : m' α} {f : α → m β} {g : α → m' β},
    Rel p q → (∀ a, Rel (f a) (g a)) → Rel (p >>= f) (q >>= g)
  fail : ∀ {α : Type} (error : ExprError),
    Rel (Machine.fail error : m α) (Machine.fail error)
  visit : ∀ {α : Type} {p : m α} {q : m' α}, Rel p q → Rel (Machine.visit p) (Machine.visit q)

namespace Correspondence

open Eval

variable {m m' : Type → Type} [Machine m] [Machine m'] (R : Correspondence m m')
  (env : Environment)

/-! ### Parts of the rules -/

theorem orUndefined {p : m (Option Value)} {q : m' (Option Value)} (h : R.Rel p q) :
    R.Rel (orUndefined p) (orUndefined q) :=
  R.bind h fun link => R.pure (link.getD .undefined)

theorem settle (outcome : Except ExprError Value) :
    R.Rel (settle outcome : m Value) (settle outcome) := by
  cases outcome with
  | ok v => exact R.pure v
  | error e => exact R.fail e

theorem resolve (name : String) : R.Rel (resolve env name : m Value) (resolve env name) := by
  obtain ⟨outcome, h⟩ := exists_resolve_eq_settle env name
  rw [h, h]
  exact R.settle outcome

theorem withReceiver (optional : Bool) (key : String) (receiver : Value) {p : m Value}
    {q : m' Value} (h : R.Rel p q) :
    R.Rel (withReceiver optional key receiver p) (withReceiver optional key receiver q) := by
  unfold Eval.withReceiver
  cases receiver.missing? with
  | none => exact R.map some h
  | some missing =>
    cases optional with
    | true => exact R.pure none
    | false => exact R.fail _

theorem callValue (callee : Value) (described : String) (arguments : Arguments) :
    R.Rel (callValue env callee described arguments : m Value)
      (callValue env callee described arguments) := by
  obtain ⟨outcome, h⟩ := exists_callValue_eq_settle env callee described arguments
  rw [h, h]
  exact R.settle outcome

theorem callMethod (receiver : Value) (method described : String) (arguments : Arguments) :
    R.Rel (callMethod env receiver method described arguments : m Value)
      (callMethod env receiver method described arguments) := by
  obtain ⟨outcome, h⟩ := exists_callMethod_eq_settle env receiver method described arguments
  rw [h, h]
  exact R.settle outcome

/-- A chain goes on with its receiver unless it was given up. -/
theorem link {p : m (Option Value)} {q : m' (Option Value)} {f : Value → m (Option Value)}
    {g : Value → m' (Option Value)} (h : R.Rel p q) (hnext : ∀ v, R.Rel (f v) (g v)) :
    R.Rel
      (p >>= fun | none => Pure.pure none | some v => f v)
      (q >>= fun | none => Pure.pure none | some v => g v) := by
  refine R.bind h fun v => ?_
  cases v with
  | none => exact R.pure none
  | some v => exact hnext v

/-! ### Expressions -/

mutual

/-- **Corresponding machines evaluate every expression correspondingly.** -/
theorem evalLink : ∀ e : Expr, R.Rel (evalLink env e : m (Option Value)) (evalLink env e)
  | .number n => R.visit (R.pure (some (Value.number n)))
  | .string s => R.visit (R.pure (some (Value.string s)))
  | .bool b => R.visit (R.pure (some (Value.bool b)))
  | .null => R.visit (R.pure (some Value.null))
  | .undefined => R.visit (R.pure (some Value.undefined))
  | .identifier name => R.visit (R.map some (R.resolve env name))
  | .binary op left right =>
    R.visit <| R.bind (R.orUndefined (evalLink left)) fun a =>
      R.bind (R.orUndefined (evalLink right)) fun b => R.pure (some (op.apply a b))
  | .logical op left right => by
    refine R.visit (R.bind (R.orUndefined (evalLink left)) fun a => ?_)
    split
    · exact R.pure (some a)
    · exact R.map some (R.orUndefined (evalLink right))
  | .unary op operand => by
    unfold Eval.evalLink
    refine R.visit ?_
    split
    · exact R.pure _
    · exact R.bind (R.orUndefined (evalLink operand)) fun a => R.pure (some (op.apply a))
  | .conditional condition consequent alternate => by
    refine R.visit (R.bind (R.orUndefined (evalLink condition)) fun c => ?_)
    split
    · exact R.map some (R.orUndefined (evalLink consequent))
    · exact R.map some (R.orUndefined (evalLink alternate))
  | .call callee arguments =>
    R.visit <| R.link (evalLink callee) fun f =>
      R.bind (evalAll arguments) fun values => R.map some (R.callValue env f _ values)
  | .methodCall receiver method arguments optional =>
    R.visit <| R.link (evalLink receiver) fun v =>
      R.withReceiver optional method v <|
        R.bind (evalAll arguments) fun values => R.callMethod env v method _ values
  | .field receiver name optional =>
    R.visit <| R.link (evalLink receiver) fun v =>
      R.withReceiver optional name v (R.pure (v.property name))
  | .index receiver key =>
    R.visit <| R.link (evalLink receiver) fun v =>
      R.bind (R.orUndefined (evalLink key)) fun k =>
        R.withReceiver false k.text v (R.pure (v.property k.text))
  | .array elements =>
    R.visit <| R.bind (evalAll elements) fun values => R.pure (some (Value.array values))
  | .object entries =>
    R.visit <| R.bind (evalEntries entries) fun pairs =>
      R.pure (some (Value.object (Fields.ofPairs pairs)))

theorem evalAll : ∀ es : List Expr, R.Rel (evalAll env es : m (List Value)) (evalAll env es)
  | [] => R.pure []
  | e :: es =>
    R.bind (R.orUndefined (evalLink e)) fun v =>
      R.bind (evalAll es) fun values => R.pure (v :: values)

theorem evalEntries : ∀ entries : List (String × Expr),
    R.Rel (evalEntries env entries : m (List (String × Value))) (evalEntries env entries)
  | [] => R.pure []
  | (key, e) :: entries =>
    R.bind (R.orUndefined (evalLink e)) fun v =>
      R.bind (evalEntries entries) fun pairs => R.pure ((key, v) :: pairs)

end

theorem eval (e : Expr) : R.Rel (eval env e : m Value) (eval env e) :=
  R.orUndefined (R.evalLink env e)

end Correspondence

end TemplateExpr
