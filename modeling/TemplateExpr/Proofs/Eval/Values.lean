import TemplateExpr.Proofs.Eval.Outcome

/-!
# The values of nodes

What a node evaluates to when its parts have values, on the machine that ignores visits: one rule for
each kind of node, and the value within limits that do not stop the evaluation
(`HasValue.evaluate`).
-/

namespace TemplateExpr

/-- The value of a logical operation whose operands both have values. -/
def LogicalOp.apply (op : LogicalOp) (a b : Value) : Value := if op.settles a then a else b

namespace Value

theorem property_string_ne_function (s key : String) (f : Formula) :
    (string s).property key ≠ .function f := by
  unfold property
  dsimp only
  split
  · exact nofun
  · split <;> exact nofun

end Value

namespace Plain

/-- The expression has a value, as a link does that was not given up. -/
abbrev HasValue (env : Environment) (e : Expr) (v : Value) : Prop :=
  (Eval.evalLink env e : Plain (Option Value)) = Except.ok (some v)

variable {env : Environment} {e left right : Expr} {v a b : Value}

theorem evalLink_of_lookup? {x : String} (hx : env.lookup? x = some v) :
    HasValue env (.identifier x) v := by
  show some <$> (Eval.resolve env x : Plain Value) = _
  rw [Eval.resolve, hx]
  rfl

/-- A name in the scope has the value that it is bound to. -/
theorem evalLink_identifier {x : String} (hx : env.scope.lookup? x = some v) :
    HasValue env (.identifier x) v :=
  evalLink_of_lookup? (by rw [Environment.lookup?, hx, Option.some_or])

theorem evalLink_binary (op : BinaryOp) (hleft : HasValue env left a)
    (hright : HasValue env right b) : HasValue env (.binary op left right) (op.apply a b) := by
  show (do
    let a ← Eval.orUndefined (Eval.evalLink env left)
    let b ← Eval.orUndefined (Eval.evalLink env right)
    return some (op.apply a b) : Plain (Option Value)) = _
  rw [hleft, hright]
  rfl

theorem evalLink_logical (op : LogicalOp) (hleft : HasValue env left a)
    (hright : HasValue env right b) : HasValue env (.logical op left right) (op.apply a b) := by
  show (do
    let a ← Eval.orUndefined (Eval.evalLink env left)
    if op.settles a then return some a
    else some <$> Eval.orUndefined (Eval.evalLink env right) : Plain (Option Value)) = _
  rw [hleft, hright]
  show (if op.settles a then Except.ok (some a) else Except.ok (some b)) = _
  rw [LogicalOp.apply]
  split <;> rfl

theorem evalLink_conditional {condition : Expr} {c : Value}
    (hcondition : HasValue env condition c) (hleft : HasValue env left a)
    (hright : HasValue env right b) :
    HasValue env (.conditional condition left right) (if c.isTruthy then a else b) := by
  show (do
    let c ← Eval.orUndefined (Eval.evalLink env condition)
    if c.isTruthy then some <$> Eval.orUndefined (Eval.evalLink env left)
    else some <$> Eval.orUndefined (Eval.evalLink env right) : Plain (Option Value)) = _
  rw [hcondition, hleft, hright]
  show (if c.isTruthy then Except.ok (some a) else Except.ok (some b)) = _
  split <;> rfl

theorem evalLink_not (h : HasValue env e v) :
    HasValue env (.unary .not e) (.bool !v.isTruthy) := by
  show (do
    let v ← Eval.orUndefined (Eval.evalLink env e)
    return some (.bool !v.isTruthy) : Plain (Option Value)) = _
  rw [h]
  rfl

theorem evalAll_nil : (Eval.evalAll env [] : Plain (List Value)) = Except.ok [] := rfl

theorem evalAll_cons {es : List Expr} {values : List Value} (he : HasValue env e v)
    (hes : (Eval.evalAll env es : Plain (List Value)) = Except.ok values) :
    (Eval.evalAll env (e :: es) : Plain (List Value)) = Except.ok (v :: values) := by
  show (do
    let v ← Eval.orUndefined (Eval.evalLink env e)
    return v :: (← Eval.evalAll env es) : Plain (List Value)) = _
  rw [he, hes]
  rfl

/-- A call of a formula function that does not refuse its arguments. -/
theorem evalLink_call {callee : Expr} {arguments : List Expr} {values : List Value} {f : Formula}
    (hcallee : HasValue env callee (.function f))
    (harguments : (Eval.evalAll env arguments : Plain (List Value)) = Except.ok values)
    (hcall : f.call env.now values = .ok v) : HasValue env (.call callee arguments) v := by
  rw [HasValue, Eval.evalLink]
  show (Eval.evalLink env callee >>= _ : Plain (Option Value)) = _
  rw [hcallee]
  show (Eval.evalAll env arguments >>= fun values =>
    some <$> Eval.callValue env (.function f) callee.describe values : Plain (Option Value)) = _
  rw [harguments]
  show some <$> (Eval.settle (f.call env.now values) : Plain Value) = _
  rw [hcall]
  rfl

/-- A receiver that has a value, or that was given up, is what its link goes on with. -/
theorem bind_link_of_ok {p : Plain (Option Value)} {v? : Option Value} (h : p = Except.ok v?)
    (next : Value → Plain (Option Value)) :
    (p >>= fun | none => pure none | some v => next v) = v?.elim (pure none) next := by
  subst h
  cases v? <;> rfl

/-- A field of a value that has properties. -/
theorem evalLink_field (he : HasValue env e v) (hv : v.missing? = none) (name : String)
    (optional : Bool) : HasValue env (.field e name optional) (v.property name) := by
  have hlink := bind_link_of_ok he fun v => Eval.withReceiver optional name v (pure (v.property name))
  refine hlink.trans ?_
  show Eval.withReceiver optional name v (pure (v.property name)) = _
  rw [Eval.withReceiver, hv]
  rfl

/-- What a value that has properties holds under a key. -/
theorem evalLink_index {key : Expr} {k : Value} (he : HasValue env e v) (hv : v.missing? = none)
    (hkey : HasValue env key k) : HasValue env (.index e key) (v.property k.text) := by
  have hlink := bind_link_of_ok he fun v => do
    let key := (← Eval.orUndefined (Eval.evalLink env key)).text
    Eval.withReceiver false key v (pure (v.property key))
  refine hlink.trans ?_
  show (Eval.orUndefined (Eval.evalLink env key) >>= fun k =>
    Eval.withReceiver false k.text v (pure (v.property k.text)) : Plain (Option Value)) = _
  rw [hkey]
  show Eval.withReceiver false k.text v (pure (v.property k.text)) = _
  rw [Eval.withReceiver, hv]
  rfl

/-- A method of a value that has properties; no function in a field of it is in the way. -/
theorem evalLink_method {arguments : List Expr} {values : List Value} {method : String} {w : Value}
    (he : HasValue env e v) (hv : v.missing? = none) (hfield : ∀ f, v.property method ≠ .function f)
    (harguments : (Eval.evalAll env arguments : Plain (List Value)) = Except.ok values)
    (hmethod : v.method? method values = some (.ok w)) (optional : Bool) :
    HasValue env (.methodCall e method arguments optional) w := by
  have hcall : (Eval.callMethod env v method e.describe values : Plain Value) = Except.ok w := by
    unfold Eval.callMethod
    split
    next f hf => exact absurd hf (hfield f)
    next =>
      rw [hmethod]
      rfl
  have hlink := bind_link_of_ok he fun v => Eval.withReceiver optional method v do
    let values ← Eval.evalAll env arguments
    Eval.callMethod env v method e.describe values
  refine hlink.trans ?_
  show Eval.withReceiver optional method v
    (Eval.evalAll env arguments >>= Eval.callMethod env v method e.describe) = _
  rw [Eval.withReceiver, hv]
  show (some <$> (Eval.evalAll env arguments >>= Eval.callMethod env v method e.describe :
    Plain Value)) = _
  rw [harguments]
  exact congrArg (some <$> ·) hcall

/-- A method of a text. -/
theorem evalLink_method_string {s : String} {arguments : List Expr} {values : List Value}
    {method : String} (he : HasValue env e (.string s))
    (harguments : (Eval.evalAll env arguments : Plain (List Value)) = Except.ok values)
    (hmethod : (Value.string s).method? method values = some (.ok v)) :
    HasValue env (.methodCall e method arguments false) v :=
  evalLink_method he rfl (Value.property_string_ne_function s method) harguments hmethod false

theorem HasValue.eval (h : HasValue env e v) :
    (Eval.eval env e : Plain Value) = Except.ok v := by
  show Eval.orUndefined (Eval.evalLink env e : Plain (Option Value)) = _
  rw [h]
  rfl

/-- Within limits that do not stop the evaluation, the value is the same. -/
theorem HasValue.evaluate {limits : Limits} (h : HasValue env e v)
    (hlimits : limits.Suffice env e) : (TemplateExpr.evaluate env limits e).1 = .ok v :=
  (evaluate_eq_plain hlimits).trans h.eval

end Plain

end TemplateExpr
