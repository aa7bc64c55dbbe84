import TemplateExpr.Proofs.Eval.Dependence
import TemplateExpr.Proofs.Eval.Outcome

/-!
# Naming a value

A part of an expression that has a value can be given a name. `Expr.Abbreviates` says that one
expression is another one with a name in places of a part, wherever they are: as a callee or a
receiver, in an optional chain, under an operator that looks at names, or in a branch that is left
out. If the name is new and bound to the value of the part in a scope inside the one there was, both
expressions evaluate alike (`Abbreviates.evalLink_alike`).

Alike is not the same: what is called but is no function is described in the error as the source
writes it, and the source has changed.
-/

namespace TemplateExpr

namespace Expr

mutual

/-- The second expression is the first one with the name in some of the places of the part. -/
inductive Abbreviates (part : Expr) (name : String) : Expr → Expr → Prop where
  | place : Abbreviates part name part (.identifier name)
  | same (e : Expr) : Abbreviates part name e e
  | binary (op : BinaryOp) {left left' right right' : Expr} (hleft : Abbreviates part name left left')
      (hright : Abbreviates part name right right') :
      Abbreviates part name (.binary op left right) (.binary op left' right')
  | logical (op : LogicalOp) {left left' right right' : Expr}
      (hleft : Abbreviates part name left left') (hright : Abbreviates part name right right') :
      Abbreviates part name (.logical op left right) (.logical op left' right')
  | unary (op : UnaryOp) {operand operand' : Expr} (h : Abbreviates part name operand operand') :
      Abbreviates part name (.unary op operand) (.unary op operand')
  | conditional {e₁ e₁' e₂ e₂' e₃ e₃' : Expr} (condition : Abbreviates part name e₁ e₁')
      (consequent : Abbreviates part name e₂ e₂') (alternate : Abbreviates part name e₃ e₃') :
      Abbreviates part name (.conditional e₁ e₂ e₃) (.conditional e₁' e₂' e₃')
  | call {callee callee' : Expr} {arguments arguments' : List Expr}
      (hcallee : Abbreviates part name callee callee')
      (harguments : AbbreviatesList part name arguments arguments') :
      Abbreviates part name (.call callee arguments) (.call callee' arguments')
  | methodCall {receiver receiver' : Expr} (method : String) {arguments arguments' : List Expr}
      (optional : Bool) (hreceiver : Abbreviates part name receiver receiver')
      (harguments : AbbreviatesList part name arguments arguments') :
      Abbreviates part name (.methodCall receiver method arguments optional)
        (.methodCall receiver' method arguments' optional)
  | field {receiver receiver' : Expr} (key : String) (optional : Bool)
      (hreceiver : Abbreviates part name receiver receiver') :
      Abbreviates part name (.field receiver key optional) (.field receiver' key optional)
  | index {receiver receiver' key key' : Expr} (hreceiver : Abbreviates part name receiver receiver')
      (hkey : Abbreviates part name key key') :
      Abbreviates part name (.index receiver key) (.index receiver' key')
  | array {elements elements' : List Expr} (h : AbbreviatesList part name elements elements') :
      Abbreviates part name (.array elements) (.array elements')
  | object {entries entries' : List (String × Expr)}
      (h : AbbreviatesEntries part name entries entries') :
      Abbreviates part name (.object entries) (.object entries')

/-- The same for each of a list of expressions. -/
inductive AbbreviatesList (part : Expr) (name : String) : List Expr → List Expr → Prop where
  | nil : AbbreviatesList part name [] []
  | cons {e e' : Expr} {es es' : List Expr} (head : Abbreviates part name e e')
      (tail : AbbreviatesList part name es es') : AbbreviatesList part name (e :: es) (e' :: es')

/-- The same for the value of each object entry. -/
inductive AbbreviatesEntries (part : Expr) (name : String) :
    List (String × Expr) → List (String × Expr) → Prop where
  | nil : AbbreviatesEntries part name [] []
  | cons {e e' : Expr} {entries entries' : List (String × Expr)} (key : String)
      (head : Abbreviates part name e e') (tail : AbbreviatesEntries part name entries entries') :
      AbbreviatesEntries part name ((key, e) :: entries) ((key, e') :: entries')

end

end Expr

/-- One and the same error, but for how it describes what is no function. -/
inductive ExprError.Resembles : ExprError → ExprError → Prop where
  | same (error : ExprError) : Resembles error error
  | notFunction (described described' : String) :
      Resembles (.type (.notFunction described)) (.type (.notFunction described'))

namespace Plain

variable {α β : Type}

/-- Computations that end with the same value, or with errors that resemble each other. -/
inductive Alike : Plain α → Plain α → Prop where
  | ok (a : α) : Alike (Except.ok a) (Except.ok a)
  | error {error error' : ExprError} (h : error.Resembles error') :
      Alike (Except.error error) (Except.error error')

namespace Alike

theorem refl (p : Plain α) : Alike p p := by
  cases p with
  | ok a => exact ok a
  | error e => exact error (.same e)

theorem bind {p p' : Plain α} {f f' : α → Plain β} (h : Alike p p') (hf : ∀ a, Alike (f a) (f' a)) :
    Alike (p >>= f) (p' >>= f') := by
  cases h with
  | ok a => exact hf a
  | error h => exact error h

theorem map (f : α → β) {p p' : Plain α} (h : Alike p p') : Alike (f <$> p) (f <$> p') := by
  cases h with
  | ok a => exact ok (f a)
  | error h => exact error h

theorem orUndefined {p p' : Plain (Option Value)} (h : Alike p p') :
    Alike (Eval.orUndefined p) (Eval.orUndefined p') :=
  h.bind fun link => refl (pure (link.getD .undefined))

theorem link {p p' : Plain (Option Value)} {f f' : Value → Plain (Option Value)} (h : Alike p p')
    (hnext : ∀ v, Alike (f v) (f' v)) :
    Alike (p >>= fun | none => pure none | some v => f v)
      (p' >>= fun | none => pure none | some v => f' v) := by
  refine h.bind fun v? => ?_
  cases v? with
  | none => exact refl _
  | some v => exact hnext v

theorem withReceiver (optional : Bool) (key : String) (receiver : Value) {p p' : Plain Value}
    (h : Alike p p') :
    Alike (Eval.withReceiver optional key receiver p)
      (Eval.withReceiver optional key receiver p') := by
  unfold Eval.withReceiver
  split
  · exact h.map some
  · exact refl _

theorem callValue {env env' : Environment} (hnow : env.now = env'.now) (callee : Value)
    (described described' : String) (arguments : Arguments) :
    Alike (Eval.callValue env callee described arguments)
      (Eval.callValue env' callee described' arguments) := by
  unfold Eval.callValue
  rw [hnow]
  split
  · exact refl _
  · exact error (.notFunction described described')

theorem callMethod {env env' : Environment} (hnow : env.now = env'.now) (receiver : Value)
    (method described described' : String) (arguments : Arguments) :
    Alike (Eval.callMethod env receiver method described arguments)
      (Eval.callMethod env' receiver method described' arguments) := by
  unfold Eval.callMethod
  rw [hnow]
  split
  · exact refl _
  · split
    · exact refl _
    · exact error (.notFunction _ _)

end Alike

end Plain

namespace Environment

/-- The environment with a name for a value, in a scope inside the one there was. -/
def named (env : Environment) (name : String) (v : Value) : Environment :=
  { env with scope := env.scope.child [(name, v)] }

variable {env : Environment} {name : String} {v : Value}

theorem lookup?_named (other : String) :
    (env.named name v).lookup? other = if name = other then some v else env.lookup? other := by
  have hbinding : (Fields.ofPairs [(name, v)]).get? other = if name = other then some v else none := by
    simp [Fields.ofPairs, Fields.insertAll, Fields.get?_insert]
  unfold lookup? named
  rw [Scope.lookup?_child, hbinding]
  split <;> rfl

/-- The name hides nothing from an expression that does not mention it. -/
theorem agree_named {names : List String} (h : name ∉ names) :
    Eval.Agree env (env.named name v) names := by
  refine ⟨rfl, fun other hother => ?_⟩
  rw [lookup?_named, if_neg]
  rintro rfl
  exact h hother

end Environment

namespace Expr

open Eval Plain.Alike

variable {part : Expr} {name : String} {env : Environment} {v : Value}

/-- A part with a value is no name without a meaning. -/
theorem isUnbound_eq_false_of_evalLink
    (hpart : (evalLink env part : Plain (Option Value)) = Except.ok (some v)) :
    isUnbound env part = false := by
  cases part with
  | identifier other =>
    simp only [isUnbound]
    cases hlookup : env.lookup? other with
    | some w => rfl
    | none =>
      simp only [evalLink, resolve, hlookup] at hpart
      cases hpart
  | _ => rfl

theorem Abbreviates.isUnbound_eq {operand operand' : Expr}
    (h : Abbreviates part name operand operand') (hfree : name ∉ operand.identifiers)
    (hpart : (evalLink env part : Plain (Option Value)) = Except.ok (some v)) :
    isUnbound env operand = isUnbound (env.named name v) operand' := by
  cases h with
  | place =>
    rw [isUnbound_eq_false_of_evalLink hpart]
    simp [isUnbound, Environment.lookup?_named]
  | same e => exact isUnbound_congr (Environment.agree_named hfree).lookup
  | _ => rfl

mutual

/-- **An expression and its abbreviation evaluate alike** if the name is new and means the value of
the part. -/
theorem Abbreviates.evalLink_alike
    (hpart : (evalLink env part : Plain (Option Value)) = Except.ok (some v)) {e e' : Expr} :
    Abbreviates part name e e' → name ∉ e.identifiers →
      Plain.Alike (evalLink env e) (evalLink (env.named name v) e')
  | .place, _ => by
    have hname : (evalLink (env.named name v) (.identifier name) : Plain (Option Value)) =
        Except.ok (some v) := by
      simp only [evalLink, resolve, Environment.lookup?_named, if_true]
      rfl
    rw [hpart, hname]
    exact ok (some v)
  | .same e, hfree => by
    rw [evalLink_congr e (Environment.agree_named (v := v) hfree)]
    exact refl _
  | .binary op hleft hright, hfree => by
    obtain ⟨hfree₁, hfree₂⟩ := not_or.mp (mt List.mem_append.mpr hfree)
    have hleft := hleft.evalLink_alike hpart hfree₁
    have hright := hright.evalLink_alike hpart hfree₂
    exact hleft.orUndefined.bind fun a => hright.orUndefined.bind fun b => refl _
  | .logical op hleft hright, hfree => by
    obtain ⟨hfree₁, hfree₂⟩ := not_or.mp (mt List.mem_append.mpr hfree)
    have hleft := hleft.evalLink_alike hpart hfree₁
    have hright := hright.evalLink_alike hpart hfree₂
    refine hleft.orUndefined.bind fun a => ?_
    split
    · exact refl _
    · exact hright.orUndefined.map some
  | .unary op h, hfree => by
    have hunbound := h.isUnbound_eq hfree hpart
    have h := h.evalLink_alike hpart hfree
    unfold evalLink
    rw [hunbound]
    show Plain.Alike (if _ then _ else _) (if _ then _ else _)
    split
    · exact refl _
    · exact h.orUndefined.bind fun a => refl _
  | .conditional condition consequent alternate, hfree => by
    obtain ⟨hfree, hfree₃⟩ := not_or.mp (mt List.mem_append.mpr hfree)
    obtain ⟨hfree₁, hfree₂⟩ := not_or.mp (mt List.mem_append.mpr hfree)
    have hcondition := condition.evalLink_alike hpart hfree₁
    have hconsequent := consequent.evalLink_alike hpart hfree₂
    have halternate := alternate.evalLink_alike hpart hfree₃
    refine hcondition.orUndefined.bind fun c => ?_
    split
    · exact hconsequent.orUndefined.map some
    · exact halternate.orUndefined.map some
  | .call hcallee harguments, hfree => by
    obtain ⟨hfree₁, hfree₂⟩ := not_or.mp (mt List.mem_append.mpr hfree)
    have hcallee := hcallee.evalLink_alike hpart hfree₁
    have harguments := harguments.evalAll_alike hpart hfree₂
    exact hcallee.link fun f => harguments.bind fun values => (callValue rfl f _ _ values).map some
  | .methodCall method optional hreceiver harguments, hfree => by
    obtain ⟨hfree₁, hfree₂⟩ := not_or.mp (mt List.mem_append.mpr hfree)
    have hreceiver := hreceiver.evalLink_alike hpart hfree₁
    have harguments := harguments.evalAll_alike hpart hfree₂
    exact hreceiver.link fun w => withReceiver optional method w <|
      harguments.bind fun values => callMethod rfl w method _ _ values
  | .field key optional hreceiver, hfree =>
    (hreceiver.evalLink_alike hpart hfree).link fun w => withReceiver optional key w (refl _)
  | .index hreceiver hkey, hfree => by
    obtain ⟨hfree₁, hfree₂⟩ := not_or.mp (mt List.mem_append.mpr hfree)
    have hreceiver := hreceiver.evalLink_alike hpart hfree₁
    have hkey := hkey.evalLink_alike hpart hfree₂
    exact hreceiver.link fun w => hkey.orUndefined.bind fun k =>
      withReceiver false k.text w (refl _)
  | .array h, hfree => (h.evalAll_alike hpart hfree).bind fun _ => refl _
  | .object h, hfree => (h.evalEntries_alike hpart hfree).bind fun _ => refl _

theorem AbbreviatesList.evalAll_alike
    (hpart : (evalLink env part : Plain (Option Value)) = Except.ok (some v))
    {es es' : List Expr} :
    AbbreviatesList part name es es' → name ∉ identifiersOfList es →
      Plain.Alike (evalAll env es) (evalAll (env.named name v) es')
  | .nil, _ => refl _
  | .cons head tail, hfree => by
    obtain ⟨hfree₁, hfree₂⟩ := not_or.mp (mt List.mem_append.mpr hfree)
    have hhead := head.evalLink_alike hpart hfree₁
    have htail := tail.evalAll_alike hpart hfree₂
    exact hhead.orUndefined.bind fun w => htail.bind fun values => refl _

theorem AbbreviatesEntries.evalEntries_alike
    (hpart : (evalLink env part : Plain (Option Value)) = Except.ok (some v))
    {entries entries' : List (String × Expr)} :
    AbbreviatesEntries part name entries entries' → name ∉ identifiersOfEntries entries →
      Plain.Alike (evalEntries env entries) (evalEntries (env.named name v) entries')
  | .nil, _ => refl _
  | .cons _ head tail, hfree => by
    obtain ⟨hfree₁, hfree₂⟩ := not_or.mp (mt List.mem_append.mpr hfree)
    have hhead := head.evalLink_alike hpart hfree₁
    have htail := tail.evalEntries_alike hpart hfree₂
    exact hhead.orUndefined.bind fun w => htail.bind fun pairs => refl _

end

/-- **Naming a value does not change a result.** If a part of an expression has a value and its own
chain is not given up, the expression and the one with a new name in places of the part, in a scope
inside the one there was that binds the name to the value, have the same value or fail alike: with
the same error, or with two errors about something that is no function. Limits do not come into it
unless they stop one of the evaluations. -/
theorem abbreviation_keeps_evaluate (scope : Scope) (now : Instant) (part e e' : Expr)
    (name : String) (v : Value) (limits₀ limits limits' : Limits) (meter : Meter)
    (habbreviates : Abbreviates part name e e') (hname : name ∉ e.referencedNames)
    (hpart : (evalLink ⟨scope, now⟩ part : Metered (Option Value)) limits₀ ⟨0, 0⟩ =
      .ok (some v) meter)
    (hlimits : limits.Suffice ⟨scope, now⟩ e)
    (hlimits' : limits'.Suffice ⟨scope.child [(name, v)], now⟩ e') :
    (∃ w, (evaluate ⟨scope, now⟩ limits e).1 = .ok w ∧
        (evaluate ⟨scope.child [(name, v)], now⟩ limits' e').1 = .ok w) ∨
      ∃ error error', (evaluate ⟨scope, now⟩ limits e).1 = .error error ∧
        (evaluate ⟨scope.child [(name, v)], now⟩ limits' e').1 = .error error' ∧
        error.Resembles error' := by
  have hfree : name ∉ e.identifiers := mt mem_referencedNames.mpr hname
  have halike : Plain.Alike (Eval.eval ⟨scope, now⟩ e)
      (Eval.eval ⟨scope.child [(name, v)], now⟩ e') :=
    (habbreviates.evalLink_alike (Plain.evalLink_of_metered hpart) hfree).orUndefined
  rw [evaluate_eq_plain hlimits, evaluate_eq_plain hlimits']
  revert halike
  generalize (Eval.eval ⟨scope, now⟩ e : Plain Value) = result
  generalize (Eval.eval ⟨scope.child [(name, v)], now⟩ e' : Plain Value) = result'
  intro halike
  cases halike with
  | ok w => exact .inl ⟨w, rfl, rfl⟩
  | error h => exact .inr ⟨_, _, rfl, rfl, h⟩

/-- A part with an optional link is named where it is called and where its type is asked for, but not
where it is an argument. It is no function, and that is the error under either description. -/
theorem abbreviation_keeps_evaluate_of_optional_link :
    let scope := Scope.ofFields [("a", .object [("b", .null)])]
    let part : Expr := .field (.identifier "a") "b" true
    let e : Expr := .call part [.unary .typeof part, part]
    let x : Expr := .identifier "x"
    let e' : Expr := .call x [.unary .typeof x, part]
    Abbreviates part "x" e e' ∧ "x" ∉ e.referencedNames ∧
      (evaluate ⟨scope, ⟨0, 0⟩⟩ ⟨10, 5⟩ e).1 = .error (.type (.notFunction "a.b")) ∧
      ∃ error, (evaluate ⟨scope.child [("x", .null)], ⟨0, 0⟩⟩ ⟨10, 5⟩ e').1 = .error error ∧
        (ExprError.type (.notFunction "a.b")).Resembles error := by
  intro scope part e x e'
  have habbreviates : Abbreviates part "x" e e' :=
    .call .place (.cons (.unary _ .place) (.cons (.same _) .nil))
  have hname : "x" ∉ e.referencedNames := by decide
  have hpart : (evalLink ⟨scope, ⟨0, 0⟩⟩ part : Metered (Option Value)) ⟨2, 2⟩ ⟨0, 0⟩ =
      .ok (some .null) ⟨2, 0⟩ := by rfl
  have hfails : (evaluate ⟨scope, ⟨0, 0⟩⟩ ⟨10, 5⟩ e).1 =
      .error (.type (.notFunction "a.b")) := by rfl
  refine ⟨habbreviates, hname, hfails, ?_⟩
  have halike := abbreviation_keeps_evaluate scope ⟨0, 0⟩ part e e' "x" _ ⟨2, 2⟩ ⟨10, 5⟩ ⟨10, 5⟩
    ⟨2, 0⟩ habbreviates hname hpart (suffice_of_nodes_le (by decide) (by decide))
    (suffice_of_nodes_le (by decide) (by decide))
  rcases halike with ⟨w, hvalue, -⟩ | ⟨error, error', herror, herror', hresembles⟩
  · rw [hfails] at hvalue
    cases hvalue
  · rw [hfails] at herror
    cases herror
    exact ⟨error', herror', hresembles⟩

end Expr

end TemplateExpr
