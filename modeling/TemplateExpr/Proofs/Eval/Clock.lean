import TemplateExpr.Proofs.Eval.Dependence
import TemplateExpr.Proofs.Stateful
import TemplateExpr.Value.Json

/-!
# What reads the clock

Two functions of the library answer with the moment of the evaluation. An expression gets hold of
them by a name and in no other way: operators, methods and functions make timeless values of
timeless values, those without one of the two functions in them. So an expression whose names all
mean timeless values is the same at any moment (`Eval.evaluate_eq_of_agreeTimelessly`).
-/

namespace TemplateExpr

/-- The function answers with the moment of the evaluation. -/
def Formula.ReadsClock (f : Formula) : Prop := f = .now ∨ f = .today

/-- Every other function answers the same at any moment. -/
theorem Formula.call_eq_of_not_readsClock {f : Formula} (h : ¬ f.ReadsClock) (now now' : Instant)
    (arguments : Arguments) : f.call now arguments = f.call now' arguments := by
  cases f with
  | now => exact absurd (.inl rfl) h
  | today => exact absurd (.inr rfl) h
  | _ => rfl

namespace Value

/-- There is no function in the value that reads the clock. -/
inductive Timeless : Value → Prop where
  | undefined : Timeless undefined
  | null : Timeless null
  | bool (b : Bool) : Timeless (bool b)
  | number (n : Number) : Timeless (number n)
  | string (s : String) : Timeless (string s)
  | array {items : List Value} (h : ∀ v ∈ items, Timeless v) : Timeless (array items)
  | object {fields : List (String × Value)} (h : ∀ field ∈ fields, Timeless field.2) :
      Timeless (object fields)
  | function {f : Formula} (h : ¬ f.ReadsClock) : Timeless (function f)

namespace Timeless

variable {v : Value} {vs : List Value}

theorem getD {v? : Option Value} (h : ∀ v ∈ v?, Timeless v) : Timeless (v?.getD .undefined) := by
  cases v? with
  | none => exact .undefined
  | some v => exact h v rfl

theorem arg (h : ∀ v ∈ vs, Timeless v) (i : Nat) : Timeless (Arguments.arg vs i) :=
  getD fun v hv => h v (List.mem_of_getElem? hv)

end Timeless

mutual

/-- A document holds no functions. -/
theorem timeless_ofJson : ∀ document, Timeless (ofJson document)
  | .null => .null
  | .bool b => .bool b
  | .number _ => .number _
  | .string s => .string s
  | .array items => .array (timeless_itemsOfJson items)
  | .object members => .object (timeless_fieldsOfJson members)

theorem timeless_itemsOfJson : ∀ items, ∀ v ∈ itemsOfJson items, Timeless v
  | [], _, hv => nomatch hv
  | item :: items, v, hv => by
    rcases List.mem_cons.mp hv with rfl | hv
    · exact timeless_ofJson item
    · exact timeless_itemsOfJson items v hv

theorem timeless_fieldsOfJson : ∀ members, ∀ field ∈ fieldsOfJson members, Timeless field.2
  | [], _, hfield => nomatch hfield
  | (_, value) :: members, field, hfield => by
    rcases List.mem_cons.mp hfield with rfl | hfield
    · exact timeless_ofJson value
    · exact timeless_fieldsOfJson members field hfield

end

/-! ## Operations -/

theorem timeless_property {v : Value} (h : v.Timeless) (key : String) :
    (v.property key).Timeless := by
  cases h with
  | @object fields hfields =>
    exact Timeless.getD fun v hv => hfields (key, v) (Fields.mem_of_get? hv)
  | @array items hitems =>
    unfold property
    simp only
    split
    · exact .number _
    · refine Timeless.getD fun v hv => ?_
      obtain ⟨i, -, hv⟩ := Option.bind_eq_some_iff.mp hv
      exact hitems v (List.mem_of_getElem? hv)
  | string s =>
    unfold property
    simp only
    split
    · exact .number _
    · split
      · exact .string _
      · exact .undefined
  | _ => exact .undefined

/-- What is a text, unless it is refused, is timeless. -/
theorem timeless_of_map_string {outcome : Except ExprError String} {v : Value}
    (h : outcome.map string = .ok v) : v.Timeless := by
  cases outcome <;> cases h
  exact .string _

theorem timeless_textMethod? {s method : String} {arguments : Arguments} {v : Value}
    (h : textMethod? s method arguments = some v) : v.Timeless := by
  unfold textMethod? at h
  simp only at h
  split at h <;> cases h
  -- The pieces of a split text are texts, and all the others are plain.
  case h_9 =>
    refine .array fun v hv => ?_
    obtain ⟨piece, -, rfl⟩ := List.mem_map.mp hv
    exact .string _
  all_goals constructor

theorem timeless_arrayMethod? {items : List Value} {method : String} {arguments : Arguments}
    {v : Value} (hitems : ∀ item ∈ items, item.Timeless)
    (h : arrayMethod? items method arguments = some v) : v.Timeless := by
  unfold arrayMethod? at h
  split at h <;> cases h
  -- A slice has no other items than the array.
  case h_4 =>
    exact .array fun v hv => hitems v (List.mem_of_mem_take (List.mem_of_mem_drop hv))
  all_goals constructor

theorem timeless_method? {receiver : Value} {method : String} {arguments : Arguments}
    {v : Value} (hreceiver : receiver.Timeless)
    (h : receiver.method? method arguments = some (.ok v)) : v.Timeless := by
  unfold method? at h
  rw [Option.orElse_eq_orElse, Option.orElse_eq_or, Option.or_eq_some_iff] at h
  rcases h with hown | ⟨-, htext⟩
  · split at hown
    · obtain ⟨v, hv, heq⟩ := Option.map_eq_some_iff.mp hown
      cases heq
      exact timeless_textMethod? hv
    · obtain ⟨v, hv, heq⟩ := Option.map_eq_some_iff.mp hown
      cases heq
      cases hreceiver with
      | array hitems => exact timeless_arrayMethod? hitems hv
    · split at hown
      · exact timeless_of_map_string (Option.some.inj hown)
      · cases hown
    · cases hown
  · split at htext <;> cases htext
    exact .string _

end Value

namespace Library

variable {arguments : Arguments}

theorem timeless_coalesce (h : ∀ v ∈ arguments, v.Timeless) : (coalesce arguments).Timeless :=
  Value.Timeless.getD fun v hv => h v (List.mem_of_find?_eq_some hv)

theorem timeless_ifElse (h : ∀ v ∈ arguments, v.Timeless) : (ifElse arguments).Timeless := by
  unfold ifElse
  split
  · exact Value.Timeless.arg h 1
  · exact Value.Timeless.arg h 2

theorem timeless_choose (subject : Value) {cases : List Value} (h : ∀ v ∈ cases, v.Timeless) :
    (choose subject cases).Timeless := by
  fun_induction choose subject cases with
  | case1 case value rest _ => exact h value (by simp)
  | case2 case value rest _ ih => exact ih fun v hv => h v (by simp [hv])
  | case3 fallback => exact h fallback (by simp)
  | case4 => exact .undefined

end Library

/-- The library answers timeless arguments with a timeless value. -/
theorem Formula.timeless_call {now : Instant} {f : Formula} {arguments : Arguments} {v : Value}
    (harguments : ∀ a ∈ arguments, a.Timeless) (h : f.call now arguments = .ok v) :
    v.Timeless := by
  cases f with
  | coalesce =>
    cases h
    exact Library.timeless_coalesce harguments
  | ifElse =>
    cases h
    exact Library.timeless_ifElse harguments
  | switch =>
    cases h
    exact Library.timeless_choose _ fun v hv => harguments v (List.mem_of_mem_drop hv)
  | dateAdd | fixed | percent => exact Value.timeless_of_map_string h
  | _ =>
    cases h
    constructor

/-! ## Evaluations -/

/-- Two computations are the same, and what they end with is as given. -/
structure Metered.Same {α : Type} (P : α → Prop) (p q : Metered α) : Prop where
  eq : p = q
  ends : ∀ limits before a after, p limits before = .ok a after → P a

namespace Metered.Same

variable {α β : Type} {P : α → Prop} {Q : β → Prop} {p q : Metered α}

theorem pure {a : α} (h : P a) : Same P (Pure.pure a) (Pure.pure a) where
  eq := rfl
  ends limits before a' after heq := by
    cases heq
    exact h

theorem fail (error : ExprError) : Same P (Machine.fail error) (Machine.fail error) where
  eq := rfl
  ends limits before a after heq := by cases heq

theorem bind {f g : α → Metered β} (h : Same P p q) (hnext : ∀ a, P a → Same Q (f a) (g a)) :
    Same Q (p >>= f) (q >>= g) where
  eq := by
    rw [← h.eq]
    funext limits before
    simp only [run_bind]
    split
    · rename_i a after hp
      rw [(hnext a (h.ends _ _ _ _ hp)).eq]
    · rfl
  ends limits before b after heq := by
    rw [run_bind] at heq
    split at heq
    · rename_i a middle hp
      exact (hnext a (h.ends _ _ _ _ hp)).ends _ _ _ _ heq
    · cases heq

theorem map {f : α → β} (h : Same P p q) (hf : ∀ a, P a → Q (f a)) :
    Same Q (f <$> p) (f <$> q) := by
  rw [map_eq_pure_bind, map_eq_pure_bind]
  exact h.bind fun a ha => pure (hf a ha)

theorem visit (h : Same P p q) : Same P (Machine.visit p) (Machine.visit q) where
  eq := by rw [h.eq]
  ends limits before a after heq := by
    change Metered.visit p limits before = _ at heq
    unfold Metered.visit at heq
    simp only at heq
    split at heq
    · cases heq
    · split at heq
      · cases heq
      · split at heq
        · rename_i hp
          cases heq
          exact h.ends _ _ _ _ hp
        · cases heq

end Metered.Same

namespace Eval

open Metered (Same)
open Metered.Same
open Value (Timeless)

variable {env env' : Environment}

/-- Two environments give the names the same timeless meaning. Their clocks may differ. -/
structure AgreeTimelessly (env env' : Environment) (names : List String) : Prop where
  lookup : ∀ name ∈ names, env.lookup? name = env'.lookup? name
  timeless : ∀ name ∈ names, ∀ v, env.lookup? name = some v → v.Timeless

namespace AgreeTimelessly

variable {names names' : List String}

theorem left (h : AgreeTimelessly env env' (names ++ names')) : AgreeTimelessly env env' names :=
  ⟨fun name hname => h.lookup name (List.mem_append_left _ hname),
    fun name hname => h.timeless name (List.mem_append_left _ hname)⟩

theorem right (h : AgreeTimelessly env env' (names ++ names')) :
    AgreeTimelessly env env' names' :=
  ⟨fun name hname => h.lookup name (List.mem_append_right _ hname),
    fun name hname => h.timeless name (List.mem_append_right _ hname)⟩

end AgreeTimelessly

/-- The value of a link is timeless if it has one. -/
def TimelessLink (v? : Option Value) : Prop := ∀ v, v? = some v → v.Timeless

theorem timelessLink_some {v : Value} (h : v.Timeless) : TimelessLink (some v) := by
  rintro _ ⟨⟩
  exact h

theorem timelessLink_none : TimelessLink none := by
  rintro _ ⟨⟩

/-! ### Parts of the rules -/

theorem same_orUndefined {p q : Metered (Option Value)} (h : Same TimelessLink p q) :
    Same Timeless (orUndefined p) (orUndefined q) :=
  h.bind fun _ hlink => pure (Timeless.getD hlink)

theorem same_settle {outcome : Except ExprError Value}
    (h : ∀ v, outcome = .ok v → v.Timeless) :
    Same Timeless (settle outcome : Metered Value) (settle outcome) := by
  cases outcome with
  | ok v => exact pure (h v rfl)
  | error e => exact fail e

theorem same_resolve {name : String} (h : AgreeTimelessly env env' [name]) :
    Same Timeless (resolve env name) (resolve env' name) := by
  have hname := List.mem_singleton_self name
  unfold resolve
  rw [← h.lookup name hname]
  split
  · rename_i v hv
    exact pure (h.timeless name hname v hv)
  · exact fail _

theorem same_withReceiver (optional : Bool) (key : String) (receiver : Value) {p q : Metered Value}
    (h : Same Timeless p q) :
    Same TimelessLink (withReceiver optional key receiver p)
      (withReceiver optional key receiver q) := by
  unfold withReceiver
  split
  · exact h.map fun _ => timelessLink_some
  · split
    · exact pure timelessLink_none
    · exact fail _

/-- What is called is none of the functions that read the clock. -/
theorem same_callValue {callee : Value} {arguments : Arguments} (hcallee : callee.Timeless)
    (described : String) (harguments : ∀ v ∈ arguments, v.Timeless) :
    Same Timeless (callValue env callee described arguments)
      (callValue env' callee described arguments) := by
  unfold callValue
  cases hcallee with
  | function hf =>
    simp only [Formula.call_eq_of_not_readsClock hf env.now env'.now]
    exact same_settle fun _ => Formula.timeless_call harguments
  | _ => exact fail _

theorem same_callMethod {receiver : Value} {arguments : Arguments} (hreceiver : receiver.Timeless)
    (method described : String) (harguments : ∀ v ∈ arguments, v.Timeless) :
    Same Timeless (callMethod env receiver method described arguments)
      (callMethod env' receiver method described arguments) := by
  have hproperty := Value.timeless_property hreceiver method
  unfold callMethod
  split
  -- A function in a field of the receiver was there before, so it does not read the clock either.
  · rename_i f hf
    rw [hf] at hproperty
    cases hproperty with
    | function hf =>
      rw [Formula.call_eq_of_not_readsClock hf env.now env'.now]
      exact same_settle fun _ => Formula.timeless_call harguments
  · split
    · rename_i outcome houtcome
      refine same_settle fun v hv => ?_
      rw [hv] at houtcome
      exact Value.timeless_method? hreceiver houtcome
    · exact fail _

theorem same_link {p q : Metered (Option Value)} {f g : Value → Metered (Option Value)}
    (h : Same TimelessLink p q) (hnext : ∀ v, v.Timeless → Same TimelessLink (f v) (g v)) :
    Same TimelessLink (p >>= fun | none => Pure.pure none | some v => f v)
      (q >>= fun | none => Pure.pure none | some v => g v) := by
  refine h.bind fun v? hv? => ?_
  cases v? with
  | none => exact pure timelessLink_none
  | some v => exact hnext v (hv? v rfl)

theorem timeless_binary (op : BinaryOp) (a b : Value) : (op.apply a b).Timeless := by
  cases op with
  | add =>
    unfold BinaryOp.apply Value.add
    simp only
    split <;> constructor
  | _ => constructor

theorem timeless_unary (op : UnaryOp) (a : Value) : (op.apply a).Timeless := by
  cases op <;> constructor

/-! ### Expressions -/

mutual

/-- **An expression whose names mean timeless values is the same whatever the clock shows**, and it
ends with a timeless value. -/
theorem same_evalLink : ∀ e : Expr, AgreeTimelessly env env' e.identifiers →
    Same TimelessLink (evalLink env e) (evalLink env' e)
  | .number n, _ => visit (pure (timelessLink_some (.number n)))
  | .string s, _ => visit (pure (timelessLink_some (.string s)))
  | .bool b, _ => visit (pure (timelessLink_some (.bool b)))
  | .null, _ => visit (pure (timelessLink_some .null))
  | .undefined, _ => visit (pure (timelessLink_some .undefined))
  | .identifier name, h => visit ((same_resolve h).map fun _ => timelessLink_some)
  | .binary op left right, h =>
    visit <| (same_orUndefined (same_evalLink left h.left)).bind fun a _ =>
      (same_orUndefined (same_evalLink right h.right)).bind fun b _ =>
        pure (timelessLink_some (timeless_binary op a b))
  | .logical op left right, h => by
    refine visit ((same_orUndefined (same_evalLink left h.left)).bind fun a ha => ?_)
    split
    · exact pure (timelessLink_some ha)
    · exact (same_orUndefined (same_evalLink right h.right)).map fun _ => timelessLink_some
  | .unary op operand, h => by
    have hunbound : isUnbound env operand = isUnbound env' operand := isUnbound_congr h.lookup
    unfold evalLink
    rw [hunbound]
    refine visit ?_
    split
    · exact pure (timelessLink_some (.string _))
    · exact (same_orUndefined (same_evalLink operand h)).bind fun a _ =>
        pure (timelessLink_some (timeless_unary op a))
  | .conditional condition consequent alternate, h => by
    refine visit ((same_orUndefined (same_evalLink condition h.left.left)).bind fun c _ => ?_)
    split
    · exact (same_orUndefined (same_evalLink consequent h.left.right)).map fun _ =>
        timelessLink_some
    · exact (same_orUndefined (same_evalLink alternate h.right)).map fun _ => timelessLink_some
  | .call callee arguments, h =>
    visit <| same_link (same_evalLink callee h.left) fun _ hf =>
      (same_evalAll arguments h.right).bind fun _ hvalues =>
        (same_callValue hf _ hvalues).map fun _ => timelessLink_some
  | .methodCall receiver method arguments optional, h =>
    visit <| same_link (same_evalLink receiver h.left) fun v hv =>
      same_withReceiver optional method v <|
        (same_evalAll arguments h.right).bind fun _ hvalues =>
          same_callMethod hv method _ hvalues
  | .field receiver name optional, h =>
    visit <| same_link (same_evalLink receiver h) fun v hv =>
      same_withReceiver optional name v (pure (Value.timeless_property hv name))
  | .index receiver key, h =>
    visit <| same_link (same_evalLink receiver h.left) fun v hv =>
      (same_orUndefined (same_evalLink key h.right)).bind fun k _ =>
        same_withReceiver false k.text v (pure (Value.timeless_property hv k.text))
  | .array elements, h =>
    visit <| (same_evalAll elements h).bind fun _ hvalues =>
      pure (timelessLink_some (.array hvalues))
  | .object entries, h =>
    visit <| (same_evalEntries entries h).bind fun _ hfields =>
      pure (timelessLink_some (.object (Fields.forall_mem_insertAll (List.forall_mem_nil _) hfields)))

theorem same_evalAll : ∀ es : List Expr, AgreeTimelessly env env' (Expr.identifiersOfList es) →
    Same (∀ v ∈ ·, v.Timeless) (evalAll env es) (evalAll env' es)
  | [], _ => pure (List.forall_mem_nil _)
  | e :: es, h =>
    (same_orUndefined (same_evalLink e h.left)).bind fun _ hv =>
      (same_evalAll es h.right).bind fun _ hvs => pure (List.forall_mem_cons.mpr ⟨hv, hvs⟩)

theorem same_evalEntries : ∀ entries : List (String × Expr),
    AgreeTimelessly env env' (Expr.identifiersOfEntries entries) →
      Same (∀ field ∈ ·, Value.Timeless field.2) (evalEntries env entries) (evalEntries env' entries)
  | [], _ => pure (List.forall_mem_nil _)
  | (_, e) :: entries, h =>
    (same_orUndefined (same_evalLink e h.left)).bind fun _ hv =>
      (same_evalEntries entries h.right).bind fun _ hfields =>
        pure (List.forall_mem_cons.mpr ⟨hv, hfields⟩)

end

theorem evaluate_eq_of_agreeTimelessly (limits : Limits) {e : Expr}
    (h : AgreeTimelessly env env' e.referencedNames) :
    evaluate env limits e = evaluate env' limits e := by
  have hnames : AgreeTimelessly env env' e.identifiers :=
    ⟨fun name hname => h.lookup name (Expr.mem_referencedNames.mpr hname),
      fun name hname => h.timeless name (Expr.mem_referencedNames.mpr hname)⟩
  have hlink : (evalLink env e : Metered (Option Value)) = evalLink env' e :=
    (same_evalLink e hnames).eq
  simp only [evaluate, eval, hlink]

end Eval

/-- The bindings of a scope are timeless. -/
def Scope.Timeless (scope : Scope) : Prop := ∀ name v, scope.lookup? name = some v → v.Timeless

/-- **In a timeless scope, an expression without the names of the functions that read the clock is
the same at any moment.** -/
theorem evaluate_eq_of_timeless {scope : Scope} (hscope : scope.Timeless) {e : Expr}
    (h : ∀ f : Formula, f.ReadsClock → f.name ∉ e.referencedNames) (now now' : Instant)
    (limits : Limits) : evaluate ⟨scope, now⟩ limits e = evaluate ⟨scope, now'⟩ limits e := by
  refine Eval.evaluate_eq_of_agreeTimelessly limits ⟨fun _ _ => rfl, fun name hname v hv => ?_⟩
  rcases Option.or_eq_some_iff.mp hv with hbound | ⟨-, hlibrary⟩
  · exact hscope name v hbound
  · obtain ⟨f, hf, rfl⟩ := Option.map_eq_some_iff.mp hlibrary
    refine .function fun hclock => h f hclock ?_
    rwa [Formula.name_of_ofName? hf]

end TemplateExpr
