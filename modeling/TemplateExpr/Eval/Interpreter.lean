import TemplateExpr.Eval.Machine
import TemplateExpr.Eval.Methods
import TemplateExpr.Eval.Operators
import TemplateExpr.Library.Call
import TemplateExpr.Scope.Basic

/-!
# Evaluation

The value of an expression in an environment. Operands are evaluated from left to right; the
logical operators and the conditional leave out what they do not need.

An optional link on a nullish receiver gives up the whole chain of links that it belongs to.
`evalLink` tells such a chain, which has no value, from one whose value is undefined; everywhere
but inside a chain the two are the same (`orUndefined`).
-/

namespace TemplateExpr

/-- What the value of an expression depends on. -/
structure Environment where
  scope : Scope
  /-- The moment at which the evaluation takes place. -/
  now : Instant

namespace Environment

/-- What a name means: its binding in the scope, or else the formula function of that name. -/
def lookup? (env : Environment) (name : String) : Option Value :=
  (env.scope.lookup? name).or ((Formula.ofName? name).map .function)

end Environment

namespace Value

/-- Which of the values without properties a value is. -/
def missing? : Value → Option Missing
  | undefined => some .undefined
  | null => some .null
  | _ => none

end Value

namespace Eval

variable {m : Type → Type} [Machine m]

/-- A chain that was given up counts as undefined. -/
def orUndefined (link : m (Option Value)) : m Value := return (← link).getD .undefined

/-- The outcome of something that does not visit any node. -/
def settle (outcome : Except ExprError Value) : m Value :=
  match outcome with
  | .ok v => pure v
  | .error e => Machine.fail e

/-- What a name means. -/
def resolve (env : Environment) (name : String) : m Value :=
  match env.lookup? name with
  | some v => pure v
  | none => Machine.fail (.unbound name)

/-- Goes on with a receiver that has properties. A nullish one gives up the chain if the link is
optional and fails otherwise. -/
def withReceiver (optional : Bool) (key : String) (receiver : Value) (next : m Value) :
    m (Option Value) :=
  match receiver.missing? with
  | none => some <$> next
  | some missing =>
    if optional then pure none else Machine.fail (.type (.cannotRead missing key))

/-- Calls a value, which the source names as given. -/
def callValue (env : Environment) (callee : Value) (described : String) (arguments : Arguments) :
    m Value :=
  match callee with
  | .function f => settle (f.call env.now arguments)
  | _ => Machine.fail (.type (.notFunction described))

/-- Calls a function in a field of the receiver, or else a method of the receiver. -/
def callMethod (env : Environment) (receiver : Value) (method described : String)
    (arguments : Arguments) : m Value :=
  match receiver.property method with
  | .function f => settle (f.call env.now arguments)
  | _ =>
    match receiver.method? method arguments with
    | some outcome => settle outcome
    | none => Machine.fail (.type (.notFunction (described ++ "." ++ method)))

/-- Whether an expression is a name without a meaning. -/
def isUnbound (env : Environment) : Expr → Bool
  | .identifier name => (env.lookup? name).isNone
  | _ => false

mutual

/-- The value of a node, or nothing if its chain of links was given up. -/
def evalLink (env : Environment) : Expr → m (Option Value)
  | .number n => Machine.visit (pure (some (.number n)))
  | .string s => Machine.visit (pure (some (.string s)))
  | .bool b => Machine.visit (pure (some (.bool b)))
  | .null => Machine.visit (pure (some .null))
  | .undefined => Machine.visit (pure (some .undefined))
  | .identifier name => Machine.visit (some <$> resolve env name)
  | .binary op left right => Machine.visit do
    let a ← orUndefined (evalLink env left)
    let b ← orUndefined (evalLink env right)
    return some (op.apply a b)
  | .logical op left right => Machine.visit do
    let a ← orUndefined (evalLink env left)
    if op.settles a then return some a else some <$> orUndefined (evalLink env right)
  | .unary op operand => Machine.visit do
    if op = .typeof ∧ isUnbound env operand then return some (.string "undefined")
    else return some (op.apply (← orUndefined (evalLink env operand)))
  | .conditional condition consequent alternate => Machine.visit do
    let c ← orUndefined (evalLink env condition)
    if c.isTruthy then some <$> orUndefined (evalLink env consequent)
    else some <$> orUndefined (evalLink env alternate)
  | .call callee arguments => Machine.visit do
    match ← evalLink env callee with
    | none => return none
    | some f =>
      let values ← evalAll env arguments
      some <$> callValue env f callee.describe values
  | .methodCall receiver method arguments optional => Machine.visit do
    match ← evalLink env receiver with
    | none => return none
    | some v =>
      withReceiver optional method v do
        let values ← evalAll env arguments
        callMethod env v method receiver.describe values
  | .field receiver name optional => Machine.visit do
    match ← evalLink env receiver with
    | none => return none
    | some v => withReceiver optional name v (pure (v.property name))
  | .index receiver key => Machine.visit do
    match ← evalLink env receiver with
    | none => return none
    | some v =>
      let key := (← orUndefined (evalLink env key)).text
      withReceiver false key v (pure (v.property key))
  | .array elements => Machine.visit do
    return some (.array (← evalAll env elements))
  | .object entries => Machine.visit do
    return some (.object (Fields.ofPairs (← evalEntries env entries)))

/-- The values of expressions, from left to right. -/
def evalAll (env : Environment) : List Expr → m (List Value)
  | [] => pure []
  | e :: es => do
    let v ← orUndefined (evalLink env e)
    return v :: (← evalAll env es)

/-- The values of object entries, from left to right. -/
def evalEntries (env : Environment) : List (String × Expr) → m (List (String × Value))
  | [] => pure []
  | (key, e) :: entries => do
    let v ← orUndefined (evalLink env e)
    return (key, v) :: (← evalEntries env entries)

end

/-- The value of an expression. -/
def eval (env : Environment) (e : Expr) : m Value := orUndefined (evalLink env e)

end Eval

/-- The value of an expression within limits, and the number of steps it took. -/
def evaluate (env : Environment) (limits : Limits) (e : Expr) : Except ExprError Value × Nat :=
  match (Eval.eval env e : Metered Value) limits ⟨0, 0⟩ with
  | .ok v meter => (.ok v, meter.steps)
  | .error error meter => (.error error, meter.steps)

end TemplateExpr
