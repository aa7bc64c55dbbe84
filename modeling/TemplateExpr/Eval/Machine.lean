import TemplateExpr.Error

/-!
# What an evaluation runs on

The rules of evaluation do not mention limits. They are written for any `Machine`: a notion of
computation that can fail, and that is told of every node that is visited. The machine that runs
expressions is `Metered`: each visit costs a step and nests one level deeper, and it fails where a
step or a level would be one too many.
-/

namespace TemplateExpr

/-- A notion of computation for evaluating expressions. -/
class Machine (m : Type → Type) extends Monad m where
  /-- Gives up. -/
  fail {α : Type} (error : ExprError) : m α
  /-- Runs what belongs to the visit of one node. -/
  visit {α : Type} (body : m α) : m α

/-- How many nodes an evaluation may visit, and how deeply nested. -/
structure Limits where
  maxSteps : Nat
  maxDepth : Nat
deriving DecidableEq

/-- What an evaluation has used: the nodes visited so far, and the current nesting. -/
structure Meter where
  steps : Nat
  depth : Nat
deriving DecidableEq

/-- Computations with limits. The meter survives a failure. -/
abbrev Metered := ReaderT Limits (EStateM ExprError Meter)

namespace Metered

/-- A visit within limits. A step too many is noticed before a level too many; the step that is
refused counts. -/
def visit {α : Type} (body : Metered α) : Metered α := fun limits meter =>
  let entered : Meter := { meter with steps := meter.steps + 1 }
  if limits.maxSteps < entered.steps then .error (.exhausted limits.maxSteps) entered
  else if limits.maxDepth < meter.depth + 1 then .error (.exhausted limits.maxDepth) entered
  else
    match body limits { entered with depth := meter.depth + 1 } with
    | .ok a after => .ok a { after with depth := after.depth - 1 }
    | .error e after => .error e { after with depth := after.depth - 1 }

instance : Machine Metered where
  fail error := throw error
  visit := visit

end Metered

end TemplateExpr
