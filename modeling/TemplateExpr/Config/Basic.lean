import TemplateExpr.Error

/-!
# Configuration

The limits and defaults of an evaluator. A configuration in use has limits that allow at least one
step and one level; `check` refuses others.
-/

namespace TemplateExpr

/-- Settings of an evaluator. -/
structure Config where
  /-- How many nodes one evaluation may visit. -/
  maxSteps : Nat := 10000
  /-- How deeply an expression may be nested, when it is parsed and when it is evaluated. -/
  maxDepth : Nat := 64
  /-- Whether texts are checked against the denylist if a call does not say. -/
  sanitize : Bool := true
  /-- Which messages the program logs. -/
  logLevel : String := "warn"
deriving DecidableEq

namespace Config

/-- The first natural number that is no integer of a configuration file: `2^63`. -/
def integerEnd : Nat := 0x8000000000000000

instance : Inhabited Config := ⟨{}⟩

/-- Refuses limits with which nothing could be evaluated. -/
def check (config : Config) : Except ExprError Config :=
  if config.maxSteps = 0 then .error (.config .noSteps)
  else if config.maxDepth = 0 then .error (.config .noDepth)
  else .ok config

end Config

end TemplateExpr
