import TemplateExpr.Library.Arguments
import TemplateExpr.Value.Equality

/-!
# Choices

The functions that choose among their arguments. All arguments are evaluated before the choice.
-/

namespace TemplateExpr.Library

def ifElse (arguments : Arguments) : Value :=
  if (arguments.arg 0).isTruthy then arguments.arg 1 else arguments.arg 2

/-- The first argument that is not nullish. -/
def coalesce (arguments : Arguments) : Value :=
  (arguments.find? (!·.isNullish)).getD .undefined

def allTruthy (arguments : Arguments) : Bool := List.all arguments Value.isTruthy

def anyTruthy (arguments : Arguments) : Bool := List.any arguments Value.isTruthy

/-- The value behind the first case that equals the subject. A value without a case comes last and
is taken if no case equals it. -/
def choose (subject : Value) : List Value → Value
  | case :: value :: rest => if case.strictEquals subject then value else choose subject rest
  | [fallback] => fallback
  | [] => .undefined

def switch (arguments : Arguments) : Value := choose (arguments.arg 0) (List.drop 1 arguments)

end TemplateExpr.Library
