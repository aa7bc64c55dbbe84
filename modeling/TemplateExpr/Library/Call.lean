import TemplateExpr.Library.Aggregate
import TemplateExpr.Library.Dates
import TemplateExpr.Library.Logic
import TemplateExpr.Library.Math
import TemplateExpr.Library.Texts

/-!
# Calling formula functions

What each function of the library computes from its arguments. All but three functions answer
whatever the arguments are; `DATEADD`, `FIXED` and `PERCENT` refuse some. The current moment is given
by the caller: nothing in the library reads a clock.
-/

namespace TemplateExpr

open Library

/-- The value of a formula function at its arguments, at the moment `now`. -/
def Formula.call (now : Instant) (f : Formula) (arguments : Arguments) : Except ExprError Value :=
  match f with
  | .abs => .ok (.number (Library.abs arguments))
  | .and => .ok (.bool (allTruthy arguments))
  | .avg => .ok (.number (average arguments))
  | .ceil => .ok (.number (Library.ceil arguments))
  | .coalesce => .ok (Library.coalesce arguments)
  | .concat => .ok (.string (Library.concat arguments))
  | .contains => .ok (.bool (Library.contains arguments))
  | .count => .ok (.number (Library.count arguments))
  | .dateAdd => return .string (← Library.dateAdd arguments)
  | .dateDiff => .ok (.number (Library.dateDiff arguments))
  | .day => .ok (.number (Library.day arguments))
  | .fixed => return .string (← Library.fixed arguments)
  | .floor => .ok (.number (Library.floor arguments))
  | .ifElse => .ok (Library.ifElse arguments)
  | .len => .ok (.number (Library.len arguments))
  | .lower => .ok (.string (Library.lower arguments))
  | .max => .ok (.number (maximum arguments))
  | .min => .ok (.number (minimum arguments))
  | .month => .ok (.number (Library.month arguments))
  | .not => .ok (.bool (!(arguments.arg 0).isTruthy))
  | .now => .ok (.string now.text)
  | .or => .ok (.bool (anyTruthy arguments))
  | .percent => return .string (← Library.percent arguments)
  | .power => .ok (.number (Library.power arguments))
  | .round => .ok (.number (Library.round arguments))
  | .substring => .ok (.string (Library.substring arguments))
  | .sum => .ok (.number (Library.sum arguments))
  | .switch => .ok (Library.switch arguments)
  | .today => .ok (.string now.date.text)
  | .trim => .ok (.string (Library.trim arguments))
  | .upper => .ok (.string (Library.upper arguments))
  | .year => .ok (.number (Library.year arguments))

end TemplateExpr
