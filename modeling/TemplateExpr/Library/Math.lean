import TemplateExpr.Error
import TemplateExpr.Library.Arguments
import TemplateExpr.Number.Fixed
import TemplateExpr.Number.Power

/-!
# Rounding and powers

A rounding to some decimals scales by a power of ten, rounds to a whole number and scales back, all
in doubles. Numbers with fixed places (`fixed`) are rounded from their exact value instead.
-/

namespace TemplateExpr.Library

/-- Rounds to the decimals asked for by the second argument, by default to a whole number. -/
def toDecimals (round : Number → Number) (arguments : Arguments) : Number :=
  let value := (arguments.arg 0).numberOr 0
  let decimals := (arguments.arg 1).numberOr 0
  if decimals.equal 0 then round value
  else
    let factor := Number.pow 10 decimals
    round (value * factor) / factor

def round (arguments : Arguments) : Number := toDecimals .round arguments

def floor (arguments : Arguments) : Number := toDecimals .floor arguments

def ceil (arguments : Arguments) : Number := toDecimals .ceil arguments

def abs (arguments : Arguments) : Number := ((arguments.arg 0).numberOr 0).abs

def power (arguments : Arguments) : Number :=
  .pow ((arguments.arg 0).numberOr 0) ((arguments.arg 1).numberOr 0)

/-- A number with as many places as another number says. -/
def withPlaces (value places : Number) : Except ExprError String :=
  match places.places? with
  | some places => .ok (value.fixed places)
  | none => .error (.type .fractionDigits)

/-- A number with a fixed number of places, by default two. -/
def fixed (arguments : Arguments) : Except ExprError String :=
  withPlaces ((arguments.arg 0).numberOr 0) ((arguments.arg 1).numberOr 2)

/-- A ratio in percent, by default without places. -/
def percent (arguments : Arguments) : Except ExprError String :=
  return (← withPlaces ((arguments.arg 0).numberOr 0 * 100) ((arguments.arg 1).numberOr 0)) ++ "%"

end TemplateExpr.Library
