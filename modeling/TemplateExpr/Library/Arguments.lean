import TemplateExpr.Value.Coercion

/-!
# Arguments

Formula functions and methods take any number of arguments; one that is missing reads as undefined,
and those beyond the last one that is looked at are ignored.
-/

namespace TemplateExpr

/-- The values a function is called with. -/
abbrev Arguments := List Value

namespace Arguments

/-- The argument at a position. -/
def arg (arguments : Arguments) (i : Nat) : Value := arguments[i]?.getD .undefined

end Arguments

end TemplateExpr
