import TemplateExpr.Scope.Basic

/-!
# The standard names

The names that every template can rely on. `data`, `record`, `form`, `user`, `page`, `params` and
`env` are always bound, to an object without fields if nothing else was given; `index` and `parent`
are bound when they are given. Further variables are bound last and win over these.
-/

namespace TemplateExpr

/-- What is given for the standard names. A nullish value counts as not given. -/
structure StandardNames where
  /-- The current record. -/
  data : Option Value := none
  /-- Stands in for `data` if that is not given. -/
  record : Option Value := none
  /-- The values of a form, by default the current record. -/
  form : Option Value := none
  user : Option Value := none
  page : Option Value := none
  params : Option Value := none
  env : Option Value := none
  /-- The position in a repetition. -/
  index : Option Nat := none
  /-- The record around the current one. -/
  parent : Option Value := none
  /-- Further variables. -/
  extra : Fields Value := []

namespace StandardNames

/-- A value that is given and not nullish. -/
def present (given : Option Value) : Option Value := given.filter (!·.isNullish)

/-- A value that is given and not nullish, or another one. -/
def presentOr (fallback : Value) (given : Option Value) : Value := (present given).getD fallback

/-- The current record. -/
def current (given : StandardNames) : Value := presentOr (presentOr .empty given.record) given.data

/-- The bindings of the standard names, without the further variables. -/
def bindings (given : StandardNames) : Fields Value :=
  [("data", given.current),
    ("record", given.current),
    ("form", presentOr given.current given.form),
    ("user", presentOr .empty given.user),
    ("page", presentOr .empty given.page),
    ("params", presentOr .empty given.params),
    ("env", presentOr .empty given.env)]
    ++ (given.index.map fun i => ("index", .number (.ofNat i))).toList
    ++ ((present given.parent).map fun v => ("parent", v)).toList

/-- The scope of the standard names. -/
def scope (given : StandardNames) : Scope := .ofFields (given.bindings.insertAll given.extra)

end StandardNames

end TemplateExpr
