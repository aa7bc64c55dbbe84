import TemplateExpr.Number.Basic

/-!
# Expressions

The tree of an expression. The language is closed: an expression reads names, computes and calls
library functions, and nothing in it can change a binding.

`referencedNames` is what an expression can depend on: the names it reads from the scope. The names
of fields and methods are not among them, since these are looked up in a receiver.
-/

namespace TemplateExpr

/-- Operators on the values of both operands. -/
inductive BinaryOp where
  | add
  | sub
  | mul
  | div
  | mod
  | pow
  | eq
  | ne
  | strictEq
  | strictNe
  | lt
  | le
  | gt
  | ge
deriving DecidableEq, Repr

/-- Operators that decide from the left operand whether to look at the right one. -/
inductive LogicalOp where
  | and
  | or
  | nullish
deriving DecidableEq, Repr

inductive UnaryOp where
  | not
  | neg
  | plus
  | typeof
deriving DecidableEq, Repr

/-- An expression. -/
inductive Expr where
  | number (n : Number)
  | string (s : String)
  | bool (b : Bool)
  | null
  | undefined
  | identifier (name : String)
  | binary (op : BinaryOp) (left right : Expr)
  | logical (op : LogicalOp) (left right : Expr)
  | unary (op : UnaryOp) (operand : Expr)
  | conditional (condition consequent alternate : Expr)
  | call (callee : Expr) (arguments : List Expr)
  | methodCall (receiver : Expr) (method : String) (arguments : List Expr) (optional : Bool)
  | field (receiver : Expr) (name : String) (optional : Bool)
  | index (receiver key : Expr)
  | array (elements : List Expr)
  /-- The entries of an object literal in source order, repeated keys included. -/
  | object (entries : List (String × Expr))

namespace Expr

instance : Inhabited Expr := ⟨undefined⟩

mutual

/-- The names in an expression, once for each place, from left to right. -/
def identifiers : Expr → List String
  | number _ | string _ | bool _ | null | undefined => []
  | identifier name => [name]
  | binary _ left right => identifiers left ++ identifiers right
  | logical _ left right => identifiers left ++ identifiers right
  | unary _ operand => identifiers operand
  | conditional condition consequent alternate =>
    identifiers condition ++ identifiers consequent ++ identifiers alternate
  | call callee arguments => identifiers callee ++ identifiersOfList arguments
  | methodCall receiver _ arguments _ => identifiers receiver ++ identifiersOfList arguments
  | field receiver _ _ => identifiers receiver
  | index receiver key => identifiers receiver ++ identifiers key
  | array elements => identifiersOfList elements
  | object entries => identifiersOfEntries entries

/-- The names in a list of expressions. -/
def identifiersOfList : List Expr → List String
  | [] => []
  | e :: es => identifiers e ++ identifiersOfList es

/-- The names in the values of object entries. -/
def identifiersOfEntries : List (String × Expr) → List String
  | [] => []
  | (_, e) :: entries => identifiers e ++ identifiersOfEntries entries

end

/-- The names an expression reads from the scope, each once, in the order of first use. -/
def referencedNames (e : Expr) : List String := e.identifiers.eraseDups

/-- The expression as the source names a callee, for messages. -/
def describe : Expr → String
  | identifier name => name
  | field receiver name _ => describe receiver ++ "." ++ name
  | index receiver _ => describe receiver ++ "[...]"
  | methodCall receiver method _ _ => describe receiver ++ "." ++ method ++ "(...)"
  | call callee _ => describe callee ++ "(...)"
  | _ => "expression"

end Expr

end TemplateExpr
