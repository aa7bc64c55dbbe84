import TemplateExpr.Config.Basic

/-!
# Strings in configuration files

TOML writes a string in one of four forms. Two quotes are in use, and only the double one has
escapes; a quote written three times opens a string that may run over several lines. A `Quoting`
is one of the forms, and what the reader and the writer know about it is said here once.
-/

namespace TemplateExpr

/-- A form of strings. -/
inductive Quoting where
  | basic
  | literal
  | multilineBasic
  | multilineLiteral
deriving DecidableEq

namespace Quoting

/-- The quote that the form uses. -/
def quote : Quoting → Char
  | basic | multilineBasic => '"'
  | literal | multilineLiteral => '\''

/-- Whether a backslash starts an escape. -/
def hasEscapes : Quoting → Bool
  | basic | multilineBasic => true
  | literal | multilineLiteral => false

/-- Whether line breaks stand for themselves. -/
def isMultiline : Quoting → Bool
  | basic | literal => false
  | multilineBasic | multilineLiteral => true

/-- What stands on both sides of a string. -/
def delimiter (q : Quoting) : List Char :=
  if q.isMultiline then [q.quote, q.quote, q.quote] else [q.quote]

/-- How many quotes may stand side by side in a string without ending it. -/
def spareQuotes (q : Quoting) : Nat := if q.isMultiline then 2 else 0

end Quoting

namespace Config

/-- Whether a character can stand in a string or a comment as itself: all can but the controls,
among which the tab can. -/
def isPlain (c : Char) : Bool := c == '\t' || (0x20 ≤ c.toNat && c.toNat != 0x7F)

end Config

end TemplateExpr
