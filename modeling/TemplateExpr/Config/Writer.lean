import TemplateExpr.Config.Quoting

/-!
# Writing configurations

A configuration is written with all its settings, one a line and always in the same order. A
string takes the first of the forms that can hold it without escapes; a string that none can hold
is written with escapes. A tab asks for no escape, but is written as one where there are escapes.
-/

namespace TemplateExpr.Config

/-- Whether a character can only be written as an escape. -/
def needsEscape (c : Char) : Bool := !isPlain c && c != '\n'

/-- The length of the longest row of a quote, if a row of the given length has just been read. -/
def longestRow (quote : Char) : Nat → List Char → Nat
  | row, [] => row
  | row, c :: cs =>
    if c = quote then longestRow quote (row + 1) cs else max row (longestRow quote 0 cs)

/-- Whether a form can hold a string without escapes. -/
def holds (q : Quoting) (s : List Char) : Bool :=
  !s.any needsEscape && (q.isMultiline || !s.contains '\n')
    && !(q.hasEscapes && s.contains '\\') && longestRow q.quote 0 s ≤ q.spareQuotes

/-- The form that a string is written in. -/
def quotingFor (s : List Char) : Quoting :=
  match [Quoting.basic, .literal, .multilineBasic, .multilineLiteral].find? (holds · s) with
  | some q => q
  | none => if s.contains '\n' then .multilineBasic else .basic

/-- A character other than a quote, in a form that has escapes. -/
def escapeChar (q : Quoting) (c : Char) : List Char :=
  match c with
  | '\x08' => ['\\', 'b']
  | '\t' => ['\\', 't']
  | '\n' => if q.isMultiline then ['\n'] else ['\\', 'n']
  | '\x0c' => ['\\', 'f']
  | '\r' => ['\\', 'r']
  | '\\' => ['\\', '\\']
  | c =>
    if isPlain c then [c]
    else
      ['\\', 'u', '0', '0', (Nat.digitChar (c.toNat / 16)).toUpper,
        (Nat.digitChar (c.toNat % 16)).toUpper]

/-- The characters of a string in a form that has escapes, behind a row of quotes of the given
length. A quote is escaped if it would end the string. -/
def escapeChars (q : Quoting) : Nat → List Char → List Char
  | _, [] => []
  | row, c :: cs =>
    if c = q.quote then
      if row < q.spareQuotes then c :: escapeChars q (row + 1) cs
      else '\\' :: c :: escapeChars q 0 cs
    else escapeChar q c ++ escapeChars q 0 cs

/-- What stands between the opening quotes and a string: a line break, which is not part of the
string, if the string runs over several lines. -/
def opening (q : Quoting) (s : List Char) : List Char :=
  if q.isMultiline && s.contains '\n' then ['\n'] else []

/-- A string in the given form, which must be able to hold it if it has no escapes. -/
def quotedIn (q : Quoting) (s : List Char) : List Char :=
  q.delimiter ++ opening q s ++ (if q.hasEscapes then escapeChars q 0 s else s) ++ q.delimiter

/-- A string. -/
def quoted (s : String) : String := .ofList (quotedIn (quotingFor s.toList) s.toList)

/-- A configuration. A document has no integers of more than 63 bits. -/
def toText (config : Config) : Except ExprError String :=
  if config.maxSteps < integerEnd ∧ config.maxDepth < integerEnd then
    .ok ("max_steps = " ++ toString config.maxSteps ++ "\n"
      ++ "max_depth = " ++ toString config.maxDepth ++ "\n"
      ++ "sanitize = " ++ toString config.sanitize ++ "\n"
      ++ "log_level = " ++ quoted config.logLevel ++ "\n")
  else .error (.config .unwritable)

end TemplateExpr.Config
