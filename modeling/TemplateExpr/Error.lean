/-!
# What goes wrong

An error is a kind with its cause. The causes are data, so that a statement about an error never
compares texts; the wording of all of them is in `ExprError.message`. Positions count characters
from the start of the expression.
-/

namespace TemplateExpr

/-- Why a text has no next token. -/
inductive LexicalCause where
  | unterminatedString
  /-- A `\u` without four hexadecimal digits behind it. -/
  | incompleteEscape
  /-- A `\u` whose digits denote no character. -/
  | surrogateEscape (digits : String)
  /-- A hexadecimal literal without digits, or of more than 63 bits. -/
  | hexadecimal
  /-- A number whose exponent has a sign and no digits. -/
  | number (literal : String)
  /-- A single equals sign. -/
  | assignment
  | unexpected (c : Char)
deriving DecidableEq

/-- Why tokens do not make up an expression. -/
inductive SyntaxCause where
  /-- There are no tokens at all. -/
  | empty
  /-- The tokens end where an operand should stand. -/
  | unexpectedEnd
  /-- A token that cannot stand here. -/
  | unexpectedToken (lexeme : String)
  | conditionalColon
  | parenthesis
  | argumentsEnd
  | indexEnd
  | arrayEnd
  | objectEnd
  | objectKey
  | objectColon
  | propertyName
deriving DecidableEq

/-- The two values that have no properties. -/
inductive Missing where
  | undefined
  | null
deriving DecidableEq

/-- Why an operation does not apply to its operands. -/
inductive TypeCause where
  /-- Reading a property of a value that has none. -/
  | cannotRead (receiver : Missing) (key : String)
  /-- Calling something, named as the source names it, that is no function. -/
  | notFunction (callee : String)
  /-- A number of places outside 0 to 100. -/
  | fractionDigits
  /-- A date that cannot be read, or that lies beyond the calendar. -/
  | invalidDate
deriving DecidableEq

/-- Why a configuration is refused. -/
inductive ConfigCause where
  /-- The file with the configuration cannot be read; the system says why. -/
  | unreadable (path reason : String)
  /-- The text is not a document with the settings of a configuration. -/
  | malformed
  | noSteps
  | noDepth
  /-- A limit is too large to be written. -/
  | unwritable
deriving DecidableEq

/-- Everything that can go wrong between the text of an expression and its value. -/
inductive ExprError where
  | lexical (position : Nat) (cause : LexicalCause)
  | syntactic (position : Nat) (cause : SyntaxCause)
  /-- The text contains a construct of the denylist. -/
  | dangerous (text : String)
  /-- The expression `text` could not be evaluated for another cause. -/
  | evaluation (text : String) (cause : ExprError)
  /-- A name that is bound neither in the scope nor in the library. -/
  | unbound (name : String)
  | type (cause : TypeCause)
  /-- A step or nesting limit was exceeded. -/
  | exhausted (limit : Nat)
  | config (cause : ConfigCause)
deriving DecidableEq

namespace LexicalCause

def message : LexicalCause → String
  | unterminatedString => "Unterminated string literal"
  | incompleteEscape => "Invalid unicode escape sequence"
  | surrogateEscape digits => "Invalid unicode escape \\u" ++ digits
  | hexadecimal => "Invalid hexadecimal literal"
  | number literal => "Invalid number literal '" ++ literal ++ "'"
  | assignment => "Assignment is not allowed in expressions"
  | unexpected c => "Unexpected character '" ++ String.singleton c ++ "'"

end LexicalCause

namespace SyntaxCause

def message : SyntaxCause → String
  | empty => "Expected expression"
  | unexpectedEnd => "Unexpected end of expression"
  | unexpectedToken lexeme => "Unexpected token '" ++ lexeme ++ "'"
  | conditionalColon => "Expected ':' in conditional expression"
  | parenthesis => "Expected ')' after expression"
  | argumentsEnd => "Expected ')' after arguments"
  | indexEnd => "Expected ']' after index"
  | arrayEnd => "Expected ']' after array elements"
  | objectEnd => "Expected '\x7d' after object entries"
  | objectKey => "Expected property name in object literal"
  | objectColon => "Expected ':' after property name"
  | propertyName => "Expected property name after '.'"

end SyntaxCause

namespace Missing

def text : Missing → String
  | undefined => "undefined"
  | null => "null"

end Missing

namespace TypeCause

def message : TypeCause → String
  | cannotRead receiver key =>
    "Cannot read properties of " ++ receiver.text ++ " (reading '" ++ key ++ "')"
  | notFunction callee => callee ++ " is not a function"
  | fractionDigits => "toFixed() digits argument must be between 0 and 100"
  | invalidDate => "DATEADD() received an invalid date"

end TypeCause

namespace ConfigCause

def message : ConfigCause → String
  | unreadable path reason => path ++ ": " ++ reason
  | malformed => "TOML parse error"
  | noSteps => "max_steps must be greater than 0"
  | noDepth => "max_depth must be greater than 0"
  | unwritable => "out-of-range value for u64 type"

end ConfigCause

namespace ExprError

/-- The wording of an error. -/
def message : ExprError → String
  | lexical position cause =>
    "Lexer error at position " ++ toString position ++ ": " ++ cause.message
  | syntactic position cause =>
    "Parser error at position " ++ toString position ++ ": " ++ cause.message
  | dangerous text => "Potentially dangerous expression detected: " ++ text
  | evaluation text cause =>
    "Failed to evaluate expression \"" ++ text ++ "\": " ++ cause.message
  | unbound name => name ++ " is not defined"
  | type cause => "TypeError: " ++ cause.message
  | exhausted limit => "Evaluation budget exhausted (limit " ++ toString limit ++ ")"
  | config cause => "Invalid configuration: " ++ cause.message

/-- Whether the denylist raised the error. -/
def isDangerous : ExprError → Bool
  | dangerous _ => true
  | _ => false

end ExprError

end TemplateExpr
