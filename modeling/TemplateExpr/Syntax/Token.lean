import TemplateExpr.Number.Layout

/-!
# Tokens

A token is a kind with its place in the source: the position of its first character and the
characters it is written with. The tokens of fixed spelling are collected in `Symbol`, the words
with a meaning of their own in `Keyword`.
-/

namespace TemplateExpr

/-- The tokens of fixed spelling that are no words. -/
inductive Symbol where
  | plus
  | minus
  | star
  | starStar
  | slash
  | percent
  | equal
  | notEqual
  | strictEqual
  | strictNotEqual
  | less
  | lessEqual
  | greater
  | greaterEqual
  | and
  | or
  | not
  | nullish
  | leftParen
  | rightParen
  | leftBrace
  | rightBrace
  | leftBracket
  | rightBracket
  | comma
  | dot
  | questionDot
  | colon
  | question
deriving DecidableEq, Repr

/-- How a symbol is written. -/
def Symbol.text : Symbol → String
  | plus => "+"
  | minus => "-"
  | star => "*"
  | starStar => "**"
  | slash => "/"
  | percent => "%"
  | equal => "=="
  | notEqual => "!="
  | strictEqual => "==="
  | strictNotEqual => "!=="
  | less => "<"
  | lessEqual => "<="
  | greater => ">"
  | greaterEqual => ">="
  | and => "&&"
  | or => "||"
  | not => "!"
  | nullish => "??"
  | leftParen => "("
  | rightParen => ")"
  | leftBrace => "\x7b"
  | rightBrace => "\x7d"
  | leftBracket => "["
  | rightBracket => "]"
  | comma => ","
  | dot => "."
  | questionDot => "?."
  | colon => ":"
  | question => "?"

/-- The words that are no names. -/
inductive Keyword where
  | true
  | false
  | null
  | undefined
  | typeof
deriving DecidableEq, Repr

/-- How a keyword is written. -/
def Keyword.text : Keyword → String
  | .true => "true"
  | .false => "false"
  | .null => "null"
  | .undefined => "undefined"
  | .typeof => "typeof"

/-- The keyword that a word is, if it is one. -/
def Keyword.ofText? (word : String) : Option Keyword :=
  [Keyword.true, .false, .null, .undefined, .typeof].find? (·.text == word)

/-- What a token is. -/
inductive TokenKind where
  | number (value : Number)
  | string (value : String)
  | name (name : String)
  | keyword (word : Keyword)
  | symbol (symbol : Symbol)
deriving DecidableEq

/-- A token in its place. -/
structure Token where
  kind : TokenKind
  /-- The number of characters before the token. -/
  position : Nat
  /-- The characters of the token, as the source has them. -/
  lexeme : String
deriving DecidableEq

/-- The position of the first character behind the token. -/
def Token.stop (t : Token) : Nat := t.position + t.lexeme.length

end TemplateExpr
