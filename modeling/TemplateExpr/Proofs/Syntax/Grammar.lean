import Mathlib.Data.List.Basic
import TemplateExpr.Syntax.Expr
import TemplateExpr.Syntax.Token

/-!
# The grammar of expressions

The grammar as a family of relations between lists of tokens and what they build, one relation for
each nonterminal and one constructor for each production. Nothing here refers to a parser: there is
no cursor, no depth and no count of rounds.

The levels of binary operators that group to the left share one nonterminal, `Operation`, over the
list of the tiers from its own on. What is built behind an operand of such a level (`Operators`),
and behind a receiver (`Links`), has that operand as an argument, so the tree grows to the left.

The only lookahead is at a field: a name with an opening parenthesis behind it is a method.
-/

namespace TemplateExpr

namespace Token

/-- The token is the given symbol. -/
def Is (t : Token) (symbol : Symbol) : Prop := t.kind = .symbol symbol

/-- The token may stand behind a point: an identifier or one of the keywords. -/
inductive IsWord (t : Token) : Prop where
  | name {name : String} (h : t.kind = .name name)
  | keyword {word : Keyword} (h : t.kind = .keyword word)

/-- The token may be the key of an object entry, and the key that it is. -/
inductive IsKey (t : Token) : String → Prop where
  | name {name : String} (h : t.kind = .name name) : IsKey t name
  | string {s : String} (h : t.kind = .string s) : IsKey t s
  | number {n : Number} (h : t.kind = .number n) : IsKey t n.text
  | keyword {word : Keyword} (h : t.kind = .keyword word) : IsKey t t.lexeme

end Token

namespace Grammar

/-- A list of tokens starts with the given symbol. -/
def StartsWith (symbol : Symbol) (ts : List Token) : Prop := ∃ t ∈ ts.head?, t.Is symbol

@[simp] theorem not_startsWith_nil {symbol : Symbol} : ¬ StartsWith symbol [] := by
  simp [StartsWith]

@[simp] theorem startsWith_cons {symbol : Symbol} {t : Token} {ts : List Token} :
    StartsWith symbol (t :: ts) ↔ t.Is symbol := by
  simp [StartsWith]

theorem StartsWith.append {symbol : Symbol} {ts : List Token} (h : StartsWith symbol ts)
    (ts' : List Token) : StartsWith symbol (ts ++ ts') := by
  cases ts with
  | nil => exact absurd h not_startsWith_nil
  | cons t ts => exact startsWith_cons.mpr (startsWith_cons.mp h)

/-- The levels of operators that group to the left. -/
inductive Tier where
  | nullish
  | or
  | and
  | equality
  | comparison
  | additive
  | multiplicative
deriving DecidableEq

namespace Tier

/-- The tiers, the loosest first. -/
def all : List Tier :=
  [nullish, or, and, equality, comparison, additive, multiplicative]

/-- The operators of a tier, with what they make of their operands. -/
def operators : Tier → List (Symbol × (Expr → Expr → Expr))
  | nullish => [(.nullish, .logical .nullish)]
  | or => [(.or, .logical .or)]
  | and => [(.and, .logical .and)]
  | equality =>
    [(.equal, .binary .eq), (.notEqual, .binary .ne), (.strictEqual, .binary .strictEq),
      (.strictNotEqual, .binary .strictNe)]
  | comparison =>
    [(.less, .binary .lt), (.lessEqual, .binary .le), (.greater, .binary .gt),
      (.greaterEqual, .binary .ge)]
  | additive => [(.plus, .binary .add), (.minus, .binary .sub)]
  | multiplicative =>
    [(.star, .binary .mul), (.slash, .binary .div), (.percent, .binary .mod)]

/-- The symbols of a tier. -/
def symbols (tier : Tier) : List Symbol := tier.operators.map Prod.fst

end Tier

/-- The tokens of the operators in front of an operand. -/
def signs : List (TokenKind × UnaryOp) :=
  [(.symbol .not, .not), (.symbol .minus, .neg), (.symbol .plus, .plus),
    (.keyword .typeof, .typeof)]

/-- The tokens that are an expression by themselves, apart from names and literals with a value. -/
def constants : List (Keyword × Expr) :=
  [(.true, .bool true), (.false, .bool false), (.null, .null), (.undefined, .undefined)]

mutual

/-- An operation, or a choice between two expressions. -/
inductive Expression : List Token → Expr → Prop where
  | operation {ts : List Token} {e : Expr} (h : Operation Tier.all ts e) : Expression ts e
  | conditional {ts₁ ts₂ ts₃ : List Token} {question colon : Token} {e₁ e₂ e₃ : Expr}
      (condition : Operation Tier.all ts₁ e₁) (hquestion : question.Is .question)
      (consequent : Expression ts₂ e₂) (hcolon : colon.Is .colon)
      (alternate : Expression ts₃ e₃) :
      Expression (ts₁ ++ question :: (ts₂ ++ colon :: ts₃)) (.conditional e₁ e₂ e₃)

/-- Operands with operators of the given tiers between them. -/
inductive Operation : List Tier → List Token → Expr → Prop where
  | power {ts : List Token} {e : Expr} (h : Power ts e) : Operation [] ts e
  | chain {tier : Tier} {tiers : List Tier} {ts₁ ts₂ : List Token} {left e : Expr}
      (first : Operation tiers ts₁ left) (more : Operators tier tiers left ts₂ e) :
      Operation (tier :: tiers) (ts₁ ++ ts₂) e

/-- Operators of one tier with their right operands, behind a left operand. -/
inductive Operators : Tier → List Tier → Expr → List Token → Expr → Prop where
  | none {tier : Tier} {tiers : List Tier} {left : Expr} : Operators tier tiers left [] left
  | more {tier : Tier} {tiers : List Tier} {ts₁ ts₂ : List Token} {operator : Token}
      {symbol : Symbol} {build : Expr → Expr → Expr} {left right e : Expr}
      (hoperator : operator.Is symbol) (hbuild : (symbol, build) ∈ tier.operators)
      (operand : Operation tiers ts₁ right)
      (more : Operators tier tiers (build left right) ts₂ e) :
      Operators tier tiers left (operator :: (ts₁ ++ ts₂)) e

/-- Operands with the power operator between them, grouped to the right. -/
inductive Power : List Token → Expr → Prop where
  | unary {ts : List Token} {e : Expr} (h : Unary ts e) : Power ts e
  | power {ts₁ ts₂ : List Token} {operator : Token} {base exponent : Expr}
      (hbase : Unary ts₁ base) (hoperator : operator.Is .starStar)
      (hexponent : Power ts₂ exponent) :
      Power (ts₁ ++ operator :: ts₂) (.binary .pow base exponent)

/-- An operand behind any number of operators. -/
inductive Unary : List Token → Expr → Prop where
  | operand {ts : List Token} {e : Expr} (h : Linked ts e) : Unary ts e
  | sign {ts : List Token} {t : Token} {op : UnaryOp} {operand : Expr}
      (hsign : (t.kind, op) ∈ signs) (h : Unary ts operand) :
      Unary (t :: ts) (.unary op operand)

/-- An operand with its links. -/
inductive Linked : List Token → Expr → Prop where
  | links {ts₁ ts₂ : List Token} {receiver e : Expr} (hreceiver : Primary ts₁ receiver)
      (more : Links receiver ts₂ e) : Linked (ts₁ ++ ts₂) e

/-- Calls, fields, method calls and indices, behind a receiver. -/
inductive Links : Expr → List Token → Expr → Prop where
  | none {receiver : Expr} : Links receiver [] receiver
  | call {ts₁ ts₂ : List Token} {opening closing : Token} {receiver e : Expr}
      {arguments : List Expr} (hopening : opening.Is .leftParen)
      (harguments : Items ts₁ arguments) (hclosing : closing.Is .rightParen)
      (more : Links (.call receiver arguments) ts₂ e) :
      Links receiver (opening :: (ts₁ ++ closing :: ts₂)) e
  | index {ts₁ ts₂ : List Token} {opening closing : Token} {receiver key e : Expr}
      (hopening : opening.Is .leftBracket) (hkey : Expression ts₁ key)
      (hclosing : closing.Is .rightBracket) (more : Links (.index receiver key) ts₂ e) :
      Links receiver (opening :: (ts₁ ++ closing :: ts₂)) e
  | field {ts : List Token} {point word : Token} {receiver e : Expr} {optional : Bool}
      (hpoint : point.Is (if optional then .questionDot else .dot)) (hword : word.IsWord)
      (hfield : ¬ StartsWith .leftParen ts)
      (more : Links (.field receiver word.lexeme optional) ts e) :
      Links receiver (point :: word :: ts) e
  | method {ts₁ ts₂ : List Token} {point word opening closing : Token} {receiver e : Expr}
      {arguments : List Expr} {optional : Bool}
      (hpoint : point.Is (if optional then .questionDot else .dot)) (hword : word.IsWord)
      (hopening : opening.Is .leftParen) (harguments : Items ts₁ arguments)
      (hclosing : closing.Is .rightParen)
      (more : Links (.methodCall receiver word.lexeme arguments optional) ts₂ e) :
      Links receiver (point :: word :: opening :: (ts₁ ++ closing :: ts₂)) e

/-- A literal, a name, or an expression in parentheses, which leave no trace. -/
inductive Primary : List Token → Expr → Prop where
  | number {t : Token} {n : Number} (h : t.kind = .number n) : Primary [t] (.number n)
  | string {t : Token} {s : String} (h : t.kind = .string s) : Primary [t] (.string s)
  | name {t : Token} {name : String} (h : t.kind = .name name) : Primary [t] (.identifier name)
  | constant {t : Token} {word : Keyword} {e : Expr} (h : t.kind = .keyword word)
      (hconstant : (word, e) ∈ constants) : Primary [t] e
  | parentheses {ts : List Token} {opening closing : Token} {e : Expr}
      (hopening : opening.Is .leftParen) (h : Expression ts e)
      (hclosing : closing.Is .rightParen) : Primary (opening :: (ts ++ [closing])) e
  | array {ts : List Token} {opening closing : Token} {elements : List Expr}
      (hopening : opening.Is .leftBracket) (helements : Items ts elements)
      (hclosing : closing.Is .rightBracket) :
      Primary (opening :: (ts ++ [closing])) (.array elements)
  | object {ts : List Token} {opening closing : Token} {entries : List (String × Expr)}
      (hopening : opening.Is .leftBrace) (hentries : Entries ts entries)
      (hclosing : closing.Is .rightBrace) :
      Primary (opening :: (ts ++ [closing])) (.object entries)

/-- Expressions with commas between them; a comma may stand behind the last one. -/
inductive Items : List Token → List Expr → Prop where
  | none : Items [] []
  | last {ts : List Token} {e : Expr} (h : Expression ts e) : Items ts [e]
  | more {ts₁ ts₂ : List Token} {comma : Token} {e : Expr} {es : List Expr}
      (h : Expression ts₁ e) (hcomma : comma.Is .comma) (more : Items ts₂ es) :
      Items (ts₁ ++ comma :: ts₂) (e :: es)

/-- A key with its value; a name alone stands for its own value. -/
inductive Entry : List Token → String → Expr → Prop where
  | pair {ts : List Token} {key colon : Token} {name : String} {e : Expr}
      (hkey : key.IsKey name) (hcolon : colon.Is .colon) (h : Expression ts e) :
      Entry (key :: colon :: ts) name e
  | short {key : Token} {name : String} (h : key.kind = .name name) :
      Entry [key] name (.identifier name)

/-- Entries with commas between them; a comma may stand behind the last one. -/
inductive Entries : List Token → List (String × Expr) → Prop where
  | none : Entries [] []
  | last {ts : List Token} {name : String} {e : Expr} (h : Entry ts name e) :
      Entries ts [(name, e)]
  | more {ts₁ ts₂ : List Token} {comma : Token} {name : String} {e : Expr}
      {entries : List (String × Expr)} (h : Entry ts₁ name e) (hcomma : comma.Is .comma)
      (more : Entries ts₂ entries) : Entries (ts₁ ++ comma :: ts₂) ((name, e) :: entries)

end

end Grammar

end TemplateExpr
