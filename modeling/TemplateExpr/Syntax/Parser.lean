import TemplateExpr.Syntax.Expr
import TemplateExpr.Syntax.Lexer

/-!
# From tokens to expressions

The parser reads tokens from the front of a list and counts how deeply it is nested; the count may
not pass a limit. Both are in a `Cursor`, which survives an error, so that it can be told where
the parser stopped.

The grammar has one function for each way of building expressions, and all recursion goes through
`expression`, which the other functions take as an argument `self`. Between two nested uses of
`expression` at least one token is read, so the number of tokens bounds the nesting, and for every
loop the number of tokens left bounds the number of rounds. Where such a count has run out there
are no tokens left, and the answer is the one that the loop would give there.

A level of nesting is counted for each nested expression (`nested`) and for each operator or link
of a chain (`deepen`, undone when the chain is complete), so the limit bounds the height of the
tree also for long flat chains.
-/

namespace TemplateExpr

/-- Where the parser is: the tokens that are left, and the depth of nesting. -/
structure Cursor where
  rest : List Token
  depth : Nat

/-- What stays fixed while a list of tokens is parsed. -/
structure Bounds where
  /-- The greatest depth of nesting. -/
  maxDepth : Nat
  /-- The position behind the last token. -/
  stop : Nat

/-- A parser fails or not, and moves the cursor in either case. -/
abbrev Parser := ReaderT Bounds (EStateM ExprError Cursor)

namespace Parser

/-! ## Steps -/

def fail {α : Type} (position : Nat) (cause : SyntaxCause) : Parser α :=
  throw (.syntactic position cause)

/-- Fails at the next token, or behind the last one. -/
def failHere {α : Type} (cause : SyntaxCause) : Parser α := do
  match (← get).rest with
  | t :: _ => fail t.position cause
  | [] => fail (← read).stop cause

/-- Takes the next token if it is of a suitable kind. -/
def accept? {α : Type} (suitable? : TokenKind → Option α) : Parser (Option (Token × α)) := do
  let cursor ← get
  match cursor.rest with
  | [] => return none
  | t :: rest =>
    match suitable? t.kind with
    | none => return none
    | some a =>
      set { cursor with rest }
      return some (t, a)

/-- Takes the next token if it is the given symbol. -/
def accept (symbol : Symbol) : Parser Bool :=
  return (← accept? fun kind => if kind = .symbol symbol then some () else none).isSome

/-- Takes the given symbol. -/
def expect (symbol : Symbol) (cause : SyntaxCause) : Parser Unit := do
  unless ← accept symbol do failHere cause

/-- Whether the next token is the given symbol. -/
def nextIs (symbol : Symbol) : Parser Bool :=
  return match (← get).rest with
    | t :: _ => t.kind = .symbol symbol
    | [] => false

/-- Goes one level deeper, if the limit allows it. -/
def deepen : Parser Unit := do
  modify fun cursor => { cursor with depth := cursor.depth + 1 }
  let maxDepth := (← read).maxDepth
  if maxDepth < (← get).depth then throw (.exhausted maxDepth)

/-- Runs a parser one level deeper. -/
def nested {α : Type} (p : Parser α) : Parser α := do
  deepen
  fun bounds cursor =>
    match p bounds cursor with
    | .ok a cursor => .ok a { cursor with depth := cursor.depth - 1 }
    | .error e cursor => .error e { cursor with depth := cursor.depth - 1 }

/-- Builds on what the first parser read, as long as there is something to add. Each addition goes
one level deeper; all of them are undone at the end. -/
def chain {α : Type} (first : Parser α) (more : α → Parser (Option α)) : Parser α := do
  let a ← first
  let cursor ← get
  let a ← rounds cursor.rest.length a
  modify fun now => { now with depth := cursor.depth }
  return a
where
  rounds : Nat → α → Parser α
    | 0, a => return a
    | n + 1, a => do
      match ← more a with
      | some a => rounds n a
      | none => return a

/-! ## Operators -/

/-- The operators of one level of precedence. -/
abbrev Level := Symbol → Option (Expr → Expr → Expr)

/-- The levels of left-associative operators, the loosest first. -/
def levels : List Level := [nullish, or, and, equality, comparison, additive, multiplicative]
where
  nullish : Level
    | .nullish => some (.logical .nullish)
    | _ => none
  or : Level
    | .or => some (.logical .or)
    | _ => none
  and : Level
    | .and => some (.logical .and)
    | _ => none
  equality : Level
    | .equal => some (.binary .eq)
    | .notEqual => some (.binary .ne)
    | .strictEqual => some (.binary .strictEq)
    | .strictNotEqual => some (.binary .strictNe)
    | _ => none
  comparison : Level
    | .less => some (.binary .lt)
    | .lessEqual => some (.binary .le)
    | .greater => some (.binary .gt)
    | .greaterEqual => some (.binary .ge)
    | _ => none
  additive : Level
    | .plus => some (.binary .add)
    | .minus => some (.binary .sub)
    | _ => none
  multiplicative : Level
    | .star => some (.binary .mul)
    | .slash => some (.binary .div)
    | .percent => some (.binary .mod)
    | _ => none

/-- What an operator of the level makes of its operands, if a token is one. -/
def Level.ofKind? (level : Level) : TokenKind → Option (Expr → Expr → Expr)
  | .symbol symbol => level symbol
  | _ => none

/-- Operands with operators of one level between them, grouped to the left. -/
def leftChain (level : Level) (operand : Parser Expr) : Parser Expr :=
  chain operand fun left => do
    match ← accept? level.ofKind? with
    | none => return none
    | some (_, build) =>
      deepen
      return some (build left (← operand))

/-- The operator in front of an operand, if a token is one. -/
def unaryOp? : TokenKind → Option UnaryOp
  | .symbol .not => some .not
  | .symbol .minus => some .neg
  | .symbol .plus => some .plus
  | .keyword .typeof => some .typeof
  | _ => none

/-- An operand behind any number of operators, fewer than the given count. -/
def unaryWithin (operand : Parser Expr) : Nat → Parser Expr
  | 0 => failHere .unexpectedEnd
  | n + 1 => do
    match ← accept? unaryOp? with
    | some (_, op) => return .unary op (← nested (unaryWithin operand n))
    | none => operand

/-- An operand behind any number of operators. -/
def unary (operand : Parser Expr) : Parser Expr := do
  unaryWithin operand (← get).rest.length

/-- Operands with the power operator between them, grouped to the right, fewer than the given
count. -/
def exponentWithin (operand : Parser Expr) : Nat → Parser Expr
  | 0 => failHere .unexpectedEnd
  | n + 1 => do
    let base ← operand
    if ← accept .starStar then
      return .binary .pow base (← nested (exponentWithin operand n))
    else return base

/-- Operands with the power operator between them, grouped to the right. -/
def exponent (operand : Parser Expr) : Parser Expr := do
  exponentWithin operand (← get).rest.length

/-! ## Lists and literals -/

/-- Expressions between commas up to a closing symbol, fewer than the given count. A comma may
stand behind the last one. -/
def itemsWithin (self : Parser Expr) (closing : Symbol) : Nat → Parser (List Expr)
  | 0 => return [← self]
  | n + 1 => do
    let e ← self
    if ← accept .comma then
      if ← nextIs closing then return [e]
      return e :: (← itemsWithin self closing n)
    else return [e]

/-- Expressions between commas, and the closing symbol behind them. -/
def items (self : Parser Expr) (closing : Symbol) (cause : SyntaxCause) : Parser (List Expr) := do
  let es ← if ← nextIs closing then pure [] else itemsWithin self closing (← get).rest.length
  expect closing cause
  return es

/-- The key of an object entry, if a token can be one. A number is a key in its written form. -/
def keyOf? (t : Token) : Option String :=
  match t.kind with
  | .name name => some name
  | .string s => some s
  | .number n => some n.text
  | .keyword _ => some t.lexeme
  | .symbol _ => none

/-- The value of an object entry behind its key. A name alone stands for its own value. -/
def entryValue (self : Parser Expr) (key : Token) : Parser Expr := do
  if ← accept .colon then self
  else
    match key.kind with
    | .name name => return .identifier name
    | _ => failHere .objectColon

/-- The entries of an object literal, fewer than the given count. The position is that of the brace
or comma before them, where the fault lies if the tokens end there. -/
def entriesWithin (self : Parser Expr) (before : Nat) : Nat → Parser (List (String × Expr))
  | 0 => fail before .objectKey
  | n + 1 => do
    match ← accept? some with
    | none => fail before .objectKey
    | some (key, _) =>
      match keyOf? key with
      | none => fail key.position .objectKey
      | some name =>
        let value ← entryValue self key
        match ← accept? fun kind => if kind = .symbol .comma then some () else none with
        | none => return [(name, value)]
        | some (comma, _) =>
          if ← nextIs .rightBrace then return [(name, value)]
          return (name, value) :: (← entriesWithin self comma.position n)

/-- An object literal behind its opening brace, which is at the given position. -/
def objectLiteral (self : Parser Expr) (brace : Nat) : Parser Expr := do
  let entries ←
    if ← nextIs .rightBrace then pure [] else entriesWithin self brace (← get).rest.length
  expect .rightBrace .objectEnd
  return .object entries

/-- A literal, a name, or an expression in parentheses. -/
def primary (self : Parser Expr) : Parser Expr := do
  match ← accept? opening? with
  | none => misplaced
  | some (t, kind) =>
    match kind with
    | .number n => return .number n
    | .string s => return .string s
    | .name name => return .identifier name
    | .keyword .true => return .bool true
    | .keyword .false => return .bool false
    | .keyword .null => return .null
    | .keyword .undefined => return .undefined
    | .symbol .leftParen =>
      let e ← self
      expect .rightParen .parenthesis
      return e
    | .symbol .leftBracket => return .array (← items self .rightBracket .arrayEnd)
    | .symbol .leftBrace => objectLiteral self t.position
    | _ => misplaced
where
  /-- The tokens that an operand may start with. -/
  opening? (kind : TokenKind) : Option TokenKind :=
    match kind with
    | .keyword .typeof => none
    | .symbol symbol =>
      if symbol = .leftParen ∨ symbol = .leftBracket ∨ symbol = .leftBrace then some kind else none
    | kind => some kind
  /-- No operand starts here. -/
  misplaced : Parser Expr := do
    match (← get).rest with
    | [] => failHere .unexpectedEnd
    | t :: _ => fail t.position (.unexpectedToken t.lexeme)

/-! ## Links -/

/-- The words that may stand behind a point. -/
def wordOf? : TokenKind → Option Unit
  | .name _ | .keyword _ => some ()
  | _ => none

/-- The name behind a point. -/
def propertyName : Parser String := do
  match ← accept? wordOf? with
  | some (t, _) => return t.lexeme
  | none => failHere .propertyName

/-- The symbols that a link starts with. -/
def link? : TokenKind → Option Symbol
  | .symbol symbol =>
    if symbol = .leftParen ∨ symbol = .dot ∨ symbol = .questionDot ∨ symbol = .leftBracket then
      some symbol
    else none
  | _ => none

/-- One more call, field, method call or index on a receiver, if one follows. -/
def link (self : Parser Expr) (receiver : Expr) : Parser (Option Expr) := do
  match ← accept? link? with
  | none => return none
  | some (_, symbol) =>
    deepen
    match symbol with
    | .leftParen => return some (.call receiver (← items self .rightParen .argumentsEnd))
    | .leftBracket =>
      let key ← self
      expect .rightBracket .indexEnd
      return some (.index receiver key)
    | symbol =>
      let optional := symbol = .questionDot
      let name ← propertyName
      if ← accept .leftParen then
        let arguments ← items self .rightParen .argumentsEnd
        return some (.methodCall receiver name arguments optional)
      else return some (.field receiver name optional)

/-- An operand with its links. -/
def linked (self : Parser Expr) : Parser Expr := chain (primary self) (link self)

/-! ## Expressions -/

/-- Operands and operators of all levels. -/
def binary (self : Parser Expr) : Parser Expr :=
  levels.foldr leftChain (exponent (unary (linked self)))

/-- An operation, or a choice between two expressions. -/
def conditional (self : Parser Expr) : Parser Expr := do
  let condition ← binary self
  if ← accept .question then
    let consequent ← self
    expect .colon .conditionalColon
    let alternate ← self
    return .conditional condition consequent alternate
  else return condition

/-- An expression from a number of tokens that is no greater than the given count. -/
def expression : Nat → Parser Expr
  | 0 => nested (failHere .unexpectedEnd)
  | n + 1 => nested (conditional (expression n))

end Parser

/-- The position behind the last of the tokens. -/
def stopOf (tokens : List Token) : Nat := (tokens.getLast?.map Token.stop).getD 0

/-- The expression that the tokens make up, all of them, nested no deeper than the limit. -/
def parseTokens (tokens : List Token) (maxDepth : Nat) : Except ExprError Expr :=
  if tokens.isEmpty then .error (.syntactic 0 .empty)
  else
    match Parser.expression tokens.length ⟨maxDepth, stopOf tokens⟩ ⟨tokens, 0⟩ with
    | .error e _ => .error e
    | .ok e cursor =>
      match cursor.rest with
      | [] => .ok e
      | t :: _ => .error (.syntactic t.position (.unexpectedToken t.lexeme))

/-- The expression that a text is, nested no deeper than the limit. -/
def parse (text : String) (maxDepth : Nat) : Except ExprError Expr := do
  parseTokens (← tokenize text) maxDepth

end TemplateExpr
