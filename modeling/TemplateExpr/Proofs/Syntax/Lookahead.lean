import TemplateExpr.Proofs.Syntax.Grammar
import TemplateExpr.Syntax.Parser

/-!
# The tokens that the parser looks for

The parser decides by the kind of the next token. Each of its decisions is a table of the grammar:
the operators of the tiers, the signs, the words behind a point and the keys of entries.
-/

namespace TemplateExpr

open Grammar

namespace Grammar.Tier

/-- The operators of a tier, as the parser finds them. -/
def level : Tier → Parser.Level
  | nullish => Parser.levels.nullish
  | or => Parser.levels.or
  | and => Parser.levels.and
  | equality => Parser.levels.equality
  | comparison => Parser.levels.comparison
  | additive => Parser.levels.additive
  | multiplicative => Parser.levels.multiplicative

theorem map_level_all : all.map level = Parser.levels := rfl

theorem level_eq_some_iff {tier : Tier} {symbol : Symbol} {build : Expr → Expr → Expr} :
    tier.level symbol = some build ↔ (symbol, build) ∈ tier.operators := by
  cases tier <;> cases symbol <;>
    simp [level, operators, Parser.levels.nullish, Parser.levels.or, Parser.levels.and,
      Parser.levels.equality, Parser.levels.comparison, Parser.levels.additive,
      Parser.levels.multiplicative, eq_comm]

/-- The tier of an operator. -/
def of? (symbol : Symbol) : Option Tier := all.find? fun tier => symbol ∈ tier.symbols

/-- No symbol is an operator of two tiers. -/
theorem of?_eq_some {tier : Tier} {symbol : Symbol} (h : symbol ∈ tier.symbols) :
    of? symbol = some tier := by
  cases tier <;> cases symbol <;> first | rfl | exact absurd h (by decide)

end Grammar.Tier

namespace Parser

theorem ofKind?_level_eq_some_iff {tier : Tier} {kind : TokenKind} {build : Expr → Expr → Expr} :
    tier.level.ofKind? kind = some build ↔
      ∃ symbol, kind = .symbol symbol ∧ (symbol, build) ∈ tier.operators := by
  cases kind <;> simp [Level.ofKind?, Tier.level_eq_some_iff]

/-- One more operator of a tier with its right operand, if one follows. -/
def operatorStep (tier : Tier) (operand : Parser Expr) (left : Expr) : Parser (Option Expr) := do
  match ← accept? tier.level.ofKind? with
  | none => return none
  | some (_, build) =>
    deepen
    return some (build left (← operand))

theorem leftChain_eq_chain (tier : Tier) (operand : Parser Expr) :
    leftChain tier.level operand = chain operand (operatorStep tier operand) := rfl

/-- Operands with operators of the given tiers between them. -/
def operation (self : Parser Expr) (tiers : List Tier) : Parser Expr :=
  (tiers.map Tier.level).foldr leftChain (exponent (unary (linked self)))

theorem operation_cons (self : Parser Expr) (tier : Tier) (tiers : List Tier) :
    operation self (tier :: tiers) = leftChain tier.level (operation self tiers) := rfl

theorem binary_eq_operation (self : Parser Expr) : binary self = operation self Tier.all := by
  rw [operation, Tier.map_level_all]
  rfl

theorem unaryOp?_eq_some_iff {kind : TokenKind} {op : UnaryOp} :
    unaryOp? kind = some op ↔ (kind, op) ∈ signs := by
  constructor
  · intro h
    unfold unaryOp? at h
    split at h <;> cases h <;> decide
  · intro h
    simp only [signs, List.mem_cons, Prod.mk.injEq, List.not_mem_nil, or_false] at h
    rcases h with ⟨rfl, rfl⟩ | ⟨rfl, rfl⟩ | ⟨rfl, rfl⟩ | ⟨rfl, rfl⟩ <;> rfl

theorem keyOf?_eq_some_iff {t : Token} {key : String} :
    keyOf? t = some key ↔ t.IsKey key := by
  constructor
  · intro h
    unfold keyOf? at h
    split at h <;> cases h
    · exact .name ‹_›
    · exact .string ‹_›
    · exact .number ‹_›
    · exact .keyword ‹_›
  · rintro (h | h | h | h) <;> simp [keyOf?, h]

theorem wordOf?_eq_some_iff {t : Token} : wordOf? t.kind = some () ↔ t.IsWord := by
  constructor
  · intro h
    unfold wordOf? at h
    split at h
    · exact .name ‹_›
    · exact .keyword ‹_›
    · cases h
  · rintro (h | h) <;> simp [wordOf?, h]

/-- The symbols that a link starts with. -/
def linkSymbols : List Symbol := [.leftParen, .dot, .questionDot, .leftBracket]

theorem link?_eq_some_iff {t : Token} {symbol : Symbol} :
    link? t.kind = some symbol ↔ t.Is symbol ∧ symbol ∈ linkSymbols := by
  unfold link? Token.Is
  cases t.kind with
  | symbol s =>
    simp only [linkSymbols, List.mem_cons, List.not_mem_nil, or_false, TokenKind.symbol.injEq]
    constructor
    · intro h
      split at h
      · cases h
        exact ⟨rfl, ‹_›⟩
      · cases h
    · rintro ⟨rfl, h⟩
      rw [if_pos h]
  | _ => simp

end Parser

end TemplateExpr
