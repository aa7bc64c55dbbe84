import TemplateExpr.Proofs.Syntax.Lookahead
import TemplateExpr.Proofs.Syntax.Runs

/-!
# The edges of phrases

A phrase of the grammar has a first token, which decides how the parser goes on (`Opened`), and it
ends where the next token cannot continue it (`Stops`). For each nonterminal the symbols that could
continue it are listed.
-/

namespace TemplateExpr

open TemplateExpr.Parser

namespace Grammar

variable {ts rest : List Token} {e : Expr} {tiers : List Tier}

/-! ## First tokens -/

/-- A token of the kind can start an expression. -/
def opens (kind : TokenKind) : Bool := (unaryOp? kind).isSome || (primary.opening? kind).isSome

/-- The phrase has a first token that can start an expression. -/
def Opened (ts : List Token) : Prop := ∃ t left, ts = t :: left ∧ opens t.kind = true

theorem Opened.append (h : Opened ts) (ts' : List Token) : Opened (ts ++ ts') := by
  obtain ⟨t, left, rfl, ht⟩ := h
  exact ⟨t, left ++ ts', rfl, ht⟩

theorem Opened.length_pos (h : Opened ts) : 0 < ts.length := by
  obtain ⟨t, left, rfl, -⟩ := h
  exact Nat.succ_pos _

theorem Opened.not_startsWith (h : Opened ts) {symbol : Symbol}
    (hsymbol : opens (.symbol symbol) = false) : ¬ StartsWith symbol ts := by
  obtain ⟨t, left, rfl, ht⟩ := h
  rw [startsWith_cons]
  intro his
  rw [his, hsymbol] at ht
  cases ht

theorem unaryOp?_of_opening? {kind : TokenKind} (h : primary.opening? kind = some kind) :
    unaryOp? kind = none := by
  cases kind with
  | symbol symbol => cases symbol <;> first | rfl | cases h
  | keyword word => cases word <;> first | rfl | cases h
  | _ => rfl

theorem Primary.first (h : Primary ts e) :
    ∃ t left, ts = t :: left ∧ primary.opening? t.kind = some t.kind := by
  cases h with
  | number h => exact ⟨_, _, rfl, by rw [h]; rfl⟩
  | string h => exact ⟨_, _, rfl, by rw [h]; rfl⟩
  | name h => exact ⟨_, _, rfl, by rw [h]; rfl⟩
  | constant h hconstant =>
    refine ⟨_, _, rfl, ?_⟩
    rw [h]
    simp only [constants, List.mem_cons, Prod.mk.injEq, List.not_mem_nil, or_false] at hconstant
    rcases hconstant with ⟨rfl, -⟩ | ⟨rfl, -⟩ | ⟨rfl, -⟩ | ⟨rfl, -⟩ <;> rfl
  | parentheses hopening _ _ => exact ⟨_, _, rfl, by rw [hopening]; rfl⟩
  | array hopening _ _ => exact ⟨_, _, rfl, by rw [hopening]; rfl⟩
  | object hopening _ _ => exact ⟨_, _, rfl, by rw [hopening]; rfl⟩

theorem Primary.length_pos (h : Primary ts e) : 0 < ts.length := by
  obtain ⟨t, left, rfl, -⟩ := h.first
  exact Nat.succ_pos _

theorem Linked.first (h : Linked ts e) :
    ∃ t left, ts = t :: left ∧ primary.opening? t.kind = some t.kind := by
  cases h with
  | links hreceiver _ =>
    obtain ⟨t, left, rfl, ht⟩ := hreceiver.first
    exact ⟨t, _, rfl, ht⟩

theorem Unary.opened (h : Unary ts e) : Opened ts := by
  cases h with
  | operand h =>
    obtain ⟨t, left, rfl, ht⟩ := h.first
    exact ⟨t, left, rfl, by simp [opens, ht]⟩
  | sign hsign _ =>
    exact ⟨_, _, rfl, by simp [opens, unaryOp?_eq_some_iff.mpr hsign]⟩

theorem Power.opened (h : Power ts e) : Opened ts := by
  cases h with
  | unary h => exact h.opened
  | power hbase _ _ => exact hbase.opened.append _

theorem Operation.opened {tiers : List Tier} {ts : List Token} {e : Expr} :
    Operation tiers ts e → Opened ts
  | .power h => h.opened
  | .chain first _ => (Operation.opened first).append _

theorem Expression.opened (h : Expression ts e) : Opened ts := by
  cases h with
  | operation h => exact h.opened
  | conditional condition _ _ _ _ => exact condition.opened.append _

/-! ## Where phrases end -/

/-- The next token is none of the given symbols. -/
def Stops (symbols : List Symbol) (ts : List Token) : Prop :=
  ∀ symbol ∈ symbols, ¬ StartsWith symbol ts

theorem stops_nil {symbols : List Symbol} : Stops symbols [] := fun _ _ => not_startsWith_nil

theorem stops_cons {symbols : List Symbol} {t : Token} {symbol : Symbol} (h : t.Is symbol)
    (hsymbol : symbol ∉ symbols) : Stops symbols (t :: rest) := by
  intro symbol' hmem hstart
  have hkind : t.kind = .symbol symbol' := startsWith_cons.mp hstart
  rw [h, TokenKind.symbol.injEq] at hkind
  exact hsymbol (hkind ▸ hmem)

theorem Stops.subset {symbols symbols' : List Symbol} (h : Stops symbols rest)
    (hsub : symbols' ⊆ symbols) : Stops symbols' rest := fun symbol hmem => h symbol (hsub hmem)

/-- The symbols that continue an operand of the power operator. -/
def powerSymbols : List Symbol := .starStar :: linkSymbols

/-- The symbols that continue an operation of the given tiers. -/
def operationSymbols (tiers : List Tier) : List Symbol := tiers.flatMap Tier.symbols ++ powerSymbols

/-- The symbols that continue an expression. -/
def expressionSymbols : List Symbol := .question :: operationSymbols Tier.all

theorem rejects_link?_of_stops (h : Stops linkSymbols rest) : Rejects link? rest := by
  intro t ht
  cases hlink : link? t.kind with
  | none => rfl
  | some symbol =>
    obtain ⟨his, hmem⟩ := link?_eq_some_iff.mp hlink
    exact absurd ⟨t, ht, his⟩ (h symbol hmem)

theorem rejects_level_of_stops {tier : Tier} (h : Stops tier.symbols rest) :
    Rejects tier.level.ofKind? rest := by
  intro t ht
  cases hlevel : tier.level.ofKind? t.kind with
  | none => rfl
  | some build =>
    obtain ⟨symbol, his, hmem⟩ := ofKind?_level_eq_some_iff.mp hlevel
    exact absurd ⟨t, ht, his⟩ (h symbol (List.mem_map_of_mem hmem))

theorem tier_symbols_not_mem {tier : Tier} {symbol : Symbol} (h : symbol ∈ tier.symbols)
    (htiers : tier ∉ tiers) : symbol ∉ operationSymbols tiers := by
  intro hmem
  rcases List.mem_append.mp hmem with hmem | hmem
  · obtain ⟨tier', htier', hsymbol⟩ := List.mem_flatMap.mp hmem
    have heq : some tier' = some tier := by
      rw [← Tier.of?_eq_some hsymbol, ← Tier.of?_eq_some h]
    exact htiers (Option.some.inj heq ▸ htier')
  · have hnone : ∀ symbol ∈ powerSymbols, Tier.of? symbol = none := by decide
    have hsome := hnone symbol hmem
    rw [Tier.of?_eq_some h] at hsome
    cases hsome

/-- What is built behind an operand starts where the operand ends. -/
theorem Operators.stops {tier : Tier} {left : Expr} (h : Operators tier tiers left ts e)
    (htier : tier ∉ tiers) (hrest : Stops (operationSymbols (tier :: tiers)) rest) :
    Stops (operationSymbols tiers) (ts ++ rest) := by
  cases h with
  | none =>
    refine hrest.subset fun symbol hmem => ?_
    rw [operationSymbols, List.flatMap_cons, List.append_assoc]
    exact List.mem_append_right _ hmem
  | more hoperator hbuild _ _ =>
    exact stops_cons hoperator (tier_symbols_not_mem (List.mem_map_of_mem hbuild) htier)

end Grammar

end TemplateExpr
