import TemplateExpr.Proofs.Syntax.Edges

/-!
# Every expression of the grammar is read

If tokens derive an expression and none that could continue it follows, the parser reads just these
tokens and returns that expression, unless the limit on nesting stops it (`Parses`). For each
production there is one lemma about the function that reads it; `Expression.parses` puts them
together along a derivation.

The counts of rounds in the parser are no less than the number of tokens to be read, so they never
run out.
-/

namespace TemplateExpr

open Grammar

namespace Parser

variable {α : Type} {bounds : Bounds} {depth : Nat} {ts ts₁ ts₂ rest : List Token} {e : Expr}

/-- The limit on nesting stopped the parser. -/
def Exhausted (bounds : Bounds) (e : ExprError) : Prop := e = .exhausted bounds.maxDepth

/-- A run ends with the given result and cursor, unless the limit on nesting stops it. -/
def Yields (p : Parser α) (bounds : Bounds) (cursor : Cursor) (a : α) (now : Cursor) : Prop :=
  Ends p bounds cursor (fun a' now' => a' = a ∧ now' = now) (Exhausted bounds)

theorem Yields.ends {p : Parser α} {cursor now : Cursor} {a : α} {done : α → Cursor → Prop}
    (h : Yields p bounds cursor a now) (hdone : done a now) :
    Ends p bounds cursor done (Exhausted bounds) := by
  refine Ends.imp h ?_
  intro a' now' heq
  obtain ⟨rfl, rfl⟩ := heq
  exact hdone

/-- In front of tokens that stop it, a parser takes the given tokens and returns the given value. -/
def Parses (p : Parser α) (ts : List Token) (a : α) (symbols : List Symbol) : Prop :=
  ∀ bounds depth rest, Stops symbols rest →
    Yields p bounds ⟨ts ++ rest, depth⟩ a ⟨rest, depth⟩

section

variable {p : Parser α} {a : α} {symbols : List Symbol}

theorem Parses.ends (h : Parses p ts a symbols) {done : α → Cursor → Prop}
    (hstops : Stops symbols rest) (hdone : done a ⟨rest, depth⟩) :
    Ends p bounds ⟨ts ++ rest, depth⟩ done (Exhausted bounds) :=
  (h bounds depth rest hstops).ends hdone

theorem ends_deepen_exhausted {done : PUnit → Cursor → Prop} (hdone : done ⟨⟩ ⟨rest, depth + 1⟩) :
    Ends deepen bounds ⟨rest, depth⟩ done (Exhausted bounds) := by
  rw [ends_deepen]
  split
  · rfl
  · exact hdone

theorem ends_nested_exhausted {done : α → Cursor → Prop}
    (hp : Ends p bounds ⟨rest, depth + 1⟩ (fun a now => done a ⟨now.rest, now.depth - 1⟩)
      (Exhausted bounds)) : Ends (nested p) bounds ⟨rest, depth⟩ done (Exhausted bounds) := by
  rw [ends_nested]
  split
  · rfl
  · exact hp

theorem Parses.nested (h : Parses p ts a symbols) : Parses (nested p) ts a symbols := by
  intro bounds depth rest hstops
  exact ends_nested_exhausted (h.ends hstops ⟨rfl, rfl⟩)

end

/-! ## Chains -/

/-- In front of tokens that stop it, the rounds of a chain take the given tokens and build the given
value on the one before. -/
def Continues (step : α → Parser (Option α)) (a : α) (ts : List Token) (e : α)
    (symbols : List Symbol) : Prop :=
  ∀ n, ts.length ≤ n → ∀ bounds depth rest, Stops symbols rest →
    Ends (chain.rounds step n a) bounds ⟨ts ++ rest, depth⟩
      (fun e' now => e' = e ∧ now.rest = rest) (Exhausted bounds)

section

variable {step : α → Parser (Option α)} {a next b : α} {symbols symbols' : List Symbol}

theorem continues_none
    (hstep : ∀ bounds depth rest, Stops symbols rest →
      Yields (step a) bounds ⟨rest, depth⟩ none ⟨rest, depth⟩) :
    Continues step a [] a symbols := by
  intro n hn bounds depth rest hstops
  cases n with
  | zero => exact ⟨rfl, rfl⟩
  | succ n =>
    rw [chain.rounds, ends_bind]
    exact (hstep bounds depth rest hstops).ends ⟨rfl, rfl⟩

theorem continues_more {t : Token}
    (hstep : ∀ bounds depth rest, Stops symbols rest →
      Ends (step a) bounds ⟨t :: (ts₁ ++ (ts₂ ++ rest)), depth⟩
        (fun next? now => next? = some next ∧ now.rest = ts₂ ++ rest) (Exhausted bounds))
    (hmore : Continues step next ts₂ b symbols) :
    Continues step a (t :: (ts₁ ++ ts₂)) b symbols := by
  intro n hn bounds depth rest hstops
  simp only [List.length_cons, List.length_append] at hn
  cases n with
  | zero => exact absurd hn (by omega)
  | succ n =>
    rw [chain.rounds, ends_bind, List.cons_append, List.append_assoc]
    refine (hstep bounds depth rest hstops).imp ?_
    intro next? now hnext
    obtain ⟨left, depth⟩ := now
    obtain ⟨rfl, rfl⟩ := hnext
    exact hmore n (by omega) bounds depth rest hstops

theorem parses_chain {first : Parser α} (hfirst : Parses first ts₁ a symbols)
    (hjoin : ∀ rest, Stops symbols' rest → Stops symbols (ts₂ ++ rest))
    (hmore : Continues step a ts₂ b symbols') :
    Parses (chain first step) (ts₁ ++ ts₂) b symbols' := by
  intro bounds depth rest hstops
  rw [Yields, ends_chain, List.append_assoc]
  refine hfirst.ends (hjoin rest hstops) ?_
  have hlength : ts₂.length ≤ (ts₂ ++ rest).length := by
    rw [List.length_append]
    exact Nat.le_add_right _ _
  refine (hmore _ hlength bounds depth rest hstops).imp ?_
  intro b' now hbuilt
  obtain ⟨left, depth'⟩ := now
  obtain ⟨rfl, rfl⟩ := hbuilt
  exact ⟨rfl, rfl⟩

end

/-! ## Operators -/

section

variable {tier : Tier} {tiers : List Tier} {operand : Parser Expr} {left right : Expr}

theorem continues_operators_none :
    Continues (operatorStep tier operand) left [] left (operationSymbols (tier :: tiers)) := by
  refine continues_none fun bounds depth rest hstops => ?_
  have htier : Stops tier.symbols rest := hstops.subset fun symbol hmem => by
    rw [operationSymbols, List.flatMap_cons, List.append_assoc]
    exact List.mem_append_left _ hmem
  rw [Yields, operatorStep, ends_bind]
  exact ends_accept?_none (rejects_level_of_stops htier) ⟨rfl, rfl⟩

theorem continues_operators_more {operator : Token} {symbol : Symbol} {build : Expr → Expr → Expr}
    {symbols symbols' : List Symbol} (hoperator : operator.Is symbol)
    (hbuild : (symbol, build) ∈ tier.operators) (hoperand : Parses operand ts₁ right symbols)
    (hjoin : ∀ rest, Stops symbols' rest → Stops symbols (ts₂ ++ rest))
    (hmore : Continues (operatorStep tier operand) (build left right) ts₂ e symbols') :
    Continues (operatorStep tier operand) left (operator :: (ts₁ ++ ts₂)) e symbols' := by
  refine continues_more (fun bounds depth rest hstops => ?_) hmore
  rw [operatorStep, ends_bind]
  refine ends_accept?_some (ofKind?_level_eq_some_iff.mpr ⟨symbol, hoperator, hbuild⟩) ?_
  rw [ends_bind]
  refine ends_deepen_exhausted ?_
  rw [ends_bind]
  exact hoperand.ends (hjoin rest hstops) ⟨rfl, rfl⟩

theorem parses_unaryWithin_operand (hoperand : Parses operand ts e linkSymbols)
    (hfirst : ∃ t left, ts = t :: left ∧ primary.opening? t.kind = some t.kind) {n : Nat}
    (hn : ts.length ≤ n) : Parses (unaryWithin operand n) ts e linkSymbols := by
  intro bounds depth rest hstops
  obtain ⟨t, left, rfl, hopening⟩ := hfirst
  cases n with
  | zero => exact absurd hn (Nat.not_succ_le_zero _)
  | succ n =>
    have hrejects : Rejects unaryOp? (t :: left ++ rest) := by
      intro _ hresult
      obtain ⟨⟩ := hresult
      exact unaryOp?_of_opening? hopening
    rw [Yields, unaryWithin, ends_bind]
    exact ends_accept?_none hrejects (hoperand bounds depth rest hstops)

theorem parses_unaryWithin_sign {t : Token} {op : UnaryOp} {n : Nat} (hsign : (t.kind, op) ∈ signs)
    (h : Parses (unaryWithin operand n) ts e linkSymbols) :
    Parses (unaryWithin operand (n + 1)) (t :: ts) (.unary op e) linkSymbols := by
  intro bounds depth rest hstops
  rw [Yields, unaryWithin, ends_bind]
  refine ends_accept?_some (unaryOp?_eq_some_iff.mpr hsign) ?_
  rw [ends_bind]
  exact h.nested.ends hstops ⟨rfl, rfl⟩

theorem parses_unary
    (h : ∀ n, ts.length ≤ n → Parses (unaryWithin operand n) ts e linkSymbols) :
    Parses (unary operand) ts e linkSymbols := by
  intro bounds depth rest hstops
  rw [Yields, unary, ends_bind, ends_get]
  exact h _ (by simp) bounds depth rest hstops

theorem stops_starStar_of_stops (h : Stops powerSymbols rest) :
    ¬ StartsWith .starStar rest ∧ Stops linkSymbols rest :=
  ⟨h .starStar (by decide), h.subset (by decide)⟩

theorem parses_exponentWithin_unary (h : Parses operand ts e linkSymbols) (hopened : Opened ts)
    {n : Nat} (hn : ts.length ≤ n) : Parses (exponentWithin operand n) ts e powerSymbols := by
  intro bounds depth rest hstops
  cases n with
  | zero => exact absurd hopened.length_pos (Nat.not_lt.mpr hn)
  | succ n =>
    obtain ⟨hstar, hlinks⟩ := stops_starStar_of_stops hstops
    rw [Yields, exponentWithin, ends_bind]
    refine h.ends hlinks ?_
    rw [ends_bind]
    exact ends_accept_false hstar ⟨rfl, rfl⟩

theorem parses_exponentWithin_power {operator : Token} {base exponent : Expr} {n : Nat}
    (hbase : Parses operand ts₁ base linkSymbols) (hoperator : operator.Is .starStar)
    (hexponent : Parses (exponentWithin operand n) ts₂ exponent powerSymbols) :
    Parses (exponentWithin operand (n + 1)) (ts₁ ++ operator :: ts₂) (.binary .pow base exponent)
      powerSymbols := by
  intro bounds depth rest hstops
  rw [Yields, exponentWithin, ends_bind, List.append_assoc]
  refine hbase.ends (stops_cons hoperator (by decide)) ?_
  rw [ends_bind]
  refine ends_accept_true hoperator ?_
  simp only [if_true]
  rw [ends_bind]
  exact hexponent.nested.ends hstops ⟨rfl, rfl⟩

theorem parses_exponent
    (h : ∀ n, ts.length ≤ n → Parses (exponentWithin operand n) ts e powerSymbols) :
    Parses (exponent operand) ts e powerSymbols := by
  intro bounds depth rest hstops
  rw [Yields, exponent, ends_bind, ends_get]
  exact h _ (by simp) bounds depth rest hstops

end

/-! ## Lists and literals -/

section

variable {self : Parser Expr} {closing : Symbol} {es : List Expr}

/-- The symbols that close a list of expressions. -/
def Closes (closing : Symbol) : Prop := closing = .rightParen ∨ closing = .rightBracket

theorem Closes.opens_eq_false (h : Closes closing) : opens (.symbol closing) = false := by
  rcases h with rfl | rfl <;> rfl

theorem Closes.not_mem (h : Closes closing) : closing ∉ expressionSymbols := by
  rcases h with rfl | rfl <;> decide

theorem Closes.not_startsWith_comma (h : Closes closing) {t : Token} (ht : t.Is closing) :
    ¬ StartsWith .comma (t :: rest) := by
  have hcomma : closing ∉ [Symbol.comma] := by rcases h with rfl | rfl <;> decide
  exact stops_cons ht hcomma .comma (List.mem_singleton.mpr rfl)

/-- In front of the closing symbol, the given tokens are read as a list of expressions. -/
def ParsesItems (self : Parser Expr) (closing : Symbol) (ts : List Token) (es : List Expr) : Prop :=
  ts = [] ∧ es = [] ∨ Opened ts ∧ ∀ n, ts.length ≤ n → ∀ bounds depth t rest, t.Is closing →
    Yields (itemsWithin self closing n) bounds ⟨ts ++ t :: rest, depth⟩ es ⟨t :: rest, depth⟩

theorem parsesItems_last (hclosing : Closes closing) (hopened : Opened ts)
    (h : Parses self ts e expressionSymbols) : ParsesItems self closing ts [e] := by
  refine .inr ⟨hopened, fun n hn bounds depth t rest ht => ?_⟩
  cases n with
  | zero => exact absurd hopened.length_pos (Nat.not_lt.mpr hn)
  | succ n =>
    rw [Yields, itemsWithin, ends_bind]
    refine h.ends (stops_cons ht hclosing.not_mem) ?_
    rw [ends_bind]
    exact ends_accept_false (hclosing.not_startsWith_comma ht) ⟨rfl, rfl⟩

theorem parsesItems_more {comma : Token} (hclosing : Closes closing) (hopened : Opened ts₁)
    (h : Parses self ts₁ e expressionSymbols) (hcomma : comma.Is .comma)
    (hmore : ParsesItems self closing ts₂ es) :
    ParsesItems self closing (ts₁ ++ comma :: ts₂) (e :: es) := by
  refine .inr ⟨hopened.append _, fun n hn bounds depth t rest ht => ?_⟩
  simp only [List.length_append, List.length_cons] at hn
  cases n with
  | zero => exact absurd hn (by omega)
  | succ n =>
    rw [Yields, itemsWithin, ends_bind, List.append_assoc]
    refine h.ends (stops_cons hcomma (by decide)) ?_
    rw [ends_bind]
    refine ends_accept_true hcomma ?_
    simp only [if_true]
    rw [ends_bind]
    rcases hmore with ⟨rfl, rfl⟩ | ⟨hopened₂, hmore⟩
    · exact ends_nextIs_true (startsWith_cons.mpr ht) ⟨rfl, rfl⟩
    · have hstart := (hopened₂.append (t :: rest)).not_startsWith hclosing.opens_eq_false
      refine ends_nextIs_false hstart ?_
      simp only [Bool.false_eq_true, if_false]
      rw [ends_bind]
      exact (hmore n (by omega) bounds depth t rest ht).ends ⟨rfl, rfl⟩

theorem ends_items {cause : SyntaxCause} {t : Token} {done : List Expr → Cursor → Prop}
    (hclosing : Closes closing) (ht : t.Is closing) (h : ParsesItems self closing ts es)
    (hdone : done es ⟨rest, depth⟩) :
    Ends (items self closing cause) bounds ⟨ts ++ t :: rest, depth⟩ done (Exhausted bounds) := by
  have hclose : Ends (do expect closing cause; return es) bounds ⟨t :: rest, depth⟩ done
      (Exhausted bounds) := by
    rw [ends_bind]
    exact ends_expect_is ht hdone
  rw [items, ends_bind]
  rcases h with ⟨rfl, rfl⟩ | ⟨hopened, h⟩
  · exact ends_nextIs_true (startsWith_cons.mpr ht) hclose
  · have hstart := (hopened.append (t :: rest)).not_startsWith hclosing.opens_eq_false
    refine ends_nextIs_false hstart ?_
    simp only [Bool.false_eq_true, if_false]
    rw [ends_bind, ends_get, ends_bind]
    exact (h _ (by simp) bounds depth t rest ht).ends hclose

/-- The symbols that continue an entry. -/
def entrySymbols : List Symbol := .colon :: expressionSymbols

theorem parses_entryValue_pair {key colon : Token} (hcolon : colon.Is .colon)
    (h : Parses self ts e expressionSymbols) :
    Parses (entryValue self key) (colon :: ts) e entrySymbols := by
  intro bounds depth rest hstops
  rw [Yields, entryValue, ends_bind]
  exact ends_accept_true hcolon (h.ends (hstops.subset (List.subset_cons_self _ _)) ⟨rfl, rfl⟩)

theorem parses_entryValue_short {key : Token} {name : String} (h : key.kind = .name name) :
    Parses (entryValue self key) [] (.identifier name) entrySymbols := by
  intro bounds depth rest hstops
  rw [Yields, entryValue, ends_bind]
  refine ends_accept_false (hstops .colon List.mem_cons_self) ?_
  simp only [Bool.false_eq_true, if_false, h]
  exact ⟨rfl, rfl⟩

/-- In front of the closing brace, the given tokens are read as entries. -/
def ParsesEntries (self : Parser Expr) (ts : List Token) (entries : List (String × Expr)) : Prop :=
  ts = [] ∧ entries = [] ∨ (∃ key left name, ts = key :: left ∧ key.IsKey name) ∧
    ∀ n before, ts.length ≤ n → ∀ bounds depth t rest, t.Is .rightBrace →
      Yields (entriesWithin self before n) bounds ⟨ts ++ t :: rest, depth⟩ entries
        ⟨t :: rest, depth⟩

theorem not_startsWith_of_isKey {key : Token} {name : String} {symbol : Symbol}
    (h : key.IsKey name) : ¬ StartsWith symbol (key :: ts) := by
  rw [startsWith_cons, Token.Is]
  intro his
  cases h <;> simp_all

theorem parsesEntries_last {key : Token} {name : String} (hkey : key.IsKey name)
    (h : Parses (entryValue self key) ts e entrySymbols) :
    ParsesEntries self (key :: ts) [(name, e)] := by
  refine .inr ⟨⟨key, ts, name, rfl, hkey⟩, fun n before hn bounds depth t rest ht => ?_⟩
  cases n with
  | zero => exact absurd hn (Nat.not_succ_le_zero _)
  | succ n =>
    rw [Yields, entriesWithin, ends_bind]
    refine ends_accept?_some rfl ?_
    simp only [keyOf?_eq_some_iff.mpr hkey]
    rw [ends_bind]
    refine h.ends (stops_cons ht (by decide)) ?_
    rw [ends_bind]
    have hcomma : ¬ StartsWith .comma (t :: rest) := by
      rw [startsWith_cons, Token.Is, ht]
      decide
    exact ends_accept?_none (rejects_symbol_iff.mpr hcomma) ⟨rfl, rfl⟩

theorem parsesEntries_more {key comma : Token} {name : String} {entries : List (String × Expr)}
    (hkey : key.IsKey name) (h : Parses (entryValue self key) ts₁ e entrySymbols)
    (hcomma : comma.Is .comma) (hmore : ParsesEntries self ts₂ entries) :
    ParsesEntries self (key :: ts₁ ++ comma :: ts₂) ((name, e) :: entries) := by
  refine .inr ⟨⟨key, _, name, rfl, hkey⟩, fun n before hn bounds depth t rest ht => ?_⟩
  simp only [List.length_append, List.length_cons] at hn
  cases n with
  | zero => exact absurd hn (by omega)
  | succ n =>
    rw [Yields, entriesWithin, ends_bind, List.append_assoc]
    refine ends_accept?_some rfl ?_
    simp only [keyOf?_eq_some_iff.mpr hkey]
    rw [ends_bind]
    refine h.ends (stops_cons hcomma (by decide)) ?_
    rw [ends_bind]
    refine ends_accept?_some (symbol_eq_some_iff.mpr hcomma) ?_
    simp only
    rw [ends_bind]
    rcases hmore with ⟨rfl, rfl⟩ | ⟨⟨key₂, left, name₂, rfl, hkey₂⟩, hmore⟩
    · exact ends_nextIs_true (startsWith_cons.mpr ht) ⟨rfl, rfl⟩
    · refine ends_nextIs_false (not_startsWith_of_isKey hkey₂) ?_
      simp only [Bool.false_eq_true, if_false]
      rw [ends_bind]
      exact (hmore n _ (by omega) bounds depth t rest ht).ends ⟨rfl, rfl⟩

theorem ends_objectLiteral {brace : Nat} {t : Token} {entries : List (String × Expr)}
    {done : Expr → Cursor → Prop} (ht : t.Is .rightBrace) (h : ParsesEntries self ts entries)
    (hdone : done (.object entries) ⟨rest, depth⟩) :
    Ends (objectLiteral self brace) bounds ⟨ts ++ t :: rest, depth⟩ done (Exhausted bounds) := by
  have hclose : Ends (do expect .rightBrace .objectEnd; return .object entries) bounds
      ⟨t :: rest, depth⟩ done (Exhausted bounds) := by
    rw [ends_bind]
    exact ends_expect_is ht hdone
  rw [objectLiteral, ends_bind]
  rcases h with ⟨rfl, rfl⟩ | ⟨⟨key, left, name, rfl, hkey⟩, h⟩
  · exact ends_nextIs_true (startsWith_cons.mpr ht) hclose
  · refine ends_nextIs_false (not_startsWith_of_isKey hkey) ?_
    simp only [Bool.false_eq_true, if_false]
    rw [ends_bind, ends_get, ends_bind]
    exact (h _ _ (by simp) bounds depth t rest ht).ends hclose

theorem parses_primary_parentheses {opening closing : Token} (hopening : opening.Is .leftParen)
    (h : Parses self ts e expressionSymbols) (hclosing : closing.Is .rightParen) :
    Parses (primary self) (opening :: (ts ++ [closing])) e [] := by
  intro bounds depth rest hstops
  have hopens : primary.opening? opening.kind = some (.symbol .leftParen) := by rw [hopening]; rfl
  rw [Yields, primary, ends_bind, List.cons_append, List.append_assoc]
  refine ends_accept?_some hopens ?_
  simp only
  rw [ends_bind]
  refine h.ends (stops_cons hclosing (by decide)) ?_
  rw [ends_bind]
  exact ends_expect_is hclosing ⟨rfl, rfl⟩

theorem parses_primary_array {opening closing : Token} (hopening : opening.Is .leftBracket)
    (h : ParsesItems self .rightBracket ts es) (hclosing : closing.Is .rightBracket) :
    Parses (primary self) (opening :: (ts ++ [closing])) (.array es) [] := by
  intro bounds depth rest hstops
  have hopens : primary.opening? opening.kind = some (.symbol .leftBracket) := by rw [hopening]; rfl
  rw [Yields, primary, ends_bind, List.cons_append, List.append_assoc]
  refine ends_accept?_some hopens ?_
  simp only
  rw [ends_bind]
  exact ends_items (.inr rfl) hclosing h ⟨rfl, rfl⟩

theorem parses_primary_object {opening closing : Token} {entries : List (String × Expr)}
    (hopening : opening.Is .leftBrace) (h : ParsesEntries self ts entries)
    (hclosing : closing.Is .rightBrace) :
    Parses (primary self) (opening :: (ts ++ [closing])) (.object entries) [] := by
  intro bounds depth rest hstops
  have hopens : primary.opening? opening.kind = some (.symbol .leftBrace) := by rw [hopening]; rfl
  rw [Yields, primary, ends_bind, List.cons_append, List.append_assoc]
  refine ends_accept?_some hopens ?_
  exact ends_objectLiteral hclosing h ⟨rfl, rfl⟩

/-- A token that is an operand by itself. -/
theorem parses_primary_atom {t : Token} {kind : TokenKind} (hkind : t.kind = kind)
    (hrun : ∀ bounds depth rest, primary self bounds ⟨⟨kind, t.position, t.lexeme⟩ :: rest, depth⟩ =
      .ok e ⟨rest, depth⟩) : Parses (primary self) [t] e [] := by
  intro bounds depth rest hstops
  obtain ⟨_, position, lexeme⟩ := t
  cases hkind
  unfold Yields Ends
  rw [List.singleton_append, hrun bounds depth rest]
  exact ⟨rfl, rfl⟩

theorem parses_primary_constant {t : Token} {word : Keyword} (h : t.kind = .keyword word)
    (hconstant : (word, e) ∈ constants) : Parses (primary self) [t] e [] := by
  simp only [constants, List.mem_cons, Prod.mk.injEq, List.not_mem_nil, or_false] at hconstant
  rcases hconstant with ⟨rfl, rfl⟩ | ⟨rfl, rfl⟩ | ⟨rfl, rfl⟩ | ⟨rfl, rfl⟩
  · exact parses_primary_atom h fun _ _ _ => rfl
  · exact parses_primary_atom h fun _ _ _ => rfl
  · exact parses_primary_atom h fun _ _ _ => rfl
  · exact parses_primary_atom h fun _ _ _ => rfl

/-! ## Links -/

theorem continues_links_none {receiver : Expr} :
    Continues (link self) receiver [] receiver linkSymbols := by
  refine continues_none fun bounds depth rest hstops => ?_
  rw [Yields, link, ends_bind]
  exact ends_accept?_none (rejects_link?_of_stops hstops) ⟨rfl, rfl⟩

theorem continues_links_call {opening closing : Token} {receiver : Expr}
    (hopening : opening.Is .leftParen) (h : ParsesItems self .rightParen ts₁ es)
    (hclosing : closing.Is .rightParen)
    (hmore : Continues (link self) (.call receiver es) ts₂ e linkSymbols) :
    Continues (link self) receiver (opening :: (ts₁ ++ closing :: ts₂)) e linkSymbols := by
  rw [List.append_cons]
  refine continues_more (fun bounds depth rest hstops => ?_) hmore
  rw [link, ends_bind]
  refine ends_accept?_some (link?_eq_some_iff.mpr ⟨hopening, by decide⟩) ?_
  simp only
  rw [ends_bind]
  refine ends_deepen_exhausted ?_
  rw [ends_bind, List.append_assoc]
  exact ends_items (.inl rfl) hclosing h ⟨rfl, rfl⟩

theorem continues_links_index {opening closing : Token} {receiver key : Expr}
    (hopening : opening.Is .leftBracket) (h : Parses self ts₁ key expressionSymbols)
    (hclosing : closing.Is .rightBracket)
    (hmore : Continues (link self) (.index receiver key) ts₂ e linkSymbols) :
    Continues (link self) receiver (opening :: (ts₁ ++ closing :: ts₂)) e linkSymbols := by
  rw [List.append_cons]
  refine continues_more (fun bounds depth rest hstops => ?_) hmore
  rw [link, ends_bind]
  refine ends_accept?_some (link?_eq_some_iff.mpr ⟨hopening, by decide⟩) ?_
  simp only
  rw [ends_bind]
  refine ends_deepen_exhausted ?_
  rw [ends_bind, List.append_assoc]
  refine h.ends (stops_cons hclosing (by decide)) ?_
  rw [ends_bind]
  exact ends_expect_is hclosing ⟨rfl, rfl⟩

theorem ends_propertyName {word : Token} {done : String → Cursor → Prop} (hword : word.IsWord)
    (hdone : done word.lexeme ⟨rest, depth⟩) :
    Ends propertyName bounds ⟨word :: rest, depth⟩ done (Exhausted bounds) := by
  rw [propertyName, ends_bind]
  exact ends_accept?_some (wordOf?_eq_some_iff.mpr hword) hdone

/-- A point leads to a name, and then to arguments or to none. -/
theorem ends_link_point {point word : Token} {optional : Bool} {receiver : Expr}
    {done : Option Expr → Cursor → Prop}
    (hpoint : point.Is (if optional then .questionDot else .dot)) (hword : word.IsWord)
    (hmore : Ends (do
        if ← accept .leftParen then
          let arguments ← items self .rightParen .argumentsEnd
          return some (.methodCall receiver word.lexeme arguments optional)
        else return some (.field receiver word.lexeme optional))
      bounds ⟨rest, depth + 1⟩ done (Exhausted bounds)) :
    Ends (link self receiver) bounds ⟨point :: word :: rest, depth⟩ done (Exhausted bounds) := by
  rw [link, ends_bind]
  cases optional with
  | true =>
    refine ends_accept?_some (link?_eq_some_iff.mpr ⟨hpoint, by decide⟩) ?_
    simp only [if_true]
    rw [ends_bind]
    refine ends_deepen_exhausted ?_
    rw [ends_bind]
    exact ends_propertyName hword hmore
  | false =>
    refine ends_accept?_some (link?_eq_some_iff.mpr ⟨hpoint, by decide⟩) ?_
    simp only [Bool.false_eq_true, if_false]
    rw [ends_bind]
    refine ends_deepen_exhausted ?_
    rw [ends_bind]
    exact ends_propertyName hword hmore

theorem continues_links_field {point word : Token} {receiver : Expr} {optional : Bool}
    (hpoint : point.Is (if optional then .questionDot else .dot)) (hword : word.IsWord)
    (hfield : ¬ StartsWith .leftParen ts)
    (hmore : Continues (link self) (.field receiver word.lexeme optional) ts e linkSymbols) :
    Continues (link self) receiver (point :: word :: ts) e linkSymbols := by
  show Continues (link self) receiver (point :: ([word] ++ ts)) e linkSymbols
  refine continues_more (fun bounds depth rest hstops => ?_) hmore
  refine ends_link_point hpoint hword ?_
  -- The links behind the field may be none, and then it is what follows that must not open a call.
  have hparen : ¬ StartsWith .leftParen (ts ++ rest) := by
    cases ts with
    | nil => exact hstops .leftParen (by decide)
    | cons t left => exact hfield
  rw [ends_bind]
  exact ends_accept_false hparen ⟨rfl, rfl⟩

theorem continues_links_method {point word opening closing : Token} {receiver : Expr}
    {optional : Bool} (hpoint : point.Is (if optional then .questionDot else .dot))
    (hword : word.IsWord) (hopening : opening.Is .leftParen)
    (h : ParsesItems self .rightParen ts₁ es) (hclosing : closing.Is .rightParen)
    (hmore : Continues (link self) (.methodCall receiver word.lexeme es optional) ts₂ e
      linkSymbols) :
    Continues (link self) receiver (point :: word :: opening :: (ts₁ ++ closing :: ts₂)) e
      linkSymbols := by
  have hshape : word :: opening :: (ts₁ ++ closing :: ts₂) =
      (word :: opening :: (ts₁ ++ [closing])) ++ ts₂ := by simp
  rw [hshape]
  refine continues_more (fun bounds depth rest hstops => ?_) hmore
  rw [List.cons_append, List.cons_append, List.append_assoc]
  refine ends_link_point hpoint hword ?_
  rw [ends_bind]
  refine ends_accept_true hopening ?_
  simp only [if_true]
  rw [ends_bind]
  exact ends_items (.inl rfl) hclosing h ⟨rfl, rfl⟩

theorem parses_linked {receiver : Expr} (hreceiver : Parses (primary self) ts₁ receiver [])
    (hmore : Continues (link self) receiver ts₂ e linkSymbols) :
    Parses (linked self) (ts₁ ++ ts₂) e linkSymbols :=
  parses_chain hreceiver (fun _ _ _ h => absurd h List.not_mem_nil) hmore

/-! ## Expressions -/

theorem parses_conditional_operation
    (h : Parses (operation self Tier.all) ts e (operationSymbols Tier.all)) :
    Parses (conditional self) ts e expressionSymbols := by
  intro bounds depth rest hstops
  rw [Yields, conditional, binary_eq_operation, ends_bind]
  refine h.ends (hstops.subset (List.subset_cons_self _ _)) ?_
  rw [ends_bind]
  exact ends_accept_false (hstops .question List.mem_cons_self) ⟨rfl, rfl⟩

theorem parses_conditional_choice {ts₃ : List Token} {question colon : Token} {e₁ e₂ e₃ : Expr}
    (h₁ : Parses (operation self Tier.all) ts₁ e₁ (operationSymbols Tier.all))
    (hquestion : question.Is .question) (h₂ : Parses self ts₂ e₂ expressionSymbols)
    (hcolon : colon.Is .colon) (h₃ : Parses self ts₃ e₃ expressionSymbols) :
    Parses (conditional self) (ts₁ ++ question :: (ts₂ ++ colon :: ts₃)) (.conditional e₁ e₂ e₃)
      expressionSymbols := by
  intro bounds depth rest hstops
  rw [Yields, conditional, binary_eq_operation, ends_bind, List.append_assoc, List.cons_append,
    List.append_assoc]
  refine h₁.ends (stops_cons hquestion (by decide)) ?_
  rw [ends_bind]
  refine ends_accept_true hquestion ?_
  simp only [if_true]
  rw [ends_bind]
  refine h₂.ends (stops_cons hcolon (by decide)) ?_
  rw [ends_bind]
  refine ends_expect_is hcolon ?_
  rw [ends_bind]
  exact h₃.ends hstops ⟨rfl, rfl⟩

end

end Parser

open TemplateExpr.Parser

namespace Grammar

/-! ## Derivations -/

-- The recursion is on the derivation. A nested expression has at least one token less than what it
-- is nested in, so the tokens bound the count `m` of nested uses of `expression`.
mutual

/-- **Every expression of the grammar is read**, unless the limit on nesting stops the parser. -/
theorem Expression.parses {ts : List Token} {e : Expr} (n : Nat) :
    Expression ts e → ts.length ≤ n → Parses (expression n) ts e expressionSymbols
  | .operation h, hn => by
    cases n with
    | zero => exact absurd h.opened.length_pos (Nat.not_lt.mpr hn)
    | succ m =>
      have hoperation := Operation.parses m h (by decide) hn
      exact (parses_conditional_operation hoperation).nested
  | .conditional condition hquestion consequent hcolon alternate, hn => by
    simp only [List.length_append, List.length_cons] at hn
    cases n with
    | zero => exact absurd hn (by omega)
    | succ m =>
      have hcondition := Operation.parses m condition (by decide) (by omega)
      have hconsequent := Expression.parses m consequent (by omega)
      have halternate := Expression.parses m alternate (by omega)
      exact (parses_conditional_choice hcondition hquestion hconsequent hcolon halternate).nested

theorem Operation.parses {tiers : List Tier} {ts : List Token} {e : Expr} (m : Nat) :
    Operation tiers ts e → tiers.Nodup → ts.length ≤ m + 1 →
      Parses (operation (expression m) tiers) ts e (operationSymbols tiers)
  | .power h, _, hm => parses_exponent fun n hn => Power.parses m n h hm hn
  | .chain first more, hnodup, hm => by
    simp only [List.length_append] at hm
    obtain ⟨htier, htiers⟩ := List.nodup_cons.mp hnodup
    -- An operand is not empty, so the operators behind it have fewer tokens.
    have hpos := first.opened.length_pos
    have hfirst := Operation.parses m first htiers (by omega)
    have hmore := Operators.continues m more hnodup (by omega)
    rw [operation_cons, leftChain_eq_chain]
    exact parses_chain hfirst (fun rest hstops => more.stops htier hstops) hmore

theorem Operators.continues {tier : Tier} {tiers : List Tier} {left : Expr} {ts : List Token}
    {e : Expr} (m : Nat) :
    Operators tier tiers left ts e → (tier :: tiers).Nodup → ts.length ≤ m →
      Continues (operatorStep tier (operation (expression m) tiers)) left ts e
        (operationSymbols (tier :: tiers))
  | .none, _, _ => continues_operators_none
  | .more hoperator hbuild operand more, hnodup, hm => by
    simp only [List.length_append, List.length_cons] at hm
    obtain ⟨htier, htiers⟩ := List.nodup_cons.mp hnodup
    have hoperand := Operation.parses m operand htiers (by omega)
    have hmore := Operators.continues m more hnodup (by omega)
    exact continues_operators_more hoperator hbuild hoperand
      (fun rest hstops => more.stops htier hstops) hmore

theorem Power.parses {ts : List Token} {e : Expr} (m n : Nat) :
    Power ts e → ts.length ≤ m + 1 → ts.length ≤ n →
      Parses (exponentWithin (unary (linked (expression m))) n) ts e powerSymbols
  | .unary h, hm, hn => by
    have hunary := parses_unary fun n hn => Unary.parses m n h hm hn
    exact parses_exponentWithin_unary hunary h.opened hn
  | .power hbase hoperator hexponent, hm, hn => by
    simp only [List.length_append, List.length_cons] at hm hn
    cases n with
    | zero => exact absurd hn (by omega)
    | succ n =>
      have hunary := parses_unary fun n hn => Unary.parses m n hbase (by omega) hn
      have hpower := Power.parses m n hexponent (by omega) (by omega)
      exact parses_exponentWithin_power hunary hoperator hpower

theorem Unary.parses {ts : List Token} {e : Expr} (m n : Nat) :
    Unary ts e → ts.length ≤ m + 1 → ts.length ≤ n →
      Parses (unaryWithin (linked (expression m)) n) ts e linkSymbols
  | .operand h, hm, hn => parses_unaryWithin_operand (Linked.parses m h hm) h.first hn
  | .sign hsign h, hm, hn => by
    simp only [List.length_cons] at hm hn
    cases n with
    | zero => exact absurd hn (by omega)
    | succ n => exact parses_unaryWithin_sign hsign (Unary.parses m n h (by omega) (by omega))

theorem Linked.parses {ts : List Token} {e : Expr} (m : Nat) :
    Linked ts e → ts.length ≤ m + 1 → Parses (linked (expression m)) ts e linkSymbols
  | .links hreceiver more, hm => by
    simp only [List.length_append] at hm
    have hpos := hreceiver.length_pos
    have hmore := Links.continues m more (by omega)
    exact parses_linked (Primary.parses m hreceiver (by omega)) hmore

theorem Links.continues {receiver : Expr} {ts : List Token} {e : Expr} (m : Nat) :
    Links receiver ts e → ts.length ≤ m →
      Continues (link (expression m)) receiver ts e linkSymbols
  | .none, _ => continues_links_none
  | .call hopening harguments hclosing more, hm => by
    simp only [List.length_append, List.length_cons] at hm
    have hitems := Items.parses m harguments (.inl rfl) (by omega)
    exact continues_links_call hopening hitems hclosing (Links.continues m more (by omega))
  | .index hopening hkey hclosing more, hm => by
    simp only [List.length_append, List.length_cons] at hm
    have hexpression := Expression.parses m hkey (by omega)
    exact continues_links_index hopening hexpression hclosing (Links.continues m more (by omega))
  | .field hpoint hword hfield more, hm => by
    simp only [List.length_cons] at hm
    exact continues_links_field hpoint hword hfield (Links.continues m more (by omega))
  | .method hpoint hword hopening harguments hclosing more, hm => by
    simp only [List.length_append, List.length_cons] at hm
    have hitems := Items.parses m harguments (.inl rfl) (by omega)
    exact continues_links_method hpoint hword hopening hitems hclosing
      (Links.continues m more (by omega))

theorem Primary.parses {ts : List Token} {e : Expr} (m : Nat) :
    Primary ts e → ts.length ≤ m + 1 → Parses (primary (expression m)) ts e []
  | .number h, _ => parses_primary_atom h fun _ _ _ => rfl
  | .string h, _ => parses_primary_atom h fun _ _ _ => rfl
  | .name h, _ => parses_primary_atom h fun _ _ _ => rfl
  | .constant h hconstant, _ => parses_primary_constant h hconstant
  | .parentheses hopening h hclosing, hm => by
    simp only [List.length_append, List.length_cons, List.length_nil] at hm
    exact parses_primary_parentheses hopening (Expression.parses m h (by omega)) hclosing
  | .array hopening helements hclosing, hm => by
    simp only [List.length_append, List.length_cons, List.length_nil] at hm
    exact parses_primary_array hopening (Items.parses m helements (.inr rfl) (by omega)) hclosing
  | .object hopening hentries hclosing, hm => by
    simp only [List.length_append, List.length_cons, List.length_nil] at hm
    exact parses_primary_object hopening (Entries.parses m hentries (by omega)) hclosing

theorem Items.parses {ts : List Token} {es : List Expr} {closing : Symbol} (m : Nat) :
    Items ts es → Closes closing → ts.length ≤ m → ParsesItems (expression m) closing ts es
  | .none, _, _ => .inl ⟨rfl, rfl⟩
  | .last h, hclosing, hm => parsesItems_last hclosing h.opened (Expression.parses m h hm)
  | .more h hcomma more, hclosing, hm => by
    simp only [List.length_append, List.length_cons] at hm
    have hexpression := Expression.parses m h (by omega)
    have hmore := Items.parses m more hclosing (by omega)
    exact parsesItems_more hclosing h.opened hexpression hcomma hmore

theorem Entry.parses {ts : List Token} {name : String} {e : Expr} (m : Nat) :
    Entry ts name e → ts.length ≤ m →
      ∃ key left, ts = key :: left ∧ key.IsKey name ∧
        Parses (entryValue (expression m) key) left e entrySymbols
  | .pair hkey hcolon h, hm => by
    simp only [List.length_cons] at hm
    have hexpression := Expression.parses m h (by omega)
    exact ⟨_, _, rfl, hkey, parses_entryValue_pair hcolon hexpression⟩
  | .short h, _ => ⟨_, _, rfl, .name h, parses_entryValue_short h⟩

theorem Entries.parses {ts : List Token} {entries : List (String × Expr)} (m : Nat) :
    Entries ts entries → ts.length ≤ m → ParsesEntries (expression m) ts entries
  | .none, _ => .inl ⟨rfl, rfl⟩
  | .last h, hm => by
    obtain ⟨key, left, rfl, hkey, hvalue⟩ := Entry.parses m h hm
    exact parsesEntries_last hkey hvalue
  | .more h hcomma more, hm => by
    simp only [List.length_append, List.length_cons] at hm
    obtain ⟨key, left, rfl, hkey, hvalue⟩ := Entry.parses m h (by omega)
    have hmore := Entries.parses m more (by omega)
    exact parsesEntries_more hkey hvalue hcomma hmore

end

end Grammar

end TemplateExpr
