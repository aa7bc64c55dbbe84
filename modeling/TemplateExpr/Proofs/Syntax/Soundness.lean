import TemplateExpr.Proofs.Syntax.Lookahead
import TemplateExpr.Proofs.Syntax.Runs

/-!
# What the parser reads is in the grammar

Every function of the parser is specified by the nonterminal that it reads (`Reads`): the tokens
that it takes derive what it returns, and the depth of nesting is what it was. The same
specification says how it fails: with an error of syntax, unless the limit is less than the tokens
that are left allow for. Two levels of nesting for each token are always enough.
-/

namespace TemplateExpr

open Grammar

namespace Parser

variable {α β : Type} {bounds : Bounds} {reach depth : Nat} {rest : List Token}

/-- The errors of a parser whose nesting cannot pass the given depth. -/
def Fault (bounds : Bounds) (reach : Nat) (e : ExprError) : Prop :=
  (∃ position cause, e = .syntactic position cause) ∨
    e = .exhausted bounds.maxDepth ∧ bounds.maxDepth < reach

theorem fault_syntactic {position : Nat} {cause : SyntaxCause} :
    Fault bounds reach (.syntactic position cause) := .inl ⟨position, cause, rfl⟩

theorem ends_failHere_fault {cause : SyntaxCause} {cursor : Cursor} {done : α → Cursor → Prop} :
    Ends (failHere cause) bounds cursor done (Fault bounds reach) :=
  ends_failHere.mpr fault_syntactic

theorem ends_deepen_fault {done : PUnit → Cursor → Prop} (hreach : depth + 1 ≤ reach)
    (hdone : done ⟨⟩ ⟨rest, depth + 1⟩) :
    Ends deepen bounds ⟨rest, depth⟩ done (Fault bounds reach) := by
  rw [ends_deepen]
  split
  · rename_i hlimit
    exact .inr ⟨rfl, Nat.lt_of_lt_of_le hlimit hreach⟩
  · exact hdone

/-- What a parser takes derives what it returns, with room for some more levels of nesting than the
two for each token. -/
def Reads (more : Nat) (G : List Token → α → Prop) (p : Parser α) : Prop :=
  ∀ bounds rest depth reach, depth + 2 * rest.length + more ≤ reach →
    Ends p bounds ⟨rest, depth⟩
      (fun a now => ∃ ts left, rest = ts ++ left ∧ now = ⟨left, depth⟩ ∧ G ts a)
      (Fault bounds reach)

section

variable {more : Nat} {G G' : List Token → α → Prop} {p : Parser α}

theorem Reads.ends (h : Reads more G p) {done : α → Cursor → Prop}
    (hreach : depth + 2 * rest.length + more ≤ reach)
    (hdone : ∀ a ts left, rest = ts ++ left → G ts a → done a ⟨left, depth⟩) :
    Ends p bounds ⟨rest, depth⟩ done (Fault bounds reach) := by
  refine (h bounds rest depth reach hreach).imp ?_
  intro a _ hread
  obtain ⟨ts, left, hrest, rfl, hG⟩ := hread
  exact hdone a ts left hrest hG

theorem Reads.imp (h : Reads more G p) (himp : ∀ ts a, G ts a → G' ts a) : Reads more G' p := by
  intro bounds rest depth reach hreach
  exact h.ends hreach fun a ts left hrest hG => ⟨ts, left, hrest, rfl, himp ts a hG⟩

theorem Reads.nested (h : Reads more G p) : Reads (more + 1) G (nested p) := by
  intro bounds rest depth reach hreach
  rw [ends_nested]
  split
  · rename_i hlimit
    exact .inr ⟨rfl, by simp only at hlimit; omega⟩
  · refine h.ends (by simp only; omega) fun a ts left hrest hG => ?_
    exact ⟨ts, left, hrest, by simp, hG⟩

end

/-! ## Chains -/

/-- One step of a chain takes a token and goes one level deeper, or leaves everything as it is. What
it builds on the value before belongs to what the rest of the chain builds on that. -/
def Extends (R : α → List Token → α → Prop) (step : α → Parser (Option α)) : Prop :=
  ∀ bounds rest depth reach a, depth + 2 * rest.length ≤ reach →
    Ends (step a) bounds ⟨rest, depth⟩
      (fun next? now =>
        match next? with
        | none => now = ⟨rest, depth⟩
        | some next => ∃ t ts left, rest = t :: ts ++ left ∧ now = ⟨left, depth + 1⟩ ∧
            ∀ ts' left' e, left = ts' ++ left' → R next ts' e → R a (t :: ts ++ ts') e)
      (Fault bounds reach)

theorem Extends.rounds {R : α → List Token → α → Prop} {step : α → Parser (Option α)}
    (hstep : Extends R step) (hnone : ∀ a, R a [] a) (n : Nat) {a : α}
    (hreach : depth + 2 * rest.length ≤ reach) :
    Ends (chain.rounds step n a) bounds ⟨rest, depth⟩
      (fun e now => ∃ ts, rest = ts ++ now.rest ∧ R a ts e) (Fault bounds reach) := by
  induction n generalizing rest depth a with
  | zero =>
    rw [chain.rounds, ends_pure]
    exact ⟨[], rfl, hnone a⟩
  | succ n ih =>
    rw [chain.rounds, ends_bind]
    refine (hstep bounds rest depth reach a hreach).imp ?_
    rintro (_ | next) now hnow
    · simp only at hnow ⊢
      rw [ends_pure, hnow]
      exact ⟨[], rfl, hnone a⟩
    · obtain ⟨t, ts, left, rfl, rfl, hnext⟩ := hnow
      simp only [List.length_append, List.length_cons] at hreach
      -- One level more of nesting and one token less: the reach is not passed.
      refine (ih (by omega)).imp ?_
      intro e now hread
      obtain ⟨ts', rfl, hrest⟩ := hread
      exact ⟨t :: ts ++ ts', by simp, hnext ts' now.rest e rfl hrest⟩

theorem Reads.chain {G G' : List Token → α → Prop} {R : α → List Token → α → Prop}
    {first : Parser α} {step : α → Parser (Option α)} (hfirst : Reads 0 G first)
    (hstep : Extends R step) (hnone : ∀ a, R a [] a)
    (hjoin : ∀ ts₁ ts₂ a e, G ts₁ a → R a ts₂ e → G' (ts₁ ++ ts₂) e) :
    Reads 0 G' (chain first step) := by
  intro bounds rest depth reach hreach
  rw [ends_chain]
  refine hfirst.ends hreach ?_
  intro a ts₁ left hrest hG
  subst hrest
  simp only [List.length_append] at hreach
  refine (hstep.rounds hnone _ (by omega)).imp ?_
  intro e now hread
  obtain ⟨ts₂, rfl, hR⟩ := hread
  exact ⟨ts₁ ++ ts₂, now.rest, by simp, rfl, hjoin ts₁ ts₂ a e hG hR⟩

/-! ## Operators -/

theorem extends_operators {tier : Tier} {tiers : List Tier} {operand : Parser Expr}
    (hoperand : Reads 0 (Operation tiers) operand) :
    Extends (Operators tier tiers) (operatorStep tier operand) := by
  intro bounds rest depth reach left hreach
  rw [operatorStep, ends_bind]
  refine ends_accept? (fun _ => ?_) ?_
  · simp
  · intro operator rest build hrest hkind
    subst hrest
    obtain ⟨symbol, hoperator, hbuild⟩ := ofKind?_level_eq_some_iff.mp hkind
    simp only [List.length_cons] at hreach ⊢
    rw [ends_bind]
    refine ends_deepen_fault (by omega) ?_
    rw [ends_bind]
    refine hoperand.ends (by omega) ?_
    intro right ts more hrest hright
    subst hrest
    rw [ends_pure]
    refine ⟨operator, ts, more, rfl, rfl, fun ts' left' e _ hmore => ?_⟩
    exact .more hoperator hbuild hright hmore

theorem reads_leftChain {tier : Tier} {tiers : List Tier} {operand : Parser Expr}
    (hoperand : Reads 0 (Operation tiers) operand) :
    Reads 0 (Operation (tier :: tiers)) (leftChain tier.level operand) := by
  rw [leftChain_eq_chain]
  exact hoperand.chain (extends_operators hoperand) (fun _ => .none)
    fun _ _ _ _ hfirst hmore => .chain hfirst hmore

theorem reads_unaryWithin {operand : Parser Expr} (hoperand : Reads 0 Linked operand) (n : Nat) :
    Reads 0 Unary (unaryWithin operand n) := by
  induction n with
  | zero => exact fun _ _ _ _ _ => ends_failHere_fault
  | succ n ih =>
    intro bounds rest depth reach hreach
    rw [unaryWithin, ends_bind]
    refine ends_accept? (fun _ => ?_) ?_
    · exact (hoperand.imp fun _ _ => Unary.operand) bounds rest depth reach hreach
    · intro t rest op hrest hkind
      subst hrest
      simp only [List.length_cons] at hreach ⊢
      rw [ends_bind]
      refine ih.nested.ends (by omega) ?_
      intro e ts left hrest he
      subst hrest
      rw [ends_pure]
      exact ⟨t :: ts, left, rfl, rfl, .sign (unaryOp?_eq_some_iff.mp hkind) he⟩

theorem reads_unary {operand : Parser Expr} (hoperand : Reads 0 Linked operand) :
    Reads 0 Unary (unary operand) := by
  intro bounds rest depth reach hreach
  rw [unary, ends_bind, ends_get]
  exact reads_unaryWithin hoperand _ bounds rest depth reach hreach

theorem reads_exponentWithin {operand : Parser Expr} (hoperand : Reads 0 Unary operand) (n : Nat) :
    Reads 0 Power (exponentWithin operand n) := by
  induction n with
  | zero => exact fun _ _ _ _ _ => ends_failHere_fault
  | succ n ih =>
    intro bounds rest depth reach hreach
    rw [exponentWithin, ends_bind]
    refine hoperand.ends hreach ?_
    intro base ts₁ left hrest hbase
    subst hrest
    rw [ends_bind]
    refine ends_accept (fun _ => ?_) ?_
    · exact ⟨ts₁, left, rfl, rfl, .unary hbase⟩
    · intro operator left hrest hoperator
      subst hrest
      simp only [List.length_append, List.length_cons] at hreach
      simp only [if_true]
      rw [ends_bind]
      refine ih.nested.ends (by omega) ?_
      intro exponent ts₂ left hrest hexponent
      subst hrest
      rw [ends_pure]
      exact ⟨ts₁ ++ operator :: ts₂, left, by simp, rfl, .power hbase hoperator hexponent⟩

theorem reads_exponent {operand : Parser Expr} (hoperand : Reads 0 Unary operand) :
    Reads 0 Power (exponent operand) := by
  intro bounds rest depth reach hreach
  rw [exponent, ends_bind, ends_get]
  exact reads_exponentWithin hoperand _ bounds rest depth reach hreach

/-! ## Lists and literals -/

theorem ends_misplaced {done : Expr → Cursor → Prop} {cursor : Cursor} :
    Ends primary.misplaced bounds cursor done (Fault bounds reach) := by
  rw [primary.misplaced, ends_bind, ends_get]
  cases cursor.rest with
  | nil => exact ends_failHere_fault
  | cons t rest => exact ends_fail.mpr fault_syntactic

theorem opening?_eq_some {kind kind' : TokenKind} (h : primary.opening? kind = some kind') :
    kind' = kind := by
  unfold primary.opening? at h
  split at h
  · cases h
  · split at h
    · exact (Option.some.inj h).symm
    · cases h
  · exact (Option.some.inj h).symm

theorem reads_propertyName :
    Reads 0 (fun ts name => ∃ t : Token, ts = [t] ∧ t.IsWord ∧ name = t.lexeme) propertyName := by
  intro bounds rest depth reach hreach
  rw [propertyName, ends_bind]
  refine ends_accept? (fun _ => ends_failHere_fault) ?_
  intro t rest u hrest hword
  subst hrest
  exact ⟨[t], rest, rfl, rfl, t, rfl, wordOf?_eq_some_iff.mp hword, rfl⟩

section

variable {self : Parser Expr} (hself : Reads 1 Expression self)
include hself

theorem reads_itemsWithin {closing : Symbol} (n : Nat) :
    Reads 1 Items (itemsWithin self closing n) := by
  induction n with
  | zero =>
    intro bounds rest depth reach hreach
    rw [itemsWithin, ends_bind]
    refine hself.ends hreach ?_
    intro e ts left hrest he
    subst hrest
    rw [ends_pure]
    exact ⟨ts, left, rfl, rfl, .last he⟩
  | succ n ih =>
    intro bounds rest depth reach hreach
    rw [itemsWithin, ends_bind]
    refine hself.ends hreach ?_
    intro e ts left hrest he
    subst hrest
    rw [ends_bind]
    refine ends_accept (fun _ => ?_) ?_
    · exact ⟨ts, left, rfl, rfl, .last he⟩
    · intro comma left hrest hcomma
      subst hrest
      simp only [List.length_append, List.length_cons] at hreach
      simp only [if_true]
      rw [ends_bind]
      refine ends_nextIs (fun _ => ?_) fun _ => ?_
      · refine (ends_bind.mpr (ih.ends (by omega) ?_))
        intro es ts' left hrest hes
        subst hrest
        rw [ends_pure]
        exact ⟨ts ++ comma :: ts', left, by simp, rfl, .more he hcomma hes⟩
      · exact ⟨ts ++ [comma], left, by simp, rfl, .more he hcomma .none⟩

theorem reads_items {closing : Symbol} {cause : SyntaxCause} :
    Reads 1 (fun ts es => ∃ ts' t, ts = ts' ++ [t] ∧ t.Is closing ∧ Items ts' es)
      (items self closing cause) := by
  intro bounds rest depth reach hreach
  have hclose : ∀ ts left es, rest = ts ++ left → Items ts es →
      Ends (do expect closing cause; return es) bounds ⟨left, depth⟩
        (fun a now => ∃ ts left, rest = ts ++ left ∧ now = ⟨left, depth⟩ ∧
          ∃ ts' t, ts = ts' ++ [t] ∧ t.Is closing ∧ Items ts' a) (Fault bounds reach) := by
    intro ts left es hrest hes
    subst hrest
    rw [ends_bind]
    refine ends_expect ?_ fun _ => fault_syntactic
    intro t left hrest hclosing
    subst hrest
    exact ⟨ts ++ [t], left, by simp, rfl, ts, t, rfl, hclosing, hes⟩
  rw [items, ends_bind]
  refine ends_nextIs (fun _ => ?_) fun _ => ?_
  · simp only [Bool.false_eq_true, if_false]
    rw [ends_bind, ends_get, ends_bind]
    exact (reads_itemsWithin hself _).ends hreach fun es ts left hrest hes =>
      hclose ts left es hrest hes
  · exact hclose [] rest [] rfl .none

theorem reads_entryValue {key : Token} {name : String} (hkey : key.IsKey name) :
    Reads 1 (fun ts e => Entry (key :: ts) name e) (entryValue self key) := by
  intro bounds rest depth reach hreach
  rw [entryValue, ends_bind]
  refine ends_accept (fun _ => ?_) ?_
  · simp only [Bool.false_eq_true, if_false]
    cases hkey with
    | name h =>
      simp only [h]
      rw [ends_pure]
      exact ⟨[], rest, rfl, rfl, .short h⟩
    | string h => simpa only [h] using ends_failHere_fault
    | number h => simpa only [h] using ends_failHere_fault
    | keyword h => simpa only [h] using ends_failHere_fault
  · intro colon rest hrest hcolon
    subst hrest
    simp only [List.length_cons] at hreach ⊢
    refine hself.ends (by omega) ?_
    intro e ts left hrest he
    subst hrest
    exact ⟨colon :: ts, left, rfl, rfl, .pair hkey hcolon he⟩

theorem reads_entriesWithin (n before : Nat) : Reads 0 Entries (entriesWithin self before n) := by
  induction n generalizing before with
  | zero => exact fun _ _ _ _ _ => ends_fail.mpr fault_syntactic
  | succ n ih =>
    intro bounds rest depth reach hreach
    rw [entriesWithin, ends_bind]
    refine ends_accept? (fun _ => ends_fail.mpr fault_syntactic) ?_
    intro key rest _ hrest _
    subst hrest
    simp only [List.length_cons] at hreach ⊢
    cases hkey : keyOf? key with
    | none => exact ends_fail.mpr fault_syntactic
    | some name =>
      simp only
      rw [ends_bind]
      refine (reads_entryValue hself (keyOf?_eq_some_iff.mp hkey)).ends (by omega) ?_
      intro e ts left hrest he
      subst hrest
      rw [ends_bind]
      refine ends_accept? (fun _ => ?_) ?_
      · exact ⟨key :: ts, left, rfl, rfl, .last he⟩
      · intro comma left u hrest hcomma
        subst hrest
        have hcomma : comma.Is .comma := symbol_eq_some_iff.mp hcomma
        simp only [List.length_append, List.length_cons] at hreach ⊢
        rw [ends_bind]
        refine ends_nextIs (fun _ => ?_) fun _ => ?_
        · refine (ends_bind.mpr ((ih _).ends (by omega) ?_))
          intro entries ts' left hrest hentries
          subst hrest
          rw [ends_pure]
          exact ⟨key :: ts ++ comma :: ts', left, by simp, rfl, .more he hcomma hentries⟩
        · exact ⟨key :: ts ++ [comma], left, by simp, rfl, .more he hcomma .none⟩

theorem reads_objectLiteral (brace : Nat) :
    Reads 0 (fun ts e => ∃ ts' t entries, ts = ts' ++ [t] ∧ t.Is .rightBrace ∧
        Entries ts' entries ∧ e = .object entries) (objectLiteral self brace) := by
  intro bounds rest depth reach hreach
  have hclose : ∀ ts left entries, rest = ts ++ left → Entries ts entries →
      Ends (do expect .rightBrace .objectEnd; return .object entries) bounds ⟨left, depth⟩
        (fun a now => ∃ ts left, rest = ts ++ left ∧ now = ⟨left, depth⟩ ∧
          ∃ ts' t entries, ts = ts' ++ [t] ∧ t.Is .rightBrace ∧ Entries ts' entries ∧
            a = Expr.object entries) (Fault bounds reach) := by
    intro ts left entries hrest hentries
    subst hrest
    rw [ends_bind]
    refine ends_expect ?_ fun _ => fault_syntactic
    intro t left hrest hclosing
    subst hrest
    exact ⟨ts ++ [t], left, by simp, rfl, ts, t, entries, rfl, hclosing, hentries, rfl⟩
  rw [objectLiteral, ends_bind]
  refine ends_nextIs (fun _ => ?_) fun _ => ?_
  · simp only [Bool.false_eq_true, if_false]
    rw [ends_bind, ends_get, ends_bind]
    exact (reads_entriesWithin hself _ brace).ends hreach fun entries ts left hrest hentries =>
      hclose ts left entries hrest hentries
  · exact hclose [] rest [] rfl .none

theorem reads_primary : Reads 0 Primary (primary self) := by
  intro bounds rest depth reach hreach
  rw [primary, ends_bind]
  refine ends_accept? (fun _ => ends_misplaced) ?_
  intro t rest kind hrest hopening
  subst hrest
  cases opening?_eq_some hopening
  simp only [List.length_cons] at hreach ⊢
  split
  · exact ⟨[t], rest, rfl, rfl, .number ‹_›⟩
  · exact ⟨[t], rest, rfl, rfl, .string ‹_›⟩
  · exact ⟨[t], rest, rfl, rfl, .name ‹_›⟩
  · exact ⟨[t], rest, rfl, rfl, .constant ‹_› (by simp [constants])⟩
  · exact ⟨[t], rest, rfl, rfl, .constant ‹_› (by simp [constants])⟩
  · exact ⟨[t], rest, rfl, rfl, .constant ‹_› (by simp [constants])⟩
  · exact ⟨[t], rest, rfl, rfl, .constant ‹_› (by simp [constants])⟩
  · rename_i hkind
    rw [ends_bind]
    refine hself.ends (by omega) ?_
    intro e ts left hrest he
    subst hrest
    rw [ends_bind]
    refine ends_expect ?_ fun _ => fault_syntactic
    intro closing left hrest hclosing
    subst hrest
    exact ⟨t :: (ts ++ [closing]), left, by simp, rfl, .parentheses hkind he hclosing⟩
  · rename_i hkind
    rw [ends_bind]
    refine (reads_items hself).ends (by omega) ?_
    intro es _ left hrest hread
    subst hrest
    obtain ⟨ts, closing, rfl, hclosing, hes⟩ := hread
    exact ⟨t :: (ts ++ [closing]), left, by simp, rfl, .array hkind hes hclosing⟩
  · rename_i hkind
    refine (reads_objectLiteral hself t.position).ends (by omega) ?_
    intro _ _ left hrest hread
    subst hrest
    obtain ⟨ts, closing, entries, rfl, hclosing, hentries, rfl⟩ := hread
    exact ⟨t :: (ts ++ [closing]), left, by simp, rfl, .object hkind hentries hclosing⟩
  · exact ends_misplaced

/-! ## Links -/

theorem extends_links : Extends Links (link self) := by
  intro bounds rest depth reach receiver hreach
  rw [link, ends_bind]
  refine ends_accept? (fun _ => rfl) ?_
  intro t rest symbol hrest hlink
  subst hrest
  obtain ⟨hsymbol, hmem⟩ := link?_eq_some_iff.mp hlink
  simp only [List.length_cons] at hreach ⊢
  rw [ends_bind]
  refine ends_deepen_fault (by omega) ?_
  split
  · rw [ends_bind]
    refine (reads_items hself).ends (by omega) ?_
    intro es _ left hrest hread
    subst hrest
    obtain ⟨ts, closing, rfl, hclosing, hes⟩ := hread
    refine ⟨t, ts ++ [closing], left, by simp, rfl, fun ts' left' e _ hmore => ?_⟩
    simpa using Links.call hsymbol hes hclosing hmore
  · rw [ends_bind]
    refine hself.ends (by omega) ?_
    intro key ts left hrest hkey
    subst hrest
    rw [ends_bind]
    refine ends_expect ?_ fun _ => fault_syntactic
    intro closing left hrest hclosing
    subst hrest
    refine ⟨t, ts ++ [closing], left, by simp, rfl, fun ts' left' e _ hmore => ?_⟩
    simpa using Links.index hsymbol hkey hclosing hmore
  · rename_i hcall hindex
    have hpoint : t.Is (if decide (symbol = .questionDot) then .questionDot else .dot) := by
      simp only [linkSymbols, List.mem_cons, List.not_mem_nil, or_false] at hmem
      rcases hmem with rfl | rfl | rfl | rfl
      · exact absurd rfl hcall
      · exact hsymbol
      · exact hsymbol
      · exact absurd rfl hindex
    rw [ends_bind]
    refine reads_propertyName.ends (by omega) ?_
    intro _ _ left hrest hread
    subst hrest
    obtain ⟨word, rfl, hword, rfl⟩ := hread
    simp only [List.length_append, List.length_cons, List.length_nil] at hreach
    rw [ends_bind]
    refine ends_accept (fun hfield => ?_) ?_
    · refine ⟨t, [word], left, rfl, rfl, fun ts' left' e hleft hmore => ?_⟩
      refine .field hpoint hword (fun hstart => hfield ?_) hmore
      rw [hleft]
      exact hstart.append left'
    · intro opening left hrest hopening
      subst hrest
      simp only [List.length_cons] at hreach
      simp only [if_true]
      rw [ends_bind]
      refine (reads_items hself).ends (by omega) ?_
      intro es _ left hrest hread
      subst hrest
      obtain ⟨ts, closing, rfl, hclosing, hes⟩ := hread
      refine ⟨t, word :: opening :: (ts ++ [closing]), left, by simp, rfl,
        fun ts' left' e _ hmore => ?_⟩
      simpa using Links.method hpoint hword hopening hes hclosing hmore

theorem reads_linked : Reads 0 Linked (linked self) :=
  (reads_primary hself).chain (extends_links hself) (fun _ => .none)
    fun _ _ _ _ hreceiver hmore => .links hreceiver hmore

/-! ## Expressions -/

theorem reads_operation (tiers : List Tier) :
    Reads 0 (Operation tiers) (operation self tiers) := by
  induction tiers with
  | nil => exact (reads_exponent (reads_unary (reads_linked hself))).imp fun _ _ => .power
  | cons tier tiers ih =>
    rw [operation_cons]
    exact reads_leftChain ih

theorem reads_conditional : Reads 0 Expression (conditional self) := by
  intro bounds rest depth reach hreach
  rw [conditional, binary_eq_operation, ends_bind]
  refine (reads_operation hself Tier.all).ends hreach ?_
  intro e₁ ts₁ left hrest hcondition
  subst hrest
  simp only [List.length_append] at hreach
  rw [ends_bind]
  refine ends_accept (fun _ => ?_) ?_
  · exact ⟨ts₁, left, rfl, rfl, .operation hcondition⟩
  · intro question left hrest hquestion
    subst hrest
    simp only [List.length_cons] at hreach
    simp only [if_true]
    rw [ends_bind]
    refine hself.ends (by omega) ?_
    intro e₂ ts₂ left hrest hconsequent
    subst hrest
    rw [ends_bind]
    refine ends_expect ?_ fun _ => fault_syntactic
    intro colon left hrest hcolon
    subst hrest
    simp only [List.length_append, List.length_cons] at hreach ⊢
    rw [ends_bind]
    refine hself.ends (by omega) ?_
    intro e₃ ts₃ left hrest halternate
    subst hrest
    rw [ends_pure]
    exact ⟨ts₁ ++ question :: (ts₂ ++ colon :: ts₃), left, by simp, rfl,
      .conditional hcondition hquestion hconsequent hcolon halternate⟩

end

/-- **The parser reads expressions of the grammar.** -/
theorem reads_expression (n : Nat) : Reads 1 Expression (expression n) := by
  induction n with
  | zero =>
    have hfail : Reads 0 Expression (failHere .unexpectedEnd) :=
      fun _ _ _ _ _ => ends_failHere_fault
    exact hfail.nested
  | succ n ih => exact (reads_conditional ih).nested

end Parser

end TemplateExpr
