import TemplateExpr.Proofs.Syntax.Relocation

/-!
# The depth is balanced

Tokens are only ever taken from the front, and the depth is never given back below where it was
found: that holds of every parser, also where it fails (`Parser.Rises`). A parser that succeeds has
given back what it took as well (`Parser.Balanced`). Steps of a chain only rise; the chain is
balanced because the depth behind its first operand is restored, and a nested parser because it goes
one level deeper and back. So each function of the parser is balanced by its text alone, if
the parser of nested expressions is.
-/

namespace TemplateExpr

/-- Tokens may have been taken from the front, and the depth is no smaller. -/
structure Cursor.Rises (before now : Cursor) : Prop where
  rest : now.rest <:+ before.rest
  depth : before.depth ≤ now.depth

theorem Cursor.Rises.refl (cursor : Cursor) : cursor.Rises cursor :=
  ⟨List.suffix_refl _, Nat.le_refl _⟩

theorem Cursor.Rises.trans {a b c : Cursor} (hab : a.Rises b) (hbc : b.Rises c) : a.Rises c :=
  ⟨hbc.rest.trans hab.rest, Nat.le_trans hab.depth hbc.depth⟩

namespace Parser

/-! ## Parts of the parser by name -/

/-- Expressions between commas up to a closing symbol, without that symbol. -/
def arguments (self : Parser Expr) (closing : Symbol) : Parser (List Expr) := do
  if ← nextIs closing then return []
  itemsWithin self closing (← get).rest.length

theorem items_eq (self : Parser Expr) (closing : Symbol) (cause : SyntaxCause) :
    items self closing cause = do
      let es ← arguments self closing
      expect closing cause
      return es := by
  funext bounds cursor
  rw [items, arguments, run_bind, run_bind, run_bind]
  cases nextIs closing bounds cursor with
  | error e now => rfl
  | ok found now =>
    cases found with
    | true => rfl
    | false => simp only [Bool.false_eq_true, if_false, run_bind, run_get]

variable {α β : Type} {bounds : Bounds} {cursor now : Cursor} {a : α}

/-- Where a run leaves the cursor, whether it fails or not. -/
def left : EStateM.Result ExprError Cursor α → Cursor
  | .ok _ now => now
  | .error _ now => now

/-- A parser takes tokens from the front and leaves the depth no smaller than it found it. -/
def Rises (p : Parser α) : Prop :=
  ∀ (bounds : Bounds) (cursor : Cursor), cursor.Rises (left (p bounds cursor))

/-- A parser that rises, and leaves the depth as it found it unless it fails. -/
structure Balanced (p : Parser α) : Prop where
  rises : Rises p
  level : ∀ {bounds cursor a now}, p bounds cursor = .ok a now → now.depth = cursor.depth

theorem exists_of_run_bind {p : Parser α} {f : α → Parser β} {b : β}
    (h : (p >>= f) bounds cursor = .ok b now) :
    ∃ a here, p bounds cursor = .ok a here ∧ f a bounds here = .ok b now := by
  rw [run_bind] at h
  cases hrun : p bounds cursor with
  | ok a here =>
    rw [hrun] at h
    exact ⟨a, here, rfl, h⟩
  | error e here =>
    rw [hrun] at h
    cases h

theorem Rises.length_le {p : Parser α} (hp : Rises p) (h : p bounds cursor = .ok a now) :
    now.rest.length ≤ cursor.rest.length := by
  have hrises := hp bounds cursor
  rw [h] at hrises
  exact hrises.rest.length_le

/-! ## Steps -/

/-- A parser that only looks is balanced. -/
theorem balanced_of_left_eq {p : Parser α} (h : ∀ bounds cursor, left (p bounds cursor) = cursor) :
    Balanced p where
  rises bounds cursor := (h bounds cursor).symm ▸ .refl cursor
  level {bounds cursor _ _} hrun := by
    have hleft := h bounds cursor
    rw [hrun] at hleft
    exact congrArg Cursor.depth hleft

theorem balanced_pure (a : α) : Balanced (pure a : Parser α) :=
  balanced_of_left_eq fun _ _ => rfl

theorem balanced_fail (position : Nat) (cause : SyntaxCause) :
    Balanced (fail position cause : Parser α) := balanced_of_left_eq fun _ _ => rfl

theorem balanced_get : Balanced get := balanced_of_left_eq fun _ _ => rfl

theorem balanced_read : Balanced read := balanced_of_left_eq fun _ _ => rfl

theorem balanced_accept? (suitable? : TokenKind → Option α) : Balanced (accept? suitable?) where
  rises bounds cursor := by
    obtain ⟨rest, depth⟩ := cursor
    cases rest with
    | nil => exact .refl _
    | cons t rest =>
      rw [run_accept?_cons]
      split
      · exact .refl _
      · exact ⟨List.suffix_cons t rest, Nat.le_refl depth⟩
  level {bounds cursor _ _} h := by
    obtain ⟨rest, depth⟩ := cursor
    cases rest with
    | nil =>
      cases h
      rfl
    | cons t rest =>
      rw [run_accept?_cons] at h
      split at h <;> (cases h; rfl)

theorem rest_lt_of_accept? {suitable? : TokenKind → Option α} {x : Token × α}
    (h : accept? suitable? bounds cursor = .ok (some x) now) :
    now.rest.length < cursor.rest.length := by
  obtain ⟨rest, depth⟩ := cursor
  cases rest with
  | nil => cases h
  | cons t rest =>
    rw [run_accept?_cons] at h
    split at h <;> cases h
    exact Nat.lt_succ_self _

theorem rest_lt_of_accept {symbol : Symbol} (h : accept symbol bounds cursor = .ok true now) :
    now.rest.length < cursor.rest.length := by
  obtain ⟨found, here, hfound, hpure⟩ := exists_of_run_bind h
  cases found with
  | none => cases hpure
  | some x =>
    cases hpure
    exact rest_lt_of_accept? hfound

theorem rises_deepen : Rises deepen := by
  intro bounds cursor
  rw [run_deepen]
  split <;> exact ⟨List.suffix_refl _, Nat.le_succ _⟩

/-! ## Parsers put together -/

theorem Rises.bind {p : Parser α} {f : α → Parser β} (hp : Rises p) (hf : ∀ a, Rises (f a)) :
    Rises (p >>= f) := by
  intro bounds cursor
  rw [run_bind]
  have hfirst := hp bounds cursor
  cases hrun : p bounds cursor with
  | ok a now =>
    rw [hrun] at hfirst
    exact hfirst.trans (hf a bounds now)
  | error e now =>
    rw [hrun] at hfirst
    exact hfirst

theorem Balanced.bind {p : Parser α} {f : α → Parser β} (hp : Balanced p)
    (hf : ∀ a, Balanced (f a)) : Balanced (p >>= f) where
  rises := hp.rises.bind fun a => (hf a).rises
  level h := by
    obtain ⟨a, here, hrun, hthen⟩ := exists_of_run_bind h
    exact ((hf a).level hthen).trans (hp.level hrun)

theorem Balanced.ite {c : Prop} [Decidable c] {p q : Parser α} (hp : Balanced p)
    (hq : Balanced q) : Balanced (if c then p else q) := by
  split
  · exact hp
  · exact hq

theorem balanced_failHere (cause : SyntaxCause) : Balanced (failHere cause : Parser α) := by
  refine balanced_get.bind fun cursor => ?_
  split
  · exact balanced_fail _ _
  · exact balanced_read.bind fun bounds => balanced_fail _ _

theorem balanced_accept (symbol : Symbol) : Balanced (accept symbol) :=
  (balanced_accept? _).bind fun _ => balanced_pure _

theorem balanced_expect (symbol : Symbol) (cause : SyntaxCause) :
    Balanced (expect symbol cause) :=
  (balanced_accept symbol).bind fun _ => (balanced_pure _).ite (balanced_failHere cause)

theorem balanced_nextIs (symbol : Symbol) : Balanced (nextIs symbol) :=
  balanced_get.bind fun _ => balanced_pure _

theorem run_nested (p : Parser α) (bounds : Bounds) (cursor : Cursor) :
    nested p bounds cursor =
      if bounds.maxDepth < cursor.depth + 1 then
        .error (.exhausted bounds.maxDepth) { cursor with depth := cursor.depth + 1 }
      else
        match p bounds { cursor with depth := cursor.depth + 1 } with
        | .ok a now => .ok a { now with depth := now.depth - 1 }
        | .error e now => .error e { now with depth := now.depth - 1 } := by
  refine (run_bind _ _ _ _).trans ?_
  rw [run_deepen]
  by_cases hlimit : bounds.maxDepth < cursor.depth + 1
  · rw [if_pos hlimit]
    exact (if_pos hlimit).symm
  · rw [if_neg hlimit]
    exact (if_neg hlimit).symm

/-- What a balanced parser does one level deeper is level behind it. -/
theorem Balanced.nested {p : Parser α} (hp : Balanced p) : Balanced (nested p) := by
  constructor
  · intro bounds cursor
    have hrises := hp.rises bounds { cursor with depth := cursor.depth + 1 }
    rw [run_nested]
    split
    · exact ⟨List.suffix_refl _, Nat.le_succ _⟩
    · cases hrun : p bounds { cursor with depth := cursor.depth + 1 } <;> rw [hrun] at hrises
      all_goals exact ⟨hrises.rest, Nat.le_sub_one_of_lt hrises.depth⟩
  · intro bounds cursor a now h
    rw [run_nested] at h
    split at h
    · cases h
    · cases hrun : p bounds { cursor with depth := cursor.depth + 1 } <;> rw [hrun] at h <;> cases h
      exact Nat.sub_eq_of_eq_add (hp.level hrun)

theorem rises_rounds {step : α → Parser (Option α)} (hstep : ∀ a, Rises (step a)) (n : Nat)
    (a : α) : Rises (chain.rounds step n a) := by
  induction n generalizing a with
  | zero => exact (balanced_pure a).rises
  | succ n ih =>
    refine (hstep a).bind fun next? => ?_
    cases next? with
    | none => exact (balanced_pure a).rises
    | some next => exact ih next

theorem run_chain (first : Parser α) (step : α → Parser (Option α)) (bounds : Bounds)
    (cursor : Cursor) :
    chain first step bounds cursor =
      match first bounds cursor with
      | .ok a now =>
        match chain.rounds step now.rest.length a bounds now with
        | .ok a end' => .ok a { end' with depth := now.depth }
        | .error e end' => .error e end'
      | .error e now => .error e now := by
  rw [chain, run_bind]
  cases first bounds cursor with
  | error e now => rfl
  | ok a now =>
    simp only [run_bind, run_get]
    cases chain.rounds step now.rest.length a bounds now <;> rfl

/-- The steps of a chain may leave the depth greater, since it is restored behind them. -/
theorem Balanced.chain {first : Parser α} {step : α → Parser (Option α)} (hfirst : Balanced first)
    (hstep : ∀ a, Rises (step a)) : Balanced (chain first step) := by
  constructor
  · intro bounds cursor
    have hrises := hfirst.rises bounds cursor
    rw [run_chain]
    cases hrun : first bounds cursor with
    | error e now =>
      rw [hrun] at hrises
      exact hrises
    | ok a now =>
      rw [hrun] at hrises
      have hrounds := rises_rounds hstep now.rest.length a bounds now
      simp only
      cases hrun' : chain.rounds step now.rest.length a bounds now <;> rw [hrun'] at hrounds
      · exact ⟨hrounds.rest.trans hrises.rest, hrises.depth⟩
      · exact hrises.trans hrounds
  · intro bounds cursor a now h
    rw [run_chain] at h
    cases hrun : first bounds cursor with
    | error e now =>
      rw [hrun] at h
      cases h
    | ok b now =>
      have hlevel := hfirst.level hrun
      rw [hrun] at h
      simp only at h
      cases hrun' : chain.rounds step now.rest.length b bounds now <;> rw [hrun'] at h <;> cases h
      exact hlevel

/-- A step of a chain takes a token first, if it adds anything. -/
inductive Advances : (α → Parser (Option α)) → Prop where
  | intro {γ : Type} {suitable? : TokenKind → Option γ}
      {next : α → Option (Token × γ) → Parser (Option α)} (hnone : ∀ a, next a none = pure none)
      (hsome : ∀ a t c, Rises (next a (some (t, c)))) :
      Advances fun a => accept? suitable? >>= next a

theorem Advances.rises {step : α → Parser (Option α)} (hstep : Advances step) (a : α) :
    Rises (step a) := by
  obtain ⟨hnone, hsome⟩ := hstep
  refine (balanced_accept? _).rises.bind fun found => ?_
  rcases found with _ | ⟨t, c⟩
  · rw [hnone]
    exact (balanced_pure none).rises
  · exact hsome a t c

theorem Advances.rest_lt {step : α → Parser (Option α)} (hstep : Advances step) {b : α}
    (h : step a bounds cursor = .ok (some b) now) : now.rest.length < cursor.rest.length := by
  obtain @⟨γ, suitable?, next, hnone, hsome⟩ := hstep
  obtain ⟨found, here, hfound, hnext⟩ := exists_of_run_bind h
  rcases found with _ | ⟨t, c⟩
  · rw [hnone] at hnext
    cases hnext
  · exact Nat.lt_of_le_of_lt ((hsome a t c).length_le hnext) (rest_lt_of_accept? hfound)

theorem balanced_count {p : Nat → Parser α} (hp : ∀ n, Balanced (p n)) :
    Balanced (do p (← get).rest.length) := balanced_get.bind fun _ => hp _

/-! ## Operators -/

section

variable {operand : Parser Expr} (hoperand : Balanced operand)
include hoperand

theorem advances_operatorStep (tier : Grammar.Tier) : Advances (operatorStep tier operand) :=
  .intro (fun _ => rfl) fun _ _ _ =>
    rises_deepen.bind fun _ => (hoperand.bind fun _ => balanced_pure _).rises

theorem balanced_leftChain (tier : Grammar.Tier) : Balanced (leftChain tier.level operand) :=
  hoperand.chain (advances_operatorStep hoperand tier).rises

theorem balanced_unaryWithin (n : Nat) : Balanced (unaryWithin operand n) := by
  induction n with
  | zero => exact balanced_failHere _
  | succ n ih =>
    refine (balanced_accept? _).bind fun found => ?_
    split
    · exact ih.nested.bind fun e => balanced_pure _
    · exact hoperand

theorem balanced_unary : Balanced (unary operand) := balanced_count (balanced_unaryWithin hoperand)

theorem balanced_exponentWithin (n : Nat) : Balanced (exponentWithin operand n) := by
  induction n with
  | zero => exact balanced_failHere _
  | succ n ih =>
    refine hoperand.bind fun base => (balanced_accept _).bind fun _ => ?_
    exact (ih.nested.bind fun e => balanced_pure _).ite (balanced_pure _)

theorem balanced_exponent : Balanced (exponent operand) :=
  balanced_count (balanced_exponentWithin hoperand)

end

/-! ## Lists and literals -/

section

variable {self : Parser Expr} (hself : Balanced self)
include hself

theorem balanced_itemsWithin (closing : Symbol) (n : Nat) :
    Balanced (itemsWithin self closing n) := by
  induction n with
  | zero => exact hself.bind fun e => balanced_pure _
  | succ n ih =>
    refine hself.bind fun e => (balanced_accept _).bind fun _ => Balanced.ite ?_ (balanced_pure _)
    refine (balanced_nextIs _).bind fun _ => (balanced_pure _).ite ?_
    exact ih.bind fun es => balanced_pure _

theorem balanced_arguments (closing : Symbol) : Balanced (arguments self closing) := by
  refine (balanced_nextIs _).bind fun _ => (balanced_pure _).ite ?_
  exact balanced_count (balanced_itemsWithin hself closing)

theorem balanced_items (closing : Symbol) (cause : SyntaxCause) :
    Balanced (items self closing cause) := by
  rw [items_eq]
  exact (balanced_arguments hself closing).bind fun es =>
    (balanced_expect _ _).bind fun _ => balanced_pure es

theorem balanced_entryValue (key : Token) : Balanced (entryValue self key) := by
  refine (balanced_accept _).bind fun _ => hself.ite ?_
  split
  · exact balanced_pure _
  · exact balanced_failHere _

theorem balanced_entriesWithin (before n : Nat) : Balanced (entriesWithin self before n) := by
  induction n generalizing before with
  | zero => exact balanced_fail _ _
  | succ n ih =>
    refine (balanced_accept? _).bind fun found => ?_
    split
    · exact balanced_fail _ _
    · split
      · exact balanced_fail _ _
      · refine (balanced_entryValue hself _).bind fun e => (balanced_accept? _).bind fun found => ?_
        split
        · exact balanced_pure _
        · refine (balanced_nextIs _).bind fun _ => (balanced_pure _).ite ?_
          exact (ih _).bind fun entries => balanced_pure _

theorem balanced_objectLiteral (brace : Nat) : Balanced (objectLiteral self brace) := by
  have hclose (entries : List (String × Expr)) :
      Balanced (do expect .rightBrace .objectEnd; return Expr.object entries) :=
    (balanced_expect _ _).bind fun _ => balanced_pure _
  refine (balanced_nextIs _).bind fun _ => Balanced.ite (hclose []) ?_
  exact balanced_count fun n => (balanced_entriesWithin hself brace n).bind hclose

omit hself in
theorem balanced_misplaced : Balanced primary.misplaced := by
  refine balanced_get.bind fun cursor => ?_
  split
  · exact balanced_failHere _
  · exact balanced_fail _ _

theorem balanced_primary : Balanced (primary self) := by
  refine (balanced_accept? _).bind fun found => ?_
  split
  · exact balanced_misplaced
  · split
    case h_8 => exact hself.bind fun e => (balanced_expect _ _).bind fun _ => balanced_pure e
    case h_9 => exact (balanced_items hself _ _).bind fun es => balanced_pure _
    case h_10 => exact balanced_objectLiteral hself _
    case h_11 => exact balanced_misplaced
    all_goals exact balanced_pure _

/-! ## Links and expressions -/

omit hself in
theorem balanced_propertyName : Balanced propertyName := by
  refine (balanced_accept? _).bind fun found => ?_
  split
  · exact balanced_pure _
  · exact balanced_failHere _

/-- A link is one level deeper than its receiver, and stays there. -/
theorem advances_link : Advances (link self) := by
  refine .intro (fun _ => rfl) fun receiver _ symbol => rises_deepen.bind fun _ => Balanced.rises ?_
  have hitems := balanced_items hself .rightParen .argumentsEnd
  split
  · exact hitems.bind fun arguments => balanced_pure _
  · exact hself.bind fun key => (balanced_expect _ _).bind fun _ => balanced_pure _
  · refine balanced_propertyName.bind fun name => (balanced_accept _).bind fun _ => ?_
    exact (hitems.bind fun arguments => balanced_pure _).ite (balanced_pure _)

theorem balanced_linked : Balanced (linked self) :=
  (balanced_primary hself).chain (advances_link hself).rises

theorem balanced_operation (tiers : List Grammar.Tier) : Balanced (operation self tiers) := by
  induction tiers with
  | nil => exact balanced_exponent (balanced_unary (balanced_linked hself))
  | cons tier tiers ih => exact balanced_leftChain ih tier

theorem balanced_conditional : Balanced (conditional self) := by
  refine (balanced_operation hself Grammar.Tier.all).bind fun condition => ?_
  refine (balanced_accept _).bind fun _ => ?_
  refine Balanced.ite ?_ (balanced_pure _)
  refine hself.bind fun consequent => (balanced_expect _ _).bind fun _ => ?_
  exact hself.bind fun alternate => balanced_pure _

end

theorem balanced_expression (n : Nat) : Balanced (expression n) := by
  induction n with
  | zero => exact (balanced_failHere _).nested
  | succ n ih => exact (balanced_conditional ih).nested

end Parser

end TemplateExpr
