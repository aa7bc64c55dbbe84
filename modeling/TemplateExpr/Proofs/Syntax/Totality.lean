import TemplateExpr.Proofs.Syntax.Descent

/-!
# Every function of the grammar returns

A call stands for a parser with counts (`Call.counted`). Function by function, descents with room
enough do what this parser does: wherever nested expressions are followed on fewer tokens than a
limit, the functions that take a token before they reach one are followed up to the limit itself.
So a parser of expressions from any number of tokens is followed on that number and fewer, and
every call has a result, no matter what the tokens, the depth and the greatest depth are.

The result is balanced, as that of the parser is: of the calls, only the loops of chains leave the
depth greater, and the functions around them restore it.
-/

namespace TemplateExpr.Call

open Descent
open Grammar (Tier)
open TemplateExpr.Parser
  (keyOf? expect Rises Balanced balanced_get balanced_accept? balanced_accept balanced_nextIs
    balanced_expect balanced_count advances_operatorStep advances_link rises_rounds)

variable {α : Type} {self : Parser Expr} {limit : Nat}

/-- The parser that a call stands for, with `self` for the expressions within it. -/
def counted (self : Parser Expr) : ∀ {α}, Call α → Parser α
  | _, .expression => self
  | _, .conditional => Parser.conditional self
  | _, .operation tiers => Parser.operation self tiers
  | _, .operators tier tiers left => do
    Parser.chain.rounds (Parser.operatorStep tier (Parser.operation self tiers))
      (← get).rest.length left
  | _, .exponent => Parser.exponent (Parser.unary (Parser.linked self))
  | _, .unary => Parser.unary (Parser.linked self)
  | _, .linked => Parser.linked self
  | _, .links receiver => do
    Parser.chain.rounds (Parser.link self) (← get).rest.length receiver
  | _, .arguments closing => Parser.arguments self closing
  | _, .argumentList closing => do Parser.itemsWithin self closing (← get).rest.length
  | _, .primary => Parser.primary self
  | _, .objectLiteral brace => Parser.objectLiteral self brace
  | _, .entries before => do Parser.entriesWithin self before (← get).rest.length

section

/-! ## Lists and literals -/

variable (hself : Balanced self)
  (h : Follows limit (fun n => Call.expression.within n) self)
include hself h

theorem follows_argumentList (closing : Symbol) :
    Follows limit (fun n => (argumentList closing).within n)
      ((argumentList closing).counted self) := by
  refine follows_counted (d := fun n (_ : Unit) => (argumentList closing).within n)
    (q := fun count _ => Parser.itemsWithin self closing count) ?_ ?_ ()
  · intro room count hroom ih _
    refine follows_within ((h.mono hroom).bind hself.rises fun e => ?_)
    refine follows_accept_bind ?_ (follows_pure _)
    refine follows_lift_bind (balanced_nextIs _).rises fun _ => (follows_pure _).ite ?_
    exact (ih ()).bind (Parser.balanced_itemsWithin hself _ _).rises fun es => follows_pure _
  · intro _ bounds depth
    have hrises := hself.rises bounds ⟨[], depth⟩
    rw [Parser.itemsWithin, Parser.itemsWithin, TemplateExpr.run_bind, TemplateExpr.run_bind]
    cases hrun : self bounds ⟨[], depth⟩ with
    | error e now => rfl
    | ok e now =>
      obtain ⟨rest, depth'⟩ := now
      rw [hrun] at hrises
      obtain rfl : rest = [] := List.suffix_nil.mp hrises.rest
      rfl

theorem follows_arguments (closing : Symbol) :
    Follows limit (fun n => (Call.arguments closing).within n)
      ((Call.arguments closing).counted self) := by
  refine follows_within (follows_lift_bind (balanced_nextIs _).rises fun _ => ?_)
  exact (follows_pure _).ite (follows_argumentList hself h closing)

theorem follows_items (closing : Symbol) (cause : SyntaxCause) :
    Follows limit (fun n => items (fun _ => Call.within n) closing cause)
      (Parser.items self closing cause) := by
  rw [Parser.items_eq]
  refine (follows_arguments hself h closing).bind (Parser.balanced_arguments hself _).rises ?_
  exact fun es => follows_lift_bind (balanced_expect _ _).rises fun _ => follows_pure es

omit hself in
theorem follows_entryValue (key : Token) :
    Follows (limit + 1) (fun n => entryValue (fun _ => Call.within n) key)
      (Parser.entryValue self key) := by
  refine follows_accept_bind h ?_
  obtain ⟨kind, _, _⟩ := key
  cases kind with
  | name name => exact follows_pure _
  | _ => exact follows_lift _

theorem follows_entries (before : Nat) :
    Follows (limit + 1) (fun n => (Call.entries before).within n)
      ((Call.entries before).counted self) := by
  refine follows_counted (d := fun n before => (Call.entries before).within n)
    (q := fun count before => Parser.entriesWithin self before count) ?_ (fun _ _ _ => rfl) before
  intro room count hroom ih before
  refine follows_within (follows_accept?_bind (follows_lift _) fun key _ => ?_)
  dsimp only
  cases keyOf? key with
  | none => exact follows_lift _
  | some name =>
    refine ((follows_entryValue h key).mono (Nat.le_of_lt hroom)).bind
      (Parser.balanced_entryValue hself key).rises fun e => ?_
    refine follows_lift_bind (balanced_accept? _).rises fun comma? => ?_
    rcases comma? with _ | ⟨comma, _⟩
    · exact follows_pure _
    · refine follows_lift_bind (balanced_nextIs _).rises fun _ => (follows_pure _).ite ?_
      exact (ih _).bind (Parser.balanced_entriesWithin hself _ _).rises fun _ => follows_pure _

theorem follows_objectLiteral (brace : Nat) :
    Follows (limit + 1) (fun n => (Call.objectLiteral brace).within n)
      ((Call.objectLiteral brace).counted self) := by
  refine follows_within (follows_lift_bind (balanced_nextIs _).rises fun found => ?_)
  have hclose (entries : List (String × Expr)) :
      Follows (limit + 1) (fun _ => do expect .rightBrace .objectEnd; return Expr.object entries)
        (do expect .rightBrace .objectEnd; return Expr.object entries) :=
    follows_lift_bind (balanced_expect _ _).rises fun _ => follows_pure _
  have hentries := (follows_entries hself h brace).bind
    (balanced_count (Parser.balanced_entriesWithin hself brace)).rises hclose
  exact Follows.ite (hclose []) hentries

theorem follows_primary :
    Follows (limit + 1) (fun n => primary.within n) (primary.counted self) := by
  refine follows_within (follows_accept?_bind (follows_lift _) fun t kind => ?_)
  rcases kind with _ | _ | _ | keyword | symbol
  case keyword => cases keyword <;> first | exact follows_pure _ | exact follows_lift _
  case symbol =>
    cases symbol
    case leftParen =>
      refine h.bind hself.rises fun e => ?_
      exact follows_lift_bind (balanced_expect _ _).rises fun _ => follows_pure e
    case leftBracket =>
      exact (follows_items hself h _ _).bind (Parser.balanced_items hself _ _).rises
        fun es => follows_pure _
    case leftBrace => exact (follows_objectLiteral hself h _).mono (Nat.le_succ _)
    all_goals exact follows_lift _
  all_goals exact follows_pure _

/-! ## Links and operators -/

theorem follows_link (receiver : Expr) :
    Follows (limit + 1) (fun n => link (fun _ => Call.within n) receiver)
      (Parser.link self receiver) := by
  have hitems := follows_items hself h .rightParen .argumentsEnd
  have hrises := (Parser.balanced_items hself .rightParen .argumentsEnd).rises
  refine follows_accept?_bind (follows_pure _) fun _ symbol => ?_
  refine follows_lift_bind Parser.rises_deepen fun _ => ?_
  cases symbol
  case leftParen => exact hitems.bind hrises fun es => follows_pure _
  case leftBracket =>
    refine h.bind hself.rises fun key => ?_
    exact follows_lift_bind (balanced_expect _ _).rises fun _ => follows_pure _
  all_goals
    refine follows_lift_bind Parser.balanced_propertyName.rises fun name => ?_
    refine follows_lift_bind (balanced_accept _).rises fun _ => ?_
    exact (hitems.bind hrises fun es => follows_pure _).ite (follows_pure _)

theorem follows_links (receiver : Expr) :
    Follows (limit + 1) (fun n => (links receiver).within n) ((links receiver).counted self) := by
  refine follows_counted (d := fun n receiver => (links receiver).within n)
    (q := fun count receiver => Parser.chain.rounds (Parser.link self) count receiver)
    (fun hroom ih receiver => ?_) (fun _ _ _ => rfl) receiver
  exact follows_within (follows_round ((follows_link hself h receiver).mono hroom)
    (advances_link hself) (fun _ => rfl) ih)

theorem follows_linked : Follows (limit + 1) (fun n => linked.within n) (linked.counted self) :=
  follows_within ((follows_primary hself h).chain (Parser.balanced_primary hself).rises
    (follows_links hself h))

theorem follows_unary : Follows (limit + 1) (fun n => unary.within n) (unary.counted self) := by
  have hlinked := Parser.balanced_linked hself
  refine follows_counted (d := fun n (_ : Unit) => unary.within n)
    (q := fun count _ => Parser.unaryWithin (Parser.linked self) count) ?_ (fun _ _ _ => rfl) ()
  intro room count hroom ih _
  refine follows_within (follows_accept?_bind ((follows_linked hself h).mono hroom) fun _ op => ?_)
  have hoperand := Parser.balanced_unaryWithin hlinked count
  exact ((ih ()).nested hoperand.rises).bind hoperand.nested.rises fun e => follows_pure _

theorem follows_exponent :
    Follows (limit + 1) (fun n => exponent.within n) (exponent.counted self) := by
  have hunary := Parser.balanced_unary (Parser.balanced_linked hself)
  refine follows_counted (d := fun n (_ : Unit) => exponent.within n)
    (q := fun count _ => Parser.exponentWithin (Parser.unary (Parser.linked self)) count) ?_
    (fun _ _ _ => rfl) ()
  intro room count hroom ih _
  refine follows_within (((follows_unary hself h).mono hroom).bind hunary.rises fun base => ?_)
  refine follows_accept_bind ?_ (follows_pure _)
  have hpower := Parser.balanced_exponentWithin hunary count
  exact ((ih ()).nested hpower.rises).bind hpower.nested.rises fun e => follows_pure _

omit h in
theorem follows_operators {tiers : List Tier}
    (hoperand : Follows (limit + 1) (fun n => (operation tiers).within n)
      (Parser.operation self tiers)) (tier : Tier) (left : Expr) :
    Follows (limit + 1) (fun n => (operators tier tiers left).within n)
      ((operators tier tiers left).counted self) := by
  have hright := Parser.balanced_operation hself tiers
  refine follows_counted (d := fun n left => (operators tier tiers left).within n)
    (q := fun count left =>
      Parser.chain.rounds (Parser.operatorStep tier (Parser.operation self tiers)) count left)
    (fun {room count} hroom ih left => ?_) (fun _ _ _ => rfl) left
  refine follows_within (follows_round ?_ (advances_operatorStep hright tier) (fun _ => rfl) ih)
  refine follows_accept?_bind (follows_pure _) fun _ build => ?_
  refine follows_lift_bind Parser.rises_deepen fun _ => ?_
  exact (hoperand.mono (Nat.le_of_lt hroom)).bind hright.rises fun right => follows_pure _

theorem follows_operation (tiers : List Tier) :
    Follows (limit + 1) (fun n => (operation tiers).within n)
      ((operation tiers).counted self) := by
  induction tiers with
  | nil => exact follows_within (follows_exponent hself h)
  | cons tier tiers ih =>
    exact follows_within (ih.chain (Parser.balanced_operation hself tiers).rises
      (follows_operators hself ih tier))

/-! ## Expressions -/

theorem follows_conditional :
    Follows (limit + 1) (fun n => conditional.within n) (conditional.counted self) := by
  refine follows_within ((follows_operation hself h Tier.all).bind
    (Parser.balanced_operation hself Tier.all).rises fun condition => ?_)
  refine follows_accept_bind ?_ (follows_pure _)
  refine h.bind hself.rises fun consequent => ?_
  refine follows_lift_bind (balanced_expect _ _).rises fun _ => ?_
  exact h.bind hself.rises fun alternate => follows_pure _

end

theorem follows_expression (count : Nat) :
    Follows (count + 1) (fun n => expression.within n) (Parser.expression count) := by
  induction count with
  | zero =>
    -- Without tokens no nested expression is reached, so any parser will do for them.
    have hself := Parser.balanced_expression 0
    have hnested : Follows 1 (fun n => expression.within n)
        (Parser.nested (Parser.conditional (Parser.expression 0))) :=
      follows_within ((follows_conditional hself follows_zero).nested
        (Parser.balanced_conditional hself).rises)
    refine hnested.congr_nil fun bounds depth => ?_
    rw [Parser.run_nested, Parser.expression, Parser.run_nested]
    rfl
  | succ count ih =>
    have hself := Parser.balanced_expression count
    exact follows_within ((follows_conditional hself ih).nested
      (Parser.balanced_conditional hself).rises)

theorem follows_call (hself : Balanced self)
    (h : Follows limit (fun n => Call.expression.within n) self) (call : Call α) :
    Follows limit (fun n => call.within n) (call.counted self) := by
  have hle := Nat.le_succ limit
  cases call with
  | expression => exact h
  | conditional => exact (follows_conditional hself h).mono hle
  | operation tiers => exact (follows_operation hself h tiers).mono hle
  | operators tier tiers left =>
    exact (follows_operators hself (follows_operation hself h tiers) tier left).mono hle
  | exponent => exact (follows_exponent hself h).mono hle
  | unary => exact (follows_unary hself h).mono hle
  | linked => exact (follows_linked hself h).mono hle
  | links receiver => exact (follows_links hself h receiver).mono hle
  | arguments closing => exact follows_arguments hself h closing
  | argumentList closing => exact follows_argumentList hself h closing
  | primary => exact (follows_primary hself h).mono hle
  | objectLiteral brace => exact (follows_objectLiteral hself h brace).mono hle
  | entries before => exact (follows_entries hself h before).mono hle

/-! ## Balance -/

/-- Whether a call leaves the depth as it found it, unless it fails. The loops of chains do not:
each operator and each link goes one level deeper. -/
def restoresDepth : ∀ {α}, Call α → Bool
  | _, .operators .. | _, .links _ => false
  | _, _ => true

theorem balanced_counted (hself : Balanced self) {call : Call α} (hcall : call.restoresDepth) :
    Balanced (call.counted self) := by
  have hlinked := Parser.balanced_linked hself
  cases call with
  | expression => exact hself
  | conditional => exact Parser.balanced_conditional hself
  | operation tiers => exact Parser.balanced_operation hself tiers
  | exponent => exact Parser.balanced_exponent (Parser.balanced_unary hlinked)
  | unary => exact Parser.balanced_unary hlinked
  | linked => exact hlinked
  | arguments closing => exact Parser.balanced_arguments hself closing
  | argumentList closing => exact balanced_count (Parser.balanced_itemsWithin hself closing)
  | primary => exact Parser.balanced_primary hself
  | objectLiteral brace => exact Parser.balanced_objectLiteral hself brace
  | entries before => exact balanced_count (Parser.balanced_entriesWithin hself before)
  | operators | links => cases hcall

theorem rises_counted (hself : Balanced self) (call : Call α) : Rises (call.counted self) := by
  cases call with
  | operators tier tiers left =>
    have hsteps := advances_operatorStep (Parser.balanced_operation hself tiers) tier
    exact balanced_get.rises.bind fun _ => rises_rounds hsteps.rises _ left
  | links receiver =>
    exact balanced_get.rises.bind fun _ => rises_rounds (advances_link hself).rises _ receiver
  | _ => exact (balanced_counted hself rfl).rises

/-- Every call returns, whatever the tokens, the depth and the limit are, and no level is left at
depth zero on the way: with room enough it has an answer, that of its parser with any count that
covers the tokens. It has taken tokens from the front only and leaves the depth no smaller, also
where it fails. Where it succeeds, the depth is the one it found, unless the call is the loop of a
chain. -/
theorem returns_in_balance (call : Call α) (bounds : Bounds) (cursor : Cursor) :
    ∃ answer : EStateM.Result ExprError Cursor α,
      (∃ k, ∀ n, k ≤ n → call.within n bounds cursor = some answer) ∧
        (∀ count, cursor.rest.length ≤ count →
          call.counted (Parser.expression count) bounds cursor = answer) ∧
        cursor.Rises (Parser.left answer) ∧
        (call.restoresDepth →
          ∀ a now, answer = .ok a now → now.depth = cursor.depth) := by
  have hsettles (count : Nat) (hcount : cursor.rest.length ≤ count) :=
    follows_call (Parser.balanced_expression count) (follows_expression count) call bounds cursor
      (Nat.lt_succ_of_le hcount)
  have hself := Parser.balanced_expression cursor.rest.length
  obtain ⟨k, hk⟩ := hsettles _ (Nat.le_refl _)
  refine ⟨call.counted (Parser.expression cursor.rest.length) bounds cursor, ⟨k, hk⟩,
    fun count hcount => ?_, rises_counted hself call bounds cursor,
    fun hcall a now hrun => (balanced_counted hself hcall).level hrun⟩
  obtain ⟨l, hl⟩ := hsettles count hcount
  -- With room enough for both counts, the descent has the answers of both.
  have hboth := (hl (max k l) (Nat.le_max_right k l)).symm.trans (hk _ (Nat.le_max_left k l))
  exact Option.some.inj hboth

end TemplateExpr.Call
