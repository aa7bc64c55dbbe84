import TemplateExpr.Proofs.Syntax.Balance

/-!
# Parsing without counts

The loops of the parser and its nested expressions have a count, so that they end by definition.
Here the functions of the grammar are written without one: a function calls others and itself as
the tokens have it, and a loop is a call of its own. A `Descent` is such a run with room for so
many calls within each other and no more. It has no result where the room is too small, and none
where a level would be left at depth zero.

A parser with counts is followed if descents with room enough do exactly what it does (`Settles`),
wherever fewer tokens than a limit are left (`Follows`). The rules say how this passes from parts
to a whole. A token that is taken lowers the limit by one, so a function may rely on nested
expressions of fewer tokens, and a count that starts with the tokens left never runs out early.
-/

namespace TemplateExpr

open Grammar (Tier)
open TemplateExpr.Parser
  (accept? accept expect nextIs fail failHere deepen unaryOp? keyOf? link? propertyName)

/-- A run of a parser that need not have a result. -/
def Descent (α : Type) : Type := Bounds → Cursor → Option (EStateM.Result ExprError Cursor α)

namespace Descent

variable {α : Type}

instance : Monad Descent where
  pure a := fun _ cursor => some (.ok a cursor)
  bind d f := fun bounds cursor =>
    match d bounds cursor with
    | some (.ok a now) => f a bounds now
    | some (.error e now) => some (.error e now)
    | none => none

instance : MonadLift Parser Descent := ⟨fun p bounds cursor => some (p bounds cursor)⟩

/-- One level less. There is no result without a level to leave. -/
def leave? (cursor : Cursor) : Option Cursor :=
  if cursor.depth = 0 then none else some { cursor with depth := cursor.depth - 1 }

/-- Goes one level deeper, and leaves that level whether the descent there fails or not. -/
def nested (d : Descent α) : Descent α := do
  deepen
  fun bounds cursor =>
    match d bounds cursor with
    | some (.ok a now) => (leave? now).map (.ok a)
    | some (.error e now) => (leave? now).map (.error e)
    | none => none

/-- Builds on what the first descent read. The depth behind the first is restored at the end. -/
def chain (first : Descent α) (rest : α → Descent α) : Descent α := do
  let a ← first
  let cursor ← (get : Parser Cursor)
  let a ← rest a
  (modify fun now => { now with depth := cursor.depth } : Parser Unit)
  return a

end Descent

/-! ## The functions of the grammar -/

/-- The functions of the grammar and their loops, with what they are called with. -/
inductive Call : Type → Type 1 where
  | expression : Call Expr
  | conditional : Call Expr
  /-- Operands with operators of the given tiers between them. -/
  | operation (tiers : List Tier) : Call Expr
  /-- The operators of a tier behind an operand, with the operands behind them. -/
  | operators (tier : Tier) (tiers : List Tier) (left : Expr) : Call Expr
  | exponent : Call Expr
  | unary : Call Expr
  | linked : Call Expr
  /-- The links behind a receiver. -/
  | links (receiver : Expr) : Call Expr
  | arguments (closing : Symbol) : Call (List Expr)
  /-- One argument at least. -/
  | argumentList (closing : Symbol) : Call (List Expr)
  | primary : Call Expr
  | objectLiteral (brace : Nat) : Call Expr
  /-- One entry at least. -/
  | entries (before : Nat) : Call (List (String × Expr))

namespace Call

open Descent (nested chain)

section

variable (run : ∀ α, Call α → Descent α)

/-- One more operator with the operand behind it, if one follows. -/
def operator (tier : Tier) (tiers : List Tier) (left : Expr) : Descent (Option Expr) := do
  match ← accept? tier.level.ofKind? with
  | none => return none
  | some (_, build) =>
    deepen
    return some (build left (← run _ (.operation tiers)))

/-- Arguments and the symbol behind them. -/
def items (closing : Symbol) (cause : SyntaxCause) : Descent (List Expr) := do
  let es ← run _ (.arguments closing)
  expect closing cause
  return es

/-- One more link, if one follows. -/
def link (receiver : Expr) : Descent (Option Expr) := do
  match ← accept? link? with
  | none => return none
  | some (_, symbol) =>
    deepen
    match symbol with
    | .leftParen => return some (.call receiver (← items run .rightParen .argumentsEnd))
    | .leftBracket =>
      let key ← run _ .expression
      expect .rightBracket .indexEnd
      return some (.index receiver key)
    | symbol =>
      let optional := symbol = .questionDot
      let name ← propertyName
      if ← accept .leftParen then
        let arguments ← items run .rightParen .argumentsEnd
        return some (.methodCall receiver name arguments optional)
      else return some (.field receiver name optional)

def entryValue (key : Token) : Descent Expr := do
  if ← accept .colon then run _ .expression
  else
    match key.kind with
    | .name name => return .identifier name
    | _ => failHere .objectColon

/-- What a call does, if `run` answers the calls within it. -/
def body : ∀ {α}, Call α → Descent α
  | _, .expression => nested (run _ .conditional)
  | _, .conditional => do
    let condition ← run _ (.operation Tier.all)
    if ← accept .question then
      let consequent ← run _ .expression
      expect .colon .conditionalColon
      let alternate ← run _ .expression
      return Expr.conditional condition consequent alternate
    else return condition
  | _, .operation [] => run _ .exponent
  | _, .operation (tier :: tiers) =>
    chain (run _ (.operation tiers)) fun left => run _ (.operators tier tiers left)
  | _, .operators tier tiers left => do
    match ← operator run tier tiers left with
    | some left => run _ (.operators tier tiers left)
    | none => return left
  | _, .exponent => do
    let base ← run _ .unary
    if ← accept .starStar then return Expr.binary .pow base (← nested (run _ .exponent))
    else return base
  | _, .unary => do
    match ← accept? unaryOp? with
    | some (_, op) => return Expr.unary op (← nested (run _ .unary))
    | none => run _ .linked
  | _, .linked => chain (run _ .primary) fun receiver => run _ (.links receiver)
  | _, .links receiver => do
    match ← link run receiver with
    | some receiver => run _ (.links receiver)
    | none => return receiver
  | _, .arguments closing => do
    if ← nextIs closing then return []
    run _ (.argumentList closing)
  | _, .argumentList closing => do
    let e ← run _ .expression
    if ← accept .comma then
      if ← nextIs closing then return [e]
      return e :: (← run _ (.argumentList closing))
    else return [e]
  | _, .primary => do
    match ← accept? Parser.primary.opening? with
    | none => Parser.primary.misplaced
    | some (t, kind) =>
      match kind with
      | .number n => return Expr.number n
      | .string s => return Expr.string s
      | .name name => return Expr.identifier name
      | .keyword .true => return Expr.bool true
      | .keyword .false => return Expr.bool false
      | .keyword .null => return Expr.null
      | .keyword .undefined => return Expr.undefined
      | .symbol .leftParen =>
        let e ← run _ .expression
        expect .rightParen .parenthesis
        return e
      | .symbol .leftBracket => return Expr.array (← items run .rightBracket .arrayEnd)
      | .symbol .leftBrace => run _ (.objectLiteral t.position)
      | _ => Parser.primary.misplaced
  | _, .objectLiteral brace => do
    let entries ← if ← nextIs .rightBrace then pure [] else run _ (.entries brace)
    expect .rightBrace .objectEnd
    return Expr.object entries
  | _, .entries before => do
    match ← accept? some with
    | none => fail before .objectKey
    | some (key, _) =>
      match keyOf? key with
      | none => fail key.position .objectKey
      | some name =>
        let value ← entryValue run key
        match ← accept? fun kind => if kind = .symbol .comma then some () else none with
        | none => return [(name, value)]
        | some (comma, _) =>
          if ← nextIs .rightBrace then return [(name, value)]
          return (name, value) :: (← run _ (.entries comma.position))

end

/-- What a call does with room for the given number of calls within each other, itself one of
them. -/
def within : Nat → ∀ {α}, Call α → Descent α
  | 0, _, _ => fun _ _ => none
  | n + 1, _, call => call.body fun _ => within n

end Call

/-! ## Following a parser -/

namespace Descent

open TemplateExpr.Parser (Rises Advances balanced_accept? balanced_accept)

variable {α β : Type} {bounds : Bounds} {cursor now : Cursor} {limit : Nat}
  {d d' : Nat → Descent α} {p p' : Parser α} {f : Nat → α → Descent β} {g : α → Parser β} {a : α}

theorem run_bind (d : Descent α) (f : α → Descent β) (bounds : Bounds) (cursor : Cursor) :
    (d >>= f) bounds cursor =
      match d bounds cursor with
      | some (.ok a now) => f a bounds now
      | some (.error e now) => some (.error e now)
      | none => none := rfl

theorem run_lift (p : Parser α) (bounds : Bounds) (cursor : Cursor) :
    (p : Descent α) bounds cursor = some (p bounds cursor) := rfl

/-- With room enough, the descents do what the parser does here. -/
def Settles (d : Nat → Descent α) (p : Parser α) (bounds : Bounds) (cursor : Cursor) : Prop :=
  ∃ k, ∀ n, k ≤ n → d n bounds cursor = some (p bounds cursor)

/-- The descents settle for the parser wherever fewer tokens than the limit are left. -/
def Follows (limit : Nat) (d : Nat → Descent α) (p : Parser α) : Prop :=
  ∀ bounds cursor, cursor.rest.length < limit → Settles d p bounds cursor

theorem settles_lift (p : Parser α) (bounds : Bounds) (cursor : Cursor) :
    Settles (fun _ => (p : Descent α)) p bounds cursor := ⟨0, fun _ _ => rfl⟩

/-- The room that is enough for both parts is enough for one behind the other. -/
theorem Settles.bind (hd : Settles d p bounds cursor)
    (hf : ∀ a now, p bounds cursor = .ok a now → Settles (fun n => f n a) (g a) bounds now) :
    Settles (fun n => d n >>= f n) (p >>= g) bounds cursor := by
  obtain ⟨k, hk⟩ := hd
  cases hrun : p bounds cursor with
  | error e now =>
    refine ⟨k, fun n hn => (run_bind _ _ _ _).trans ?_⟩
    rw [hk n hn, TemplateExpr.run_bind, hrun]
  | ok a now =>
    obtain ⟨l, hl⟩ := hf a now hrun
    refine ⟨max k l, fun n hn => (run_bind _ _ _ _).trans ?_⟩
    rw [hk n (Nat.le_trans (Nat.le_max_left k l) hn), TemplateExpr.run_bind, hrun]
    exact hl n (Nat.le_trans (Nat.le_max_right k l) hn)

theorem follows_zero : Follows 0 d p := fun _ _ hcursor => absurd hcursor (Nat.not_lt_zero _)

theorem Follows.mono {limit' : Nat} (h : Follows limit d p) (hle : limit' ≤ limit) :
    Follows limit' d p :=
  fun bounds cursor hcursor => h bounds cursor (Nat.lt_of_lt_of_le hcursor hle)

theorem follows_lift (p : Parser α) : Follows limit (fun _ => (p : Descent α)) p :=
  fun bounds cursor _ => settles_lift p bounds cursor

theorem follows_pure (a : α) : Follows limit (fun _ => pure a) (pure a) :=
  fun _ _ _ => ⟨0, fun _ _ => rfl⟩

/-- A call takes the room that its body takes, and one more. -/
theorem follows_within {call : Call α}
    (h : Follows limit (fun n => call.body fun _ => Call.within n) p) :
    Follows limit (fun n => call.within n) p := by
  intro bounds cursor hcursor
  obtain ⟨k, hk⟩ := h bounds cursor hcursor
  refine ⟨k + 1, fun n hn => ?_⟩
  obtain ⟨m, rfl⟩ := Nat.exists_eq_add_of_le' (Nat.le_trans (Nat.le_add_left 1 k) hn)
  exact hk m (Nat.le_of_succ_le_succ hn)

theorem Follows.bind (hd : Follows limit d p) (hp : Rises p)
    (hf : ∀ a, Follows limit (fun n => f n a) (g a)) :
    Follows limit (fun n => d n >>= f n) (p >>= g) := by
  intro bounds cursor hcursor
  refine (hd bounds cursor hcursor).bind fun a now hrun => hf a bounds now ?_
  exact Nat.lt_of_le_of_lt (hp.length_le hrun) hcursor

theorem follows_lift_bind (hp : Rises p) (hf : ∀ a, Follows limit (fun n => f n a) (g a)) :
    Follows limit (fun n => (p : Descent α) >>= f n) (p >>= g) :=
  (follows_lift p).bind hp hf

theorem Follows.ite {c : Prop} [Decidable c] (hd : Follows limit d p)
    (hd' : Follows limit d' p') :
    Follows limit (fun n => if c then d n else d' n) (if c then p else p') := by
  split
  · exact hd
  · exact hd'

/-- Behind a token that is taken, one token fewer is left. -/
theorem follows_accept?_bind {suitable? : TokenKind → Option α}
    {f : Nat → Option (Token × α) → Descent β} {g : Option (Token × α) → Parser β}
    (hnone : Follows (limit + 1) (fun n => f n none) (g none))
    (hsome : ∀ t a, Follows limit (fun n => f n (some (t, a))) (g (some (t, a)))) :
    Follows (limit + 1) (fun n => (accept? suitable? : Descent _) >>= f n)
      (accept? suitable? >>= g) := by
  intro bounds cursor hcursor
  refine (settles_lift _ bounds cursor).bind fun found now hrun => ?_
  rcases found with _ | ⟨t, a⟩
  · have hle := (balanced_accept? suitable?).rises.length_le hrun
    exact hnone bounds now (Nat.lt_of_le_of_lt hle hcursor)
  · have hlt := Parser.rest_lt_of_accept? hrun
    exact hsome t a bounds now (Nat.lt_of_lt_of_le hlt (Nat.le_of_lt_succ hcursor))

theorem follows_accept_bind {symbol : Symbol} {f : Nat → Bool → Descent β} {g : Bool → Parser β}
    (htrue : Follows limit (fun n => f n true) (g true))
    (hfalse : Follows (limit + 1) (fun n => f n false) (g false)) :
    Follows (limit + 1) (fun n => (accept symbol : Descent _) >>= f n) (accept symbol >>= g) := by
  intro bounds cursor hcursor
  refine (settles_lift _ bounds cursor).bind fun found now hrun => ?_
  cases found with
  | false =>
    have hle := (balanced_accept symbol).rises.length_le hrun
    exact hfalse bounds now (Nat.lt_of_le_of_lt hle hcursor)
  | true =>
    have hlt := Parser.rest_lt_of_accept hrun
    exact htrue bounds now (Nat.lt_of_lt_of_le hlt (Nat.le_of_lt_succ hcursor))

/-! ### Levels -/

theorem run_nested (d : Descent α) (bounds : Bounds) (cursor : Cursor) :
    nested d bounds cursor =
      if bounds.maxDepth < cursor.depth + 1 then
        some (.error (.exhausted bounds.maxDepth) { cursor with depth := cursor.depth + 1 })
      else
        match d bounds { cursor with depth := cursor.depth + 1 } with
        | some (.ok a now) => (leave? now).map (.ok a)
        | some (.error e now) => (leave? now).map (.error e)
        | none => none := by
  refine (run_bind _ _ _ _).trans ?_
  rw [run_lift, Parser.run_deepen]
  by_cases hlimit : bounds.maxDepth < cursor.depth + 1
  · rw [if_pos hlimit, if_pos hlimit]
  · rw [if_neg hlimit, if_neg hlimit]

theorem leave?_of_rises {before : Cursor} (h : before.Rises now) (hbefore : 0 < before.depth) :
    leave? now = some { now with depth := now.depth - 1 } :=
  if_neg (Nat.ne_of_gt (Nat.lt_of_lt_of_le hbefore h.depth))

/-- A level that was entered can be left, since nothing within it goes below it. -/
theorem Follows.nested (hd : Follows limit d p) (hp : Rises p) :
    Follows limit (fun n => nested (d n)) (Parser.nested p) := by
  intro bounds cursor hcursor
  obtain ⟨k, hk⟩ := hd bounds { cursor with depth := cursor.depth + 1 } hcursor
  refine ⟨k, fun n hn => (run_nested _ _ _).trans ?_⟩
  have hrises := hp bounds { cursor with depth := cursor.depth + 1 }
  rw [Parser.run_nested, hk n hn]
  split
  · rfl
  · cases hrun : p bounds { cursor with depth := cursor.depth + 1 } <;> rw [hrun] at hrises
    all_goals exact congrArg (Option.map _) (leave?_of_rises hrises (Nat.succ_pos _))

/-! ### Counts -/

theorem follows_count {q : Nat → Parser α}
    (h : ∀ count, count < limit → Follows (count + 1) d (q count)) :
    Follows limit d (do q (← get).rest.length) :=
  fun bounds cursor hcursor => h cursor.rest.length hcursor bounds cursor (Nat.lt_succ_self _)

/-- Where no tokens are left, parsers that agree there can be exchanged. -/
theorem Follows.congr_nil (hd : Follows 1 d p)
    (hp : ∀ bounds depth, p bounds ⟨[], depth⟩ = p' bounds ⟨[], depth⟩) : Follows 1 d p' := by
  rintro bounds ⟨rest, depth⟩ hcursor
  obtain rfl := List.eq_nil_of_length_eq_zero (Nat.lt_one_iff.mp hcursor)
  obtain ⟨k, hk⟩ := hd bounds ⟨[], depth⟩ hcursor
  exact ⟨k, fun n hn => (hk n hn).trans (congrArg some (hp bounds depth))⟩

/-- A recursion that takes a token in each round is followed with a count as well as without. The
count may be one too small, since without tokens nothing is left to count. -/
theorem follows_counted {σ : Type} {d : Nat → σ → Descent α} {q : Nat → σ → Parser α}
    (hround : ∀ {room count}, room < limit →
      (∀ s, Follows room (fun n => d n s) (q count s)) →
        ∀ s, Follows (room + 1) (fun n => d n s) (q (count + 1) s))
    (hnil : ∀ s bounds depth, q 1 s bounds ⟨[], depth⟩ = q 0 s bounds ⟨[], depth⟩) (s : σ) :
    Follows limit (fun n => d n s) (do q (← get).rest.length s) := by
  refine follows_count (q := fun count => q count s) fun count hcount => ?_
  induction count generalizing s with
  | zero => exact (hround hcount (fun s => follows_zero) s).congr_nil (hnil s)
  | succ count ih => exact hround hcount (fun s => ih s (Nat.lt_of_succ_lt hcount)) s

/-- One step of a chain, and those behind it. -/
theorem follows_round {more : α → Parser (Option α)} {step : Nat → Descent (Option α)}
    {f : Nat → Option α → Descent α} {count : Nat} (hstep : Follows (limit + 1) step (more a))
    (hmore : Advances more) (hnone : ∀ n, f n none = pure a)
    (hsome : ∀ a', Follows limit (fun n => f n (some a')) (Parser.chain.rounds more count a')) :
    Follows (limit + 1) (fun n => step n >>= f n) (Parser.chain.rounds more (count + 1) a) := by
  intro bounds cursor hcursor
  refine (hstep bounds cursor hcursor).bind fun next? now hrun => ?_
  cases next? with
  | none => exact ⟨0, fun n _ => congrFun (congrFun (hnone n) bounds) now⟩
  | some next =>
    have hlt := hmore.rest_lt hrun
    exact hsome next bounds now (Nat.lt_of_lt_of_le hlt (Nat.le_of_lt_succ hcursor))

theorem Follows.chain {rest : Nat → α → Descent α} {more : α → Parser (Option α)}
    (hd : Follows limit d p) (hp : Rises p)
    (hrest : ∀ a, Follows limit (fun n => rest n a)
      (do Parser.chain.rounds more (← get).rest.length a)) :
    Follows limit (fun n => chain (d n) (rest n)) (Parser.chain p more) := by
  refine hd.bind hp fun a bounds cursor hcursor => ?_
  refine (settles_lift get bounds cursor).bind fun _ _ hrun => ?_
  cases hrun
  have hrounds : Settles (fun n => rest n a) (Parser.chain.rounds more cursor.rest.length a) bounds
      cursor := hrest a bounds cursor hcursor
  exact hrounds.bind fun _ _ _ => ⟨0, fun _ _ => rfl⟩

end Descent

end TemplateExpr
