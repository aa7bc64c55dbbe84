import TemplateExpr.Proofs.Syntax.Acceptance

/-!
# The same tokens elsewhere, and under a higher limit

The parser reads the position of a token only to report it, and the limit on nesting only to stop.
So with the tokens moved, and a limit that is no lower, it does the same, and its errors are moved
with the tokens: `Parser.Tracks` says so of two parsers. The second one is the first again, except
where a token that was read is at hand, which is moved as well.

Steps of the parser have this property and every way to put parsers together keeps it, so each
function of the parser has it by its text alone. The counts of rounds are the same in both runs,
since these read the same number of tokens.
-/

namespace TemplateExpr

/-! ## Moving -/

/-- The token in another place. -/
def Token.moved (move : Nat → Nat) (t : Token) : Token := { t with position := move t.position }

/-- The error with its position moved. -/
def ExprError.moved (move : Nat → Nat) : ExprError → ExprError
  | .lexical position cause => .lexical (move position) cause
  | .syntactic position cause => .syntactic (move position) cause
  | .evaluation text cause => .evaluation text (cause.moved move)
  | e => e

theorem ExprError.moved_id (e : ExprError) : e.moved id = e := by
  induction e with
  | evaluation text cause ih => exact congrArg (evaluation text) ih
  | _ => rfl

/-- The cursor in front of the tokens in their other places. -/
def Cursor.moved (move : Nat → Nat) (cursor : Cursor) : Cursor :=
  { cursor with rest := cursor.rest.map (Token.moved move) }

theorem Cursor.moved_id (cursor : Cursor) : cursor.moved id = cursor := by
  obtain ⟨rest, depth⟩ := cursor
  exact congrArg (Cursor.mk · depth) (List.map_id rest)

namespace Parser

variable {α β : Type} {move : Nat → Nat}

/-- What a run ends with, with the tokens moved. -/
def movedAnswer (move : Nat → Nat) :
    EStateM.Result ExprError Cursor α → EStateM.Result ExprError Cursor α
  | .ok a cursor => .ok a (cursor.moved move)
  | .error e cursor => .error (e.moved move) (cursor.moved move)

theorem movedAnswer_id (answer : EStateM.Result ExprError Cursor α) :
    movedAnswer id answer = answer := by
  cases answer with
  | ok a cursor => exact congrArg (EStateM.Result.ok a) cursor.moved_id
  | error e cursor => simp only [movedAnswer, ExprError.moved_id, Cursor.moved_id]

/-- The second parser does with the moved tokens what the first one does with the tokens, unless the
first one is stopped by a lower limit. -/
def Tracks (move : Nat → Nat) (p p' : Parser α) : Prop :=
  ∀ (low high : Bounds) (cursor : Cursor), high.stop = move low.stop →
    low.maxDepth ≤ high.maxDepth →
    (low.maxDepth < high.maxDepth ∧ ∃ now, p low cursor = .error (.exhausted low.maxDepth) now) ∨
      p' high (cursor.moved move) = movedAnswer move (p low cursor)

/-! ## Steps -/

theorem tracks_pure (a : α) : Tracks move (pure a) (pure a) := fun _ _ _ _ _ => .inr rfl

theorem tracks_fail (position : Nat) (cause : SyntaxCause) :
    Tracks move (fail position cause : Parser α) (fail (move position) cause) :=
  fun _ _ _ _ _ => .inr rfl

/-- A parser that changes the depth only does not see the tokens. -/
theorem tracks_modify_depth (f : Nat → Nat) :
    Tracks move (modify fun now => { now with depth := f now.depth })
      (modify fun now => { now with depth := f now.depth }) :=
  fun _ _ _ _ _ => .inr rfl

theorem tracks_nextIs (symbol : Symbol) : Tracks move (nextIs symbol) (nextIs symbol) := by
  intro low high cursor _ _
  obtain ⟨rest, depth⟩ := cursor
  cases rest <;> exact .inr rfl

theorem tracks_failHere (cause : SyntaxCause) :
    Tracks move (failHere cause : Parser α) (failHere cause) := by
  intro low high cursor hstop _
  obtain ⟨rest, depth⟩ := cursor
  cases rest with
  | nil => exact .inr (congrArg (fun stop => (fail stop cause : Parser α) high ⟨[], depth⟩) hstop)
  | cons t rest => exact .inr rfl

/-- This is the one step that the limit stops. -/
theorem tracks_deepen : Tracks move deepen deepen := by
  intro low high cursor _ hlimit
  rw [run_deepen, run_deepen]
  rcases Nat.lt_or_eq_of_le hlimit with hlt | heq
  · by_cases hlow : low.maxDepth < cursor.depth + 1
    · exact .inl ⟨hlt, _, if_pos hlow⟩
    · have hhigh : ¬ high.maxDepth < cursor.depth + 1 := by omega
      exact .inr (by rw [if_neg hlow]; exact if_neg hhigh)
  · rw [← heq]
    by_cases hlow : low.maxDepth < cursor.depth + 1
    · exact .inr (by rw [if_pos hlow]; exact if_pos hlow)
    · exact .inr (by rw [if_neg hlow]; exact if_neg hlow)

/-! ## Parsers put together -/

theorem Tracks.bind {p p' : Parser α} {f f' : α → Parser β} (hp : Tracks move p p')
    (hf : ∀ a, Tracks move (f a) (f' a)) : Tracks move (p >>= f) (p' >>= f') := by
  intro low high cursor hstop hlimit
  rw [run_bind, run_bind]
  rcases hp low high cursor hstop hlimit with ⟨hlt, now, hstopped⟩ | hsame
  · exact .inl ⟨hlt, now, by rw [hstopped]⟩
  · rw [hsame]
    cases p low cursor with
    | ok a now => exact hf a low high now hstop hlimit
    | error e now => exact .inr rfl

/-- A parser that looks at the cursor sees the moved one. -/
theorem tracks_get_bind {f f' : Cursor → Parser β}
    (hf : ∀ cursor, Tracks move (f cursor) (f' (cursor.moved move))) :
    Tracks move (get >>= f) (get >>= f') :=
  fun low high cursor hstop hlimit => hf cursor low high cursor hstop hlimit

theorem run_accept?_cons (suitable? : TokenKind → Option α) (bounds : Bounds) (t : Token)
    (rest : List Token) (depth : Nat) :
    accept? suitable? bounds ⟨t :: rest, depth⟩ =
      match suitable? t.kind with
      | none => .ok none ⟨t :: rest, depth⟩
      | some a => .ok (some (t, a)) ⟨rest, depth⟩ := by
  unfold accept?
  rw [run_bind, run_get]
  simp only
  cases suitable? t.kind <;> rfl

/-- A parser that takes a token gets the moved one. -/
theorem tracks_accept?_bind {suitable? : TokenKind → Option α}
    {f f' : Option (Token × α) → Parser β} (hnone : Tracks move (f none) (f' none))
    (hsome : ∀ t a, Tracks move (f (some (t, a))) (f' (some (t.moved move, a)))) :
    Tracks move (accept? suitable? >>= f) (accept? suitable? >>= f') := by
  intro low high cursor hstop hlimit
  obtain ⟨rest, depth⟩ := cursor
  cases rest with
  | nil => exact hnone low high _ hstop hlimit
  | cons t rest =>
    have hrun := run_accept?_cons suitable? low t rest depth
    have hrun' := run_accept?_cons suitable? high (t.moved move) (rest.map (Token.moved move)) depth
    rw [run_bind, run_bind, Cursor.moved, List.map_cons, hrun, hrun']
    cases ha : suitable? t.kind with
    | none =>
      simp only [Token.moved, ha]
      exact hnone low high _ hstop hlimit
    | some a =>
      simp only [Token.moved, ha]
      exact hsome t a low high _ hstop hlimit

theorem Tracks.ite {c : Prop} [Decidable c] {p p' q q' : Parser α} (hp : Tracks move p p')
    (hq : Tracks move q q') : Tracks move (if c then p else q) (if c then p' else q') := by
  split
  · exact hp
  · exact hq

theorem Tracks.nested {p p' : Parser α} (hp : Tracks move p p') :
    Tracks move (nested p) (nested p') := by
  refine tracks_deepen.bind fun _ => ?_
  intro low high cursor hstop hlimit
  rcases hp low high cursor hstop hlimit with ⟨hlt, now, hstopped⟩ | hsame
  · exact .inl ⟨hlt, { now with depth := now.depth - 1 }, by simp only [hstopped]⟩
  · refine .inr ?_
    simp only [hsame]
    cases p low cursor <;> rfl

theorem tracks_accept (symbol : Symbol) : Tracks move (accept symbol) (accept symbol) :=
  tracks_accept?_bind (tracks_pure _) fun _ _ => tracks_pure _

theorem tracks_expect (symbol : Symbol) (cause : SyntaxCause) :
    Tracks move (expect symbol cause) (expect symbol cause) :=
  (tracks_accept symbol).bind fun _ => (tracks_pure _).ite (tracks_failHere cause)

theorem tracks_rounds {step : α → Parser (Option α)} (hstep : ∀ a, Tracks move (step a) (step a))
    (n : Nat) (a : α) : Tracks move (chain.rounds step n a) (chain.rounds step n a) := by
  induction n generalizing a with
  | zero => exact tracks_pure a
  | succ n ih =>
    refine (hstep a).bind fun next? => ?_
    cases next? with
    | none => exact tracks_pure a
    | some next => exact ih next

theorem Tracks.chain {first : Parser α} {step : α → Parser (Option α)}
    (hfirst : Tracks move first first) (hstep : ∀ a, Tracks move (step a) (step a)) :
    Tracks move (chain first step) (chain first step) := by
  refine hfirst.bind fun a => tracks_get_bind fun cursor => ?_
  simp only [Cursor.moved, List.length_map]
  refine (tracks_rounds hstep _ a).bind fun e => ?_
  exact (tracks_modify_depth fun _ => cursor.depth).bind fun _ => tracks_pure e

/-- A parser with as many rounds as there are tokens. -/
theorem tracks_count {p p' : Nat → Parser α} (hp : ∀ n, Tracks move (p n) (p' n)) :
    Tracks move (do p (← get).rest.length) (do p' (← get).rest.length) := by
  refine tracks_get_bind fun cursor => ?_
  simp only [Cursor.moved, List.length_map]
  exact hp _

/-! ## Operators -/

section

variable {operand : Parser Expr} (hoperand : Tracks move operand operand)
include hoperand

theorem tracks_leftChain (level : Level) :
    Tracks move (leftChain level operand) (leftChain level operand) := by
  refine hoperand.chain fun left => tracks_accept?_bind (tracks_pure _) fun t build => ?_
  exact tracks_deepen.bind fun _ => hoperand.bind fun right => tracks_pure _

theorem tracks_unaryWithin (n : Nat) :
    Tracks move (unaryWithin operand n) (unaryWithin operand n) := by
  induction n with
  | zero => exact tracks_failHere _
  | succ n ih => exact tracks_accept?_bind hoperand fun t op => ih.nested.bind fun e => tracks_pure _

theorem tracks_unary : Tracks move (unary operand) (unary operand) :=
  tracks_count (tracks_unaryWithin hoperand)

theorem tracks_exponentWithin (n : Nat) :
    Tracks move (exponentWithin operand n) (exponentWithin operand n) := by
  induction n with
  | zero => exact tracks_failHere _
  | succ n ih =>
    refine hoperand.bind fun base => (tracks_accept _).bind fun _ => ?_
    exact (ih.nested.bind fun e => tracks_pure _).ite (tracks_pure _)

theorem tracks_exponent : Tracks move (exponent operand) (exponent operand) :=
  tracks_count (tracks_exponentWithin hoperand)

end

/-! ## Lists and literals -/

section

variable {self : Parser Expr} (hself : Tracks move self self)
include hself

theorem tracks_itemsWithin (closing : Symbol) (n : Nat) :
    Tracks move (itemsWithin self closing n) (itemsWithin self closing n) := by
  induction n with
  | zero => exact hself.bind fun e => tracks_pure _
  | succ n ih =>
    refine hself.bind fun e => (tracks_accept _).bind fun _ => Tracks.ite ?_ (tracks_pure _)
    refine (tracks_nextIs _).bind fun _ => (tracks_pure _).ite ?_
    exact ih.bind fun es => tracks_pure _

theorem tracks_items (closing : Symbol) (cause : SyntaxCause) :
    Tracks move (items self closing cause) (items self closing cause) := by
  have hclose (es : List Expr) :
      Tracks move (do expect closing cause; return es) (do expect closing cause; return es) :=
    (tracks_expect closing cause).bind fun _ => tracks_pure es
  refine (tracks_nextIs _).bind fun _ => Tracks.ite (hclose []) ?_
  exact tracks_count fun n => (tracks_itemsWithin hself closing n).bind hclose

theorem tracks_entryValue (key : Token) :
    Tracks move (entryValue self key) (entryValue self (key.moved move)) := by
  refine (tracks_accept _).bind fun _ => hself.ite ?_
  simp only [Token.moved]
  split
  · exact tracks_pure _
  · exact tracks_failHere _

theorem tracks_entriesWithin (before n : Nat) :
    Tracks move (entriesWithin self before n) (entriesWithin self (move before) n) := by
  induction n generalizing before with
  | zero => exact tracks_fail _ _
  | succ n ih =>
    refine tracks_accept?_bind (tracks_fail _ _) fun key kind => ?_
    have hkey : keyOf? (key.moved move) = keyOf? key := rfl
    simp only [hkey]
    cases keyOf? key with
    | none => exact tracks_fail _ _
    | some name =>
      refine (tracks_entryValue hself key).bind fun e => ?_
      refine tracks_accept?_bind (tracks_pure _) fun comma _ => ?_
      refine (tracks_nextIs _).bind fun _ => (tracks_pure _).ite ?_
      exact (ih comma.position).bind fun entries => tracks_pure _

theorem tracks_objectLiteral (brace : Nat) :
    Tracks move (objectLiteral self brace) (objectLiteral self (move brace)) := by
  have hclose (entries : List (String × Expr)) :
      Tracks move (do expect .rightBrace .objectEnd; return Expr.object entries)
        (do expect .rightBrace .objectEnd; return Expr.object entries) :=
    (tracks_expect _ _).bind fun _ => tracks_pure _
  refine (tracks_nextIs _).bind fun _ => Tracks.ite (hclose []) ?_
  exact tracks_count fun n => (tracks_entriesWithin hself brace n).bind hclose

omit hself in
theorem tracks_misplaced : Tracks move primary.misplaced primary.misplaced := by
  refine tracks_get_bind fun cursor => ?_
  obtain ⟨rest, depth⟩ := cursor
  cases rest with
  | nil => exact tracks_failHere _
  | cons t rest => exact tracks_fail _ _

theorem tracks_primary : Tracks move (primary self) (primary self) := by
  refine tracks_accept?_bind tracks_misplaced fun t kind => ?_
  simp only
  split
  · exact tracks_pure _
  · exact tracks_pure _
  · exact tracks_pure _
  · exact tracks_pure _
  · exact tracks_pure _
  · exact tracks_pure _
  · exact tracks_pure _
  · exact hself.bind fun e => (tracks_expect _ _).bind fun _ => tracks_pure e
  · exact (tracks_items hself _ _).bind fun es => tracks_pure _
  · exact tracks_objectLiteral hself _
  · exact tracks_misplaced

/-! ## Links and expressions -/

omit hself in
theorem tracks_propertyName : Tracks move propertyName propertyName :=
  tracks_accept?_bind (tracks_failHere _) fun _ _ => tracks_pure _

theorem tracks_link (receiver : Expr) : Tracks move (link self receiver) (link self receiver) := by
  refine tracks_accept?_bind (tracks_pure _) fun t symbol => tracks_deepen.bind fun _ => ?_
  split
  · exact (tracks_items hself _ _).bind fun arguments => tracks_pure _
  · exact hself.bind fun key => (tracks_expect _ _).bind fun _ => tracks_pure _
  · refine tracks_propertyName.bind fun name => (tracks_accept _).bind fun _ => ?_
    exact ((tracks_items hself _ _).bind fun arguments => tracks_pure _).ite (tracks_pure _)

theorem tracks_linked : Tracks move (linked self) (linked self) :=
  (tracks_primary hself).chain (tracks_link hself)

theorem tracks_binary : Tracks move (binary self) (binary self) := by
  have hlevels (levels : List Level) :
      Tracks move (levels.foldr leftChain (exponent (unary (linked self))))
        (levels.foldr leftChain (exponent (unary (linked self)))) := by
    induction levels with
    | nil => exact tracks_exponent (tracks_unary (tracks_linked hself))
    | cons level levels ih => exact tracks_leftChain ih level
  exact hlevels levels

theorem tracks_conditional : Tracks move (conditional self) (conditional self) := by
  refine (tracks_binary hself).bind fun condition => (tracks_accept _).bind fun _ => ?_
  refine Tracks.ite ?_ (tracks_pure _)
  refine hself.bind fun consequent => (tracks_expect _ _).bind fun _ => ?_
  exact hself.bind fun alternate => tracks_pure _

end

/-- **The parser tracks moved tokens and higher limits.** -/
theorem tracks_expression (move : Nat → Nat) (n : Nat) :
    Tracks move (expression n) (expression n) := by
  induction n with
  | zero => exact (tracks_failHere _).nested
  | succ n ih => exact (tracks_conditional ih).nested

end Parser

/-! ## Whole lists of tokens -/

variable {ts : List Token} {move : Nat → Nat}

/-- What a run over all tokens comes to. -/
def outcomeOf : EStateM.Result ExprError Cursor Expr → Except ExprError Expr
  | .error e _ => .error e
  | .ok e cursor =>
    match cursor.rest with
    | [] => .ok e
    | t :: _ => .error (.syntactic t.position (.unexpectedToken t.lexeme))

theorem parseTokens_eq_outcomeOf (hts : ts ≠ []) (maxDepth : Nat) :
    parseTokens ts maxDepth =
      outcomeOf (Parser.expression ts.length ⟨maxDepth, stopOf ts⟩ ⟨ts, 0⟩) :=
  parseTokens_of_ne_nil hts maxDepth

theorem outcomeOf_movedAnswer (answer : EStateM.Result ExprError Cursor Expr) :
    outcomeOf (Parser.movedAnswer move answer) = (outcomeOf answer).mapError (·.moved move) := by
  cases answer with
  | error e cursor => rfl
  | ok e cursor =>
    obtain ⟨rest, depth⟩ := cursor
    cases rest <;> rfl

/-- **The outcome is moved with the tokens**: under the same limit the same expression, or the same
error where its token is now. -/
theorem mapError_moved_parseTokens (hts : ts ≠ []) (move : Nat → Nat) (maxDepth : Nat) :
    (parseTokens ts maxDepth).mapError (·.moved move) =
      outcomeOf (Parser.expression ts.length ⟨maxDepth, move (stopOf ts)⟩
        (Cursor.moved move ⟨ts, 0⟩)) := by
  rcases Parser.tracks_expression move ts.length ⟨maxDepth, stopOf ts⟩
    ⟨maxDepth, move (stopOf ts)⟩ ⟨ts, 0⟩ rfl (Nat.le_refl _) with ⟨hlt, -⟩ | hsame
  · exact absurd hlt (Nat.lt_irrefl _)
  · rw [hsame, outcomeOf_movedAnswer, parseTokens_eq_outcomeOf hts]

end TemplateExpr
