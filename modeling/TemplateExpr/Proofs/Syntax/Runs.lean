import TemplateExpr.Proofs.Stateful
import TemplateExpr.Proofs.Syntax.Grammar
import TemplateExpr.Syntax.Parser

/-!
# Running a parser

`Parser.Ends` says what a run of a parser ends with: one condition for a result with the cursor
behind it, and one for an error. Each step and each way to put parsers together has one rule, an
equivalence as far as nothing is given up, so that a statement about a parser is taken apart by
rewriting along its text.
-/

namespace TemplateExpr

namespace Parser

variable {α β : Type} {bounds : Bounds} {cursor : Cursor}

/-- A run ends with a result and a cursor, or with an error, that meet the given conditions. -/
def Ends (p : Parser α) (bounds : Bounds) (cursor : Cursor) (done : α → Cursor → Prop)
    (failed : ExprError → Prop) : Prop :=
  match p bounds cursor with
  | .ok a cursor => done a cursor
  | .error e _ => failed e

theorem Ends.mono {p : Parser α} {done done' : α → Cursor → Prop}
    {failed failed' : ExprError → Prop} (h : Ends p bounds cursor done failed)
    (hdone : ∀ a cursor, done a cursor → done' a cursor)
    (hfailed : ∀ e, failed e → failed' e) : Ends p bounds cursor done' failed' := by
  unfold Ends at h ⊢
  split at h
  · rename_i a cursor' hrun
    exact hdone a cursor' h
  · rename_i e cursor' hrun
    exact hfailed e h

theorem Ends.imp {p : Parser α} {done done' : α → Cursor → Prop} {failed : ExprError → Prop}
    (h : Ends p bounds cursor done failed) (hdone : ∀ a cursor, done a cursor → done' a cursor) :
    Ends p bounds cursor done' failed := h.mono hdone fun _ he => he

theorem ends_of_eq_ok {p : Parser α} {now : Cursor} {a : α} {done : α → Cursor → Prop}
    {failed : ExprError → Prop} (h : p bounds cursor = .ok a now) :
    Ends p bounds cursor done failed ↔ done a now := by
  unfold Ends
  rw [h]

theorem ends_of_eq_error {p : Parser α} {now : Cursor} {e : ExprError}
    {done : α → Cursor → Prop} {failed : ExprError → Prop} (h : p bounds cursor = .error e now) :
    Ends p bounds cursor done failed ↔ failed e := by
  unfold Ends
  rw [h]

section Rules

variable {done : α → Cursor → Prop} {doneB : β → Cursor → Prop} {failed : ExprError → Prop}

@[simp] theorem ends_pure {a : α} :
    Ends (pure a) bounds cursor done failed ↔ done a cursor := Iff.rfl

@[simp] theorem ends_throw {e : ExprError} :
    Ends (throw e : Parser α) bounds cursor done failed ↔ failed e := Iff.rfl

@[simp] theorem ends_bind {p : Parser α} {f : α → Parser β} :
    Ends (p >>= f) bounds cursor doneB failed ↔
      Ends p bounds cursor (fun a cursor => Ends (f a) bounds cursor doneB failed) failed := by
  unfold Ends
  rw [run_bind]
  cases p bounds cursor <;> rfl

@[simp] theorem ends_map {p : Parser α} {f : α → β} :
    Ends (f <$> p) bounds cursor doneB failed ↔
      Ends p bounds cursor (fun a => doneB (f a)) failed := by
  unfold Ends
  rw [run_map]
  cases p bounds cursor <;> rfl

@[simp] theorem ends_get {done : Cursor → Cursor → Prop} :
    Ends get bounds cursor done failed ↔ done cursor cursor := Iff.rfl

@[simp] theorem ends_read {done : Bounds → Cursor → Prop} :
    Ends read bounds cursor done failed ↔ done bounds cursor := Iff.rfl

@[simp] theorem ends_set {now : Cursor} {done : PUnit → Cursor → Prop} :
    Ends (set now) bounds cursor done failed ↔ done ⟨⟩ now := Iff.rfl

@[simp] theorem ends_modify {f : Cursor → Cursor} {done : PUnit → Cursor → Prop} :
    Ends (modify f) bounds cursor done failed ↔ done ⟨⟩ (f cursor) := Iff.rfl

@[simp] theorem ends_ite {c : Prop} [Decidable c] {p q : Parser α} :
    Ends (if c then p else q) bounds cursor done failed ↔
      if c then Ends p bounds cursor done failed else Ends q bounds cursor done failed := by
  split <;> rfl

@[simp] theorem ends_fail {position : Nat} {cause : SyntaxCause} :
    Ends (fail position cause : Parser α) bounds cursor done failed ↔
      failed (.syntactic position cause) := Iff.rfl

end Rules

/-! ## Steps of the parser -/

section Steps

variable {done : α → Cursor → Prop} {failed : ExprError → Prop} {t : Token} {rest : List Token}
  {depth : Nat} {symbol : Symbol} {cause : SyntaxCause}

/-- No suitable token comes next. -/
def Rejects (suitable? : TokenKind → Option α) (ts : List Token) : Prop :=
  ∀ t ∈ ts.head?, suitable? t.kind = none

@[simp] theorem ends_failHere :
    Ends (failHere cause : Parser α) bounds cursor done failed ↔
      failed (.syntactic ((cursor.rest.head?.map Token.position).getD bounds.stop) cause) := by
  unfold failHere
  rw [ends_bind, ends_get]
  cases cursor.rest with
  | nil => rw [ends_bind, ends_read, ends_fail]; rfl
  | cons t rest => rw [ends_fail]; rfl

theorem run_deepen (bounds : Bounds) (cursor : Cursor) :
    deepen bounds cursor =
      if bounds.maxDepth < cursor.depth + 1 then
        .error (.exhausted bounds.maxDepth) { cursor with depth := cursor.depth + 1 }
      else .ok ⟨⟩ { cursor with depth := cursor.depth + 1 } := by
  show (if bounds.maxDepth < cursor.depth + 1 then _ else _ : Parser PUnit) bounds _ = _
  split <;> rfl

@[simp] theorem ends_deepen {done : PUnit → Cursor → Prop} :
    Ends deepen bounds cursor done failed ↔
      if bounds.maxDepth < cursor.depth + 1 then failed (.exhausted bounds.maxDepth)
      else done ⟨⟩ { cursor with depth := cursor.depth + 1 } := by
  simp [deepen]

@[simp] theorem ends_nested {p : Parser α} :
    Ends (nested p) bounds cursor done failed ↔
      if bounds.maxDepth < cursor.depth + 1 then failed (.exhausted bounds.maxDepth)
      else Ends p bounds { cursor with depth := cursor.depth + 1 }
        (fun a cursor => done a { cursor with depth := cursor.depth - 1 }) failed := by
  refine ends_bind.trans ?_
  rw [ends_deepen]
  refine (if_congr Iff.rfl rfl (propext ?_)).to_iff
  unfold Ends
  simp only
  cases p bounds { cursor with depth := cursor.depth + 1 } <;> rfl

theorem ends_chain {first : Parser α} {more : α → Parser (Option α)} :
    Ends (chain first more) bounds cursor done failed ↔
      Ends first bounds cursor (fun a cursor =>
        Ends (chain.rounds more cursor.rest.length a) bounds cursor
          (fun a now => done a { now with depth := cursor.depth }) failed) failed := by
  simp [chain]

theorem ends_accept? {suitable? : TokenKind → Option β}
    {done : Option (Token × β) → Cursor → Prop} (hnone : Rejects suitable? cursor.rest →
      done none cursor)
    (hsome : ∀ t rest b, cursor.rest = t :: rest → suitable? t.kind = some b →
      done (some (t, b)) { cursor with rest }) :
    Ends (accept? suitable?) bounds cursor done failed := by
  unfold accept?
  rw [ends_bind, ends_get]
  cases hrest : cursor.rest with
  | nil => 
    simp only
    rw [ends_pure]
    exact hnone (by simp [Rejects, hrest])
  | cons t rest =>
    simp only
    cases hkind : suitable? t.kind with
    | none => 
      simp only
      rw [ends_pure]
      exact hnone (by simp [Rejects, hrest, hkind])
    | some b =>
      simp only
      rw [ends_bind, ends_set, ends_pure]
      exact hsome t rest b hrest hkind

/-- The kinds of tokens that are the given symbol. -/
theorem rejects_symbol_iff {ts : List Token} :
    Rejects (fun kind => if kind = .symbol symbol then some () else none) ts ↔
      ¬ Grammar.StartsWith symbol ts := by
  simp [Rejects, Grammar.StartsWith, Token.Is]

theorem symbol_eq_some_iff {t : Token} :
    (if t.kind = .symbol symbol then some () else none) = some () ↔ t.Is symbol := by
  simp [Token.Is]

theorem ends_accept {done : Bool → Cursor → Prop}
    (hfalse : ¬ Grammar.StartsWith symbol cursor.rest → done false cursor)
    (htrue : ∀ t rest, cursor.rest = t :: rest → t.Is symbol → done true { cursor with rest }) :
    Ends (accept symbol) bounds cursor done failed := by
  unfold accept
  rw [ends_bind]
  refine ends_accept? (fun h => ?_) (fun t rest _ hrest hkind => ?_)
  · exact hfalse (rejects_symbol_iff.mp h)
  · exact htrue t rest hrest (symbol_eq_some_iff.mp hkind)

theorem ends_nextIs {done : Bool → Cursor → Prop}
    (hfalse : ¬ Grammar.StartsWith symbol cursor.rest → done false cursor)
    (htrue : Grammar.StartsWith symbol cursor.rest → done true cursor) :
    Ends (nextIs symbol) bounds cursor done failed := by
  unfold nextIs
  rw [ends_bind, ends_get, ends_pure]
  cases hrest : cursor.rest with
  | nil => exact hfalse (by rw [hrest]; exact Grammar.not_startsWith_nil)
  | cons t rest =>
    rw [hrest, Grammar.startsWith_cons] at hfalse htrue
    by_cases hsymbol : t.kind = .symbol symbol
    · simpa [hsymbol] using htrue hsymbol
    · simpa [hsymbol] using hfalse hsymbol

theorem ends_expect {done : PUnit → Cursor → Prop}
    (htrue : ∀ t rest, cursor.rest = t :: rest → t.Is symbol → done ⟨⟩ { cursor with rest })
    (hfalse : ∀ position, failed (.syntactic position cause)) :
    Ends (expect symbol cause) bounds cursor done failed := by
  unfold expect
  rw [ends_bind]
  refine ends_accept (fun _ => ?_) (fun t rest hrest hsymbol => ?_)
  · simpa using hfalse _
  · simpa using htrue t rest hrest hsymbol

end Steps

/-! ## Steps whose outcome is known -/

section Known

variable {failed : ExprError → Prop} {t : Token} {rest : List Token} {depth : Nat}
  {symbol : Symbol}

theorem ends_accept?_none {suitable? : TokenKind → Option β}
    {done : Option (Token × β) → Cursor → Prop} (h : Rejects suitable? cursor.rest)
    (hdone : done none cursor) : Ends (accept? suitable?) bounds cursor done failed := by
  refine ends_accept? (fun _ => hdone) fun t rest b hrest hkind => ?_
  rw [Rejects, hrest] at h
  rw [h t rfl] at hkind
  cases hkind

theorem ends_accept?_some {suitable? : TokenKind → Option β} {b : β}
    {done : Option (Token × β) → Cursor → Prop} (h : suitable? t.kind = some b)
    (hdone : done (some (t, b)) ⟨rest, depth⟩) :
    Ends (accept? suitable?) bounds ⟨t :: rest, depth⟩ done failed := by
  refine ends_accept? (fun hnone => ?_) fun t' rest' b' hrest hkind => ?_
  · rw [hnone t rfl] at h
    cases h
  · cases hrest
    rw [h] at hkind
    cases hkind
    exact hdone

theorem ends_accept_false {done : Bool → Cursor → Prop}
    (h : ¬ Grammar.StartsWith symbol cursor.rest) (hdone : done false cursor) :
    Ends (accept symbol) bounds cursor done failed := by
  refine ends_accept (fun _ => hdone) fun t rest hrest hsymbol => ?_
  rw [hrest, Grammar.startsWith_cons] at h
  exact absurd hsymbol h

theorem ends_accept_true {done : Bool → Cursor → Prop} (h : t.Is symbol)
    (hdone : done true ⟨rest, depth⟩) :
    Ends (accept symbol) bounds ⟨t :: rest, depth⟩ done failed := by
  refine ends_accept (fun hfalse => absurd (Grammar.startsWith_cons.mpr h) hfalse) ?_
  intro _ _ hrest _
  cases hrest
  exact hdone

theorem ends_nextIs_false {done : Bool → Cursor → Prop}
    (h : ¬ Grammar.StartsWith symbol cursor.rest) (hdone : done false cursor) :
    Ends (nextIs symbol) bounds cursor done failed :=
  ends_nextIs (fun _ => hdone) fun htrue => absurd htrue h

theorem ends_nextIs_true {done : Bool → Cursor → Prop}
    (h : Grammar.StartsWith symbol cursor.rest) (hdone : done true cursor) :
    Ends (nextIs symbol) bounds cursor done failed :=
  ends_nextIs (fun hfalse => absurd h hfalse) fun _ => hdone

theorem ends_expect_is {cause : SyntaxCause} {done : PUnit → Cursor → Prop} (h : t.Is symbol)
    (hdone : done ⟨⟩ ⟨rest, depth⟩) :
    Ends (expect symbol cause) bounds ⟨t :: rest, depth⟩ done failed := by
  rw [expect, ends_bind]
  exact ends_accept_true h hdone

end Known

end Parser

end TemplateExpr
