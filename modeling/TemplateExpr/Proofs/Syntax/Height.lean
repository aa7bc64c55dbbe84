import Mathlib.Order.Monotone.Basic
import Mathlib.Tactic.Ring
import TemplateExpr.Proofs.Syntax.Lookahead
import TemplateExpr.Proofs.Syntax.Runs
import TemplateExpr.Proofs.Syntax.Tree

/-!
# How high a parsed expression can be

The limit on nesting is no limit on the height of the tree. A chain gives its levels back when it is
complete, so an operand that took all of them can stand in a chain of the next tier, which takes all
of them again. Eight chains can stand on one another in this way, one of links and one for each
tier, before an expression in parentheses or brackets has to go one level deeper. So the height grows
with the square of the limit (`heightCap_add_self`), and with nothing else.

Every function of the parser is specified by how high its result can be for the levels that are left
(`Builds`), and each step of a chain by what it adds (`Adds`).
-/

namespace TemplateExpr

/-- The levels of nesting that are left at a depth. -/
def Bounds.room (bounds : Bounds) (depth : Nat) : Nat := bounds.maxDepth - depth

/-- An operator is one node above its operands. -/
theorem Grammar.Tier.height_operator {tier : Tier} :
    ∀ operator ∈ tier.operators, ∀ left right : Expr,
      (operator.2 left right).height = max left.height right.height + 1 := by
  cases tier <;> simp [operators, Expr.height]

namespace Parser

/-- How high an expression can be that takes no more than the given number of levels. -/
def heightCap : Nat → Nat
  | 0 => 1
  | room + 1 => heightCap room + 8 * room + 3

theorem heightCap_add_self (room : Nat) : heightCap room + room = 4 * room * room + 1 := by
  induction room with
  | zero => rfl
  | succ room ih =>
    have hsquare : 4 * (room + 1) * (room + 1) = 4 * room * room + 8 * room + 4 := by ring
    rw [heightCap, hsquare]
    omega

theorem strictMono_heightCap : StrictMono heightCap :=
  strictMono_nat_of_lt_succ fun room => by
    rw [heightCap]
    omega

theorem heightCap_pos (room : Nat) : 0 < heightCap room :=
  Nat.lt_of_lt_of_le Nat.one_pos (strictMono_heightCap.monotone (Nat.zero_le room))

variable {α β : Type} {bounds : Bounds} {cursor : Cursor} {height : α → Nat} {cap cap' : Nat → Nat}

/-! ## Nesting -/

/-- A parser leaves the depth as it was, and what it builds is no higher than the levels that are
left allow. -/
def Builds (height : α → Nat) (cap : Nat → Nat) (p : Parser α) : Prop :=
  ∀ bounds cursor, Ends p bounds cursor
    (fun a now => now.depth = cursor.depth ∧ height a ≤ cap (bounds.room cursor.depth))
    fun _ => True

section

variable {p : Parser α} {done : α → Cursor → Prop}

theorem Builds.ends (h : Builds height cap p)
    (hdone : ∀ a now, now.depth = cursor.depth → height a ≤ cap (bounds.room cursor.depth) →
      done a now) :
    Ends p bounds cursor done fun _ => True :=
  (h bounds cursor).imp fun a now hnow => hdone a now hnow.1 hnow.2

theorem Builds.imp (h : Builds height cap p) (hcap : ∀ room, cap room ≤ cap' room) :
    Builds height cap' p := by
  intro bounds cursor
  exact h.ends fun a now hdepth hheight => ⟨hdepth, hheight.trans (hcap _)⟩

theorem ends_failHere_any {cause : SyntaxCause} :
    Ends (failHere cause) bounds cursor done fun _ => True := ends_failHere.mpr trivial

/-- Going deeper takes one of the levels that are left. -/
theorem ends_deepen_room {done : PUnit → Cursor → Prop}
    (hdone : bounds.room cursor.depth = bounds.room (cursor.depth + 1) + 1 →
      done ⟨⟩ { cursor with depth := cursor.depth + 1 }) :
    Ends deepen bounds cursor done fun _ => True := by
  rw [ends_deepen]
  split
  · trivial
  · refine hdone ?_
    unfold Bounds.room
    omega

/-- A nested parser has one level less. -/
theorem Builds.ends_nested (h : Builds height cap p)
    (hdone : ∀ a now room, bounds.room cursor.depth = room + 1 → now.depth = cursor.depth →
      height a ≤ cap room → done a now) :
    Ends (nested p) bounds cursor done fun _ => True := by
  rw [Parser.ends_nested]
  split
  · trivial
  · refine h.ends fun a now hdepth hheight => hdone a _ _ ?_ ?_ hheight
    · simp only [Bounds.room]
      omega
    · rw [hdepth, Nat.add_sub_cancel]

end

/-! ## Chains -/

/-- One step of a chain goes one level deeper, and adds a node to what is there and to what else it
is built from. -/
def Adds (cap : Nat → Nat) (step : Expr → Parser (Option Expr)) : Prop :=
  ∀ bounds cursor e, Ends (step e) bounds cursor
    (fun next? now => ∀ next ∈ next?,
      bounds.room cursor.depth = bounds.room now.depth + 1 ∧
        next.height ≤ max e.height (cap (bounds.room cursor.depth)) + 1)
    fun _ => True

/-- A chain has at most as many steps as there are levels left. -/
theorem Adds.rounds {step : Expr → Parser (Option Expr)} (hstep : Adds cap step)
    (hcap : Monotone cap) (n : Nat) {e : Expr} :
    Ends (chain.rounds step n e) bounds cursor
      (fun a _ => a.height ≤
        max e.height (cap (bounds.room cursor.depth)) + bounds.room cursor.depth)
      fun _ => True := by
  induction n generalizing cursor e with
  | zero =>
    rw [chain.rounds, ends_pure]
    omega
  | succ n ih =>
    rw [chain.rounds, ends_bind]
    refine (hstep bounds cursor e).imp ?_
    rintro (_ | next) now hnext
    · exact ends_pure.mpr (by omega)
    · obtain ⟨hroom, hheight⟩ := hnext next rfl
      refine ih.imp fun a _ ha => ?_
      have hless : cap (bounds.room now.depth) ≤ cap (bounds.room cursor.depth) :=
        hcap (by omega)
      omega

theorem Builds.chain {first : Parser Expr} {step : Expr → Parser (Option Expr)}
    (hfirst : Builds Expr.height cap first) (hstep : Adds cap step) (hcap : Monotone cap) :
    Builds Expr.height (fun room => cap room + room) (chain first step) := by
  intro bounds cursor
  rw [ends_chain]
  refine hfirst.ends fun a now hdepth hheight => ?_
  refine (hstep.rounds hcap _).imp fun e _ he => ?_
  rw [hdepth, max_eq_right hheight] at he
  exact ⟨hdepth, he⟩

/-! ## Operators -/

theorem adds_operatorStep {tier : Grammar.Tier} {operand : Parser Expr}
    (hoperand : Builds Expr.height cap operand) (hcap : Monotone cap) :
    Adds cap (operatorStep tier operand) := by
  intro bounds cursor left
  rw [operatorStep, ends_bind]
  refine ends_accept? (fun _ => ?_) ?_
  · exact ends_pure.mpr fun _ hnone => by cases hnone
  · intro operator rest build _ hkind
    obtain ⟨symbol, -, hbuild⟩ := ofKind?_level_eq_some_iff.mp hkind
    simp only
    rw [ends_bind]
    refine ends_deepen_room fun hroom => ?_
    rw [ends_bind]
    refine hoperand.ends fun right now hdepth hright => ?_
    rw [ends_pure]
    intro next hnext
    cases hnext
    have hless : cap (bounds.room (cursor.depth + 1)) ≤ cap (bounds.room cursor.depth) :=
      hcap (by simp only at hroom; omega)
    refine ⟨by rw [hdepth]; exact hroom, ?_⟩
    rw [Grammar.Tier.height_operator _ hbuild]
    have hright : right.height ≤ cap (bounds.room (cursor.depth + 1)) := hright
    omega

theorem builds_leftChain {tier : Grammar.Tier} {operand : Parser Expr}
    (hoperand : Builds Expr.height cap operand) (hcap : Monotone cap) :
    Builds Expr.height (fun room => cap room + room) (leftChain tier.level operand) := by
  rw [leftChain_eq_chain]
  exact hoperand.chain (adds_operatorStep hoperand hcap) hcap

/-- Signs take a level each, which the operand behind them then lacks. -/
theorem builds_unaryWithin {operand : Parser Expr} (hoperand : Builds Expr.height cap operand)
    (hcap : StrictMono cap) (n : Nat) : Builds Expr.height cap (unaryWithin operand n) := by
  induction n with
  | zero => exact fun _ _ => ends_failHere_any
  | succ n ih =>
    intro bounds cursor
    rw [unaryWithin, ends_bind]
    refine ends_accept? (fun _ => hoperand bounds cursor) ?_
    intro t rest op _ _
    simp only
    rw [ends_bind]
    refine ih.ends_nested fun e now room hroom hdepth hheight => ?_
    rw [ends_pure]
    have hless : cap room < cap (room + 1) := hcap (Nat.lt_succ_self room)
    refine ⟨hdepth, ?_⟩
    rw [hroom, Expr.height]
    omega

theorem builds_unary {operand : Parser Expr} (hoperand : Builds Expr.height cap operand)
    (hcap : StrictMono cap) : Builds Expr.height cap (unary operand) := by
  intro bounds cursor
  rw [unary, ends_bind, ends_get]
  exact builds_unaryWithin hoperand hcap _ bounds cursor

/-- Powers take a level each, which the exponents behind them then lack. -/
theorem builds_exponentWithin {operand : Parser Expr} (hoperand : Builds Expr.height cap operand)
    (hcap : StrictMono cap) (n : Nat) :
    Builds Expr.height (fun room => cap room + 1) (exponentWithin operand n) := by
  induction n with
  | zero => exact fun _ _ => ends_failHere_any
  | succ n ih =>
    intro bounds cursor
    rw [exponentWithin, ends_bind]
    refine hoperand.ends fun base now hdepth hbase => ?_
    rw [ends_bind]
    refine ends_accept (fun _ => ?_) fun t rest _ _ => ?_
    · exact ends_pure.mpr ⟨hdepth, hbase.trans (Nat.le_succ _)⟩
    · simp only [if_true]
      rw [ends_bind]
      refine ih.ends_nested fun exponent now' room hroom hdepth' hexponent => ?_
      rw [ends_pure]
      simp only [hdepth] at hroom hdepth'
      have hless : cap room < cap (room + 1) := hcap (Nat.lt_succ_self room)
      refine ⟨hdepth', ?_⟩
      rw [hroom] at hbase ⊢
      rw [Expr.height]
      omega

theorem builds_exponent {operand : Parser Expr} (hoperand : Builds Expr.height cap operand)
    (hcap : StrictMono cap) :
    Builds Expr.height (fun room => cap room + 1) (exponent operand) := by
  intro bounds cursor
  rw [exponent, ends_bind, ends_get]
  exact builds_exponentWithin hoperand hcap _ bounds cursor

/-! ## Lists and literals -/

section

variable {self : Parser Expr} (hself : Builds Expr.height heightCap self)
include hself

theorem builds_itemsWithin {closing : Symbol} (n : Nat) :
    Builds Expr.heightOfList heightCap (itemsWithin self closing n) := by
  induction n with
  | zero =>
    intro bounds cursor
    rw [itemsWithin, ends_bind]
    refine hself.ends fun e now hdepth hheight => ?_
    rw [ends_pure]
    simpa [Expr.heightOfList] using ⟨hdepth, hheight⟩
  | succ n ih =>
    intro bounds cursor
    rw [itemsWithin, ends_bind]
    refine hself.ends fun e now hdepth hheight => ?_
    have hlast : now.depth = cursor.depth ∧
        Expr.heightOfList [e] ≤ heightCap (bounds.room cursor.depth) := by
      simpa [Expr.heightOfList] using ⟨hdepth, hheight⟩
    rw [ends_bind]
    refine ends_accept (fun _ => hlast) fun t rest _ _ => ?_
    simp only [if_true]
    rw [ends_bind]
    refine ends_nextIs (fun _ => ?_) fun _ => hlast
    refine ends_bind.mpr (ih.ends fun es now' hdepth' hes => ?_)
    simp only [hdepth] at hdepth' hes
    rw [ends_pure, Expr.heightOfList]
    exact ⟨hdepth', max_le hheight hes⟩

theorem builds_items {closing : Symbol} {cause : SyntaxCause} :
    Builds Expr.heightOfList heightCap (items self closing cause) := by
  intro bounds cursor
  have hclose : ∀ (now : Cursor) es, now.depth = cursor.depth →
      Expr.heightOfList es ≤ heightCap (bounds.room cursor.depth) →
      Ends (do expect closing cause; return es) bounds now
        (fun es now => now.depth = cursor.depth ∧
          Expr.heightOfList es ≤ heightCap (bounds.room cursor.depth)) fun _ => True := by
    intro now es hdepth hes
    rw [ends_bind]
    exact ends_expect (fun t rest _ _ => ⟨hdepth, hes⟩) fun _ => trivial
  rw [items, ends_bind]
  refine ends_nextIs (fun _ => ?_) fun _ => ?_
  · simp only [Bool.false_eq_true, if_false]
    rw [ends_bind, ends_get, ends_bind]
    exact (builds_itemsWithin hself _).ends fun es now hdepth hes => hclose now es hdepth hes
  · exact hclose cursor [] rfl (Nat.zero_le _)

/-- The value of a short entry is a node that no level is taken for. -/
theorem builds_entryValue (key : Token) : Builds Expr.height heightCap (entryValue self key) := by
  intro bounds cursor
  rw [entryValue, ends_bind]
  refine ends_accept (fun _ => ?_) fun t rest _ _ => ?_
  · simp only [Bool.false_eq_true, if_false]
    split
    · exact ends_pure.mpr ⟨rfl, heightCap_pos _⟩
    · exact ends_failHere_any
  · exact hself bounds { cursor with rest }

theorem builds_entriesWithin (n before : Nat) :
    Builds Expr.heightOfEntries heightCap (entriesWithin self before n) := by
  induction n generalizing before with
  | zero => exact fun _ _ => ends_fail.mpr trivial
  | succ n ih =>
    intro bounds cursor
    rw [entriesWithin, ends_bind]
    refine ends_accept? (fun _ => ends_fail.mpr trivial) fun key rest _ _ _ => ?_
    simp only
    cases keyOf? key with
    | none => exact ends_fail.mpr trivial
    | some name =>
      simp only
      rw [ends_bind]
      refine (builds_entryValue hself key).ends fun e now hdepth hheight => ?_
      have hlast : now.depth = cursor.depth ∧
          Expr.heightOfEntries [(name, e)] ≤ heightCap (bounds.room cursor.depth) := by
        simpa [Expr.heightOfEntries] using ⟨hdepth, hheight⟩
      rw [ends_bind]
      refine ends_accept? (fun _ => hlast) fun comma rest _ _ _ => ?_
      simp only
      rw [ends_bind]
      refine ends_nextIs (fun _ => ?_) fun _ => hlast
      refine ends_bind.mpr ((ih _).ends fun entries now' hdepth' hentries => ?_)
      simp only [hdepth] at hdepth' hentries
      rw [ends_pure, Expr.heightOfEntries]
      exact ⟨hdepth', max_le hheight hentries⟩

theorem builds_objectLiteral (brace : Nat) :
    Builds Expr.height (fun room => heightCap room + 1) (objectLiteral self brace) := by
  intro bounds cursor
  have hclose : ∀ (now : Cursor) entries, now.depth = cursor.depth →
      Expr.heightOfEntries entries ≤ heightCap (bounds.room cursor.depth) →
      Ends (do expect .rightBrace .objectEnd; return Expr.object entries) bounds now
        (fun e now => now.depth = cursor.depth ∧
          e.height ≤ heightCap (bounds.room cursor.depth) + 1) fun _ => True := by
    intro now entries hdepth hentries
    rw [ends_bind]
    refine ends_expect (fun t rest _ _ => ?_) fun _ => trivial
    rw [ends_pure, Expr.height]
    exact ⟨hdepth, Nat.succ_le_succ hentries⟩
  rw [objectLiteral, ends_bind]
  refine ends_nextIs (fun _ => ?_) fun _ => ?_
  · simp only [Bool.false_eq_true, if_false]
    rw [ends_bind, ends_get, ends_bind]
    exact (builds_entriesWithin hself _ brace).ends fun entries now hdepth hentries =>
      hclose now entries hdepth hentries
  · exact hclose cursor [] rfl (Nat.zero_le _)

theorem builds_primary : Builds Expr.height (fun room => heightCap room + 1) (primary self) := by
  have hmisplaced : ∀ {bounds : Bounds} {cursor : Cursor} {done : Expr → Cursor → Prop},
      Ends primary.misplaced bounds cursor done fun _ => True := by
    intro bounds cursor done
    rw [primary.misplaced, ends_bind, ends_get]
    cases cursor.rest with
    | nil => exact ends_failHere_any
    | cons t rest => exact ends_fail.mpr trivial
  intro bounds cursor
  have hleaf : 1 ≤ heightCap (bounds.room cursor.depth) + 1 := Nat.le_add_left _ _
  rw [primary, ends_bind]
  refine ends_accept? (fun _ => hmisplaced) fun t rest kind _ _ => ?_
  simp only
  split
  · exact ends_pure.mpr ⟨rfl, hleaf⟩
  · exact ends_pure.mpr ⟨rfl, hleaf⟩
  · exact ends_pure.mpr ⟨rfl, hleaf⟩
  · exact ends_pure.mpr ⟨rfl, hleaf⟩
  · exact ends_pure.mpr ⟨rfl, hleaf⟩
  · exact ends_pure.mpr ⟨rfl, hleaf⟩
  · exact ends_pure.mpr ⟨rfl, hleaf⟩
  · rw [ends_bind]
    refine hself.ends fun e now hdepth hheight => ?_
    rw [ends_bind]
    refine ends_expect (fun closing rest _ _ => ?_) fun _ => trivial
    exact ends_pure.mpr ⟨hdepth, hheight.trans (Nat.le_succ _)⟩
  · rw [ends_bind]
    refine (builds_items hself).ends fun es now hdepth hheight => ?_
    rw [ends_pure, Expr.height]
    exact ⟨hdepth, Nat.succ_le_succ hheight⟩
  · exact builds_objectLiteral hself t.position bounds { cursor with rest }
  · exact hmisplaced

/-! ## Links -/

theorem adds_link : Adds (fun room => heightCap room + 1) (link self) := by
  intro bounds cursor receiver
  rw [link, ends_bind]
  refine ends_accept? (fun _ => ?_) fun t rest symbol _ _ => ?_
  · exact ends_pure.mpr fun _ hnone => by cases hnone
  · simp only
    rw [ends_bind]
    refine ends_deepen_room fun hroom => ?_
    -- What a link takes in has one level less, so its own node is paid for.
    have hlink : ∀ (now : Cursor) (next : Expr) (part : Nat), now.depth = cursor.depth + 1 →
        part ≤ heightCap (bounds.room (cursor.depth + 1)) →
        next.height = max receiver.height part + 1 →
        ∀ next' ∈ some next, bounds.room cursor.depth = bounds.room now.depth + 1 ∧
          next'.height ≤
            max receiver.height (heightCap (bounds.room cursor.depth) + 1) + 1 := by
      rintro now next part hdepth hpart hheight _ ⟨⟩
      have hless : heightCap (bounds.room (cursor.depth + 1)) ≤
          heightCap (bounds.room cursor.depth) :=
        strictMono_heightCap.monotone (Nat.sub_le_sub_left (Nat.le_succ _) _)
      exact ⟨by rw [hdepth]; exact hroom, by omega⟩
    split
    · rw [ends_bind]
      refine (builds_items hself).ends fun arguments now hdepth hheight => ?_
      exact ends_pure.mpr (hlink now _ _ hdepth hheight rfl)
    · rw [ends_bind]
      refine hself.ends fun key now hdepth hheight => ?_
      rw [ends_bind]
      refine ends_expect (fun closing rest _ _ => ?_) fun _ => trivial
      exact ends_pure.mpr (hlink _ _ _ hdepth hheight rfl)
    · rw [ends_bind, propertyName, ends_bind]
      refine ends_accept? (fun _ => ends_failHere_any) fun word rest _ _ _ => ?_
      simp only
      rw [ends_pure, ends_bind]
      refine ends_accept (fun _ => ?_) fun opening rest _ _ => ?_
      · exact ends_pure.mpr (hlink _ _ 0 rfl (Nat.zero_le _) (by rw [Expr.height, Nat.max_zero]))
      · simp only [if_true]
        rw [ends_bind]
        refine (builds_items hself).ends fun arguments now hdepth hheight => ?_
        exact ends_pure.mpr (hlink now _ _ hdepth hheight rfl)

theorem builds_linked :
    Builds Expr.height (fun room => heightCap room + 1 + room) (linked self) :=
  (builds_primary hself).chain (adds_link hself)
    (strictMono_heightCap.monotone.add_const 1)

/-! ## Expressions -/

/-- Each tier can be as high as the one below with a chain of all levels on it. -/
theorem builds_operation (tiers : List Grammar.Tier) :
    Builds Expr.height (fun room => heightCap room + 2 + (tiers.length + 1) * room)
      (operation self tiers) := by
  induction tiers with
  | nil =>
    have hcap : StrictMono fun room => heightCap room + 1 + room := fun _ _ hlt =>
      Nat.add_lt_add (Nat.add_lt_add_right (strictMono_heightCap hlt) 1) hlt
    refine (builds_exponent (builds_unary (builds_linked hself) hcap) hcap).imp fun room => ?_
    simp only [List.length_nil]
    omega
  | cons tier tiers ih =>
    have hcap : Monotone fun room => heightCap room + 2 + (tiers.length + 1) * room :=
      fun _ _ hle => Nat.add_le_add (Nat.add_le_add_right (strictMono_heightCap.monotone hle) 2)
        (Nat.mul_le_mul_left _ hle)
    rw [operation_cons]
    refine (builds_leftChain ih hcap).imp fun room => ?_
    rw [List.length_cons, Nat.add_mul (tiers.length + 1) 1 room]
    omega

theorem builds_conditional :
    Builds Expr.height (fun room => heightCap (room + 1)) (conditional self) := by
  intro bounds cursor
  rw [conditional, binary_eq_operation, ends_bind]
  refine (builds_operation hself Grammar.Tier.all).ends fun condition now hdepth hcondition => ?_
  have hcondition : condition.height + 1 ≤ heightCap (bounds.room cursor.depth + 1) := by
    rw [heightCap]
    simp only [show Grammar.Tier.all.length = 7 from rfl] at hcondition
    omega
  rw [ends_bind]
  refine ends_accept (fun _ => ?_) fun question rest _ _ => ?_
  · exact ends_pure.mpr ⟨hdepth, Nat.le_of_succ_le hcondition⟩
  simp only [if_true]
  rw [ends_bind]
  refine hself.ends fun consequent now' hdepth' hconsequent => ?_
  simp only [hdepth] at hdepth' hconsequent
  rw [ends_bind]
  refine ends_expect (fun colon rest _ _ => ?_) fun _ => trivial
  rw [ends_bind]
  refine hself.ends fun alternate now'' hdepth'' halternate => ?_
  simp only [hdepth'] at hdepth'' halternate
  have hless := strictMono_heightCap (Nat.lt_succ_self (bounds.room cursor.depth))
  rw [ends_pure, Expr.height]
  exact ⟨hdepth'', by simp only [Nat.succ_eq_add_one] at hless ⊢; omega⟩

end

/-- **The parser builds no higher than the levels that are left allow.** -/
theorem builds_expression (n : Nat) : Builds Expr.height heightCap (expression n) := by
  have hnested : ∀ {p : Parser Expr}, Builds Expr.height (fun room => heightCap (room + 1)) p →
      Builds Expr.height heightCap (nested p) := by
    intro p hp bounds cursor
    refine hp.ends_nested fun e now room hroom hdepth hheight => ⟨hdepth, ?_⟩
    rwa [hroom]
  induction n with
  | zero => exact hnested fun _ _ => ends_failHere_any
  | succ n ih => exact hnested (builds_conditional ih)

/-- Without any levels there is no expression. -/
theorem ends_expression_of_maxDepth_eq_zero (n : Nat) (bounds : Bounds) (cursor : Cursor)
    (h : bounds.maxDepth = 0) :
    Ends (expression n) bounds cursor (fun _ _ => False) fun _ => True := by
  cases n <;> exact ends_nested.mpr (by rw [if_pos (by omega)]; trivial)

end Parser

variable {ts : List Token} {maxDepth : Nat} {e : Expr}

/-- The run that an accepted expression comes from. -/
theorem exists_run_of_parseTokens_eq_ok (h : parseTokens ts maxDepth = .ok e) :
    ∃ cursor, Parser.expression ts.length ⟨maxDepth, stopOf ts⟩ ⟨ts, 0⟩ = .ok e cursor := by
  unfold parseTokens at h
  split at h
  · cases h
  · split at h
    · cases h
    · rename_i e' cursor hrun
      split at h
      · cases h
        exact ⟨cursor, hrun⟩
      · cases h

theorem height_le_heightCap (h : parseTokens ts maxDepth = .ok e) :
    0 < maxDepth ∧ e.height ≤ Parser.heightCap maxDepth := by
  obtain ⟨cursor, hrun⟩ := exists_run_of_parseTokens_eq_ok h
  have hbuilds := Parser.builds_expression ts.length ⟨maxDepth, stopOf ts⟩ ⟨ts, 0⟩
  have hzero :=
    Parser.ends_expression_of_maxDepth_eq_zero ts.length ⟨maxDepth, stopOf ts⟩ ⟨ts, 0⟩
  unfold Parser.Ends at hbuilds hzero
  rw [hrun] at hbuilds hzero
  exact ⟨Nat.pos_of_ne_zero hzero, hbuilds.2⟩

/-- **The limit on nesting bounds the tree, however long its source is.** There is no expression
without levels, and none is higher than four times the square of the limit. -/
theorem parseTokens_bounds_height (ts : List Token) (maxDepth : Nat) (e : Expr)
    (h : parseTokens ts maxDepth = .ok e) : 1 ≤ maxDepth ∧ e.height ≤ 4 * maxDepth * maxDepth := by
  obtain ⟨hpos, hheight⟩ := height_le_heightCap h
  have hsquare := Parser.heightCap_add_self maxDepth
  exact ⟨hpos, by omega⟩

/-- Two levels are enough for four chains in one another, with a short entry at the bottom, which
are six nodes high. -/
theorem parseTokens_bounds_height_of_stacked_chains :
    let ts : List Token := [⟨.symbol .leftBrace, 0, "\x7b"⟩, ⟨.name "a", 1, "a"⟩,
      ⟨.symbol .rightBrace, 2, "\x7d"⟩, ⟨.symbol .dot, 3, "."⟩, ⟨.name "a", 4, "a"⟩,
      ⟨.symbol .star, 5, "*"⟩, ⟨.name "b", 6, "b"⟩, ⟨.symbol .plus, 7, "+"⟩, ⟨.name "c", 8, "c"⟩,
      ⟨.symbol .less, 9, "<"⟩, ⟨.name "d", 10, "d"⟩]
    let e : Expr := .binary .lt
      (.binary .add
        (.binary .mul (.field (.object [("a", .identifier "a")]) "a" false) (.identifier "b"))
        (.identifier "c"))
      (.identifier "d")
    parseTokens ts 2 = .ok e ∧ e.height = 6 ∧ 1 ≤ 2 ∧ e.height ≤ 4 * 2 * 2 := by
  intro ts e
  have hparse : parseTokens ts 2 = .ok e := rfl
  exact ⟨hparse, rfl, parseTokens_bounds_height ts 2 e hparse⟩

end TemplateExpr
