import Mathlib.Data.List.Basic
import TemplateExpr.Syntax.Expr

/-!
# The nodes of a tree

`Expr.subtrees` lists the nodes of an expression, each as the expression below it, in source order:
a node comes before what it is built from. Two measures of a tree are taken from it and from its
shape: the number of nodes, and the height, which is one for a leaf.

The names of an expression are those of its identifier nodes (`identifiers_eq_filterMap`).
-/

namespace TemplateExpr.Expr

mutual

/-- The nodes of an expression, each as the expression below it, in source order. -/
def subtrees : Expr → List Expr
  | number n => [number n]
  | string s => [string s]
  | bool b => [bool b]
  | null => [null]
  | undefined => [undefined]
  | identifier name => [identifier name]
  | binary op left right => binary op left right :: (subtrees left ++ subtrees right)
  | logical op left right => logical op left right :: (subtrees left ++ subtrees right)
  | unary op operand => unary op operand :: subtrees operand
  | conditional condition consequent alternate =>
    conditional condition consequent alternate ::
      (subtrees condition ++ subtrees consequent ++ subtrees alternate)
  | call callee arguments =>
    call callee arguments :: (subtrees callee ++ subtreesOfList arguments)
  | methodCall receiver method arguments optional =>
    methodCall receiver method arguments optional ::
      (subtrees receiver ++ subtreesOfList arguments)
  | field receiver name optional => field receiver name optional :: subtrees receiver
  | index receiver key => index receiver key :: (subtrees receiver ++ subtrees key)
  | array elements => array elements :: subtreesOfList elements
  | object entries => object entries :: subtreesOfEntries entries

/-- The nodes of a list of expressions. -/
def subtreesOfList : List Expr → List Expr
  | [] => []
  | e :: es => subtrees e ++ subtreesOfList es

/-- The nodes of the values of object entries. -/
def subtreesOfEntries : List (String × Expr) → List Expr
  | [] => []
  | (_, e) :: entries => subtrees e ++ subtreesOfEntries entries

end

/-- The number of nodes. -/
def nodes (e : Expr) : Nat := e.subtrees.length

mutual

/-- The number of nodes on the longest way from the root to a leaf. -/
def height : Expr → Nat
  | number _ | string _ | bool _ | null | undefined | identifier _ => 1
  | binary _ left right => max (height left) (height right) + 1
  | logical _ left right => max (height left) (height right) + 1
  | unary _ operand => height operand + 1
  | conditional condition consequent alternate =>
    max (height condition) (max (height consequent) (height alternate)) + 1
  | call callee arguments => max (height callee) (heightOfList arguments) + 1
  | methodCall receiver _ arguments _ => max (height receiver) (heightOfList arguments) + 1
  | field receiver _ _ => height receiver + 1
  | index receiver key => max (height receiver) (height key) + 1
  | array elements => heightOfList elements + 1
  | object entries => heightOfEntries entries + 1

/-- The greatest height in a list of expressions. -/
def heightOfList : List Expr → Nat
  | [] => 0
  | e :: es => max (height e) (heightOfList es)

/-- The greatest height of the values of object entries. -/
def heightOfEntries : List (String × Expr) → Nat
  | [] => 0
  | (_, e) :: entries => max (height e) (heightOfEntries entries)

end

/-! ## Names -/

/-- The name of an identifier node. -/
def name? : Expr → Option String
  | identifier name => some name
  | _ => none

theorem name?_eq_some {e : Expr} {name : String} : e.name? = some name ↔ e = identifier name := by
  cases e <;> simp [name?]

mutual

theorem identifiers_eq_filterMap : ∀ e : Expr, e.identifiers = e.subtrees.filterMap name?
  | .number _ | .string _ | .bool _ | .null | .undefined | .identifier _ => by
    simp [identifiers, subtrees, name?]
  | .binary _ left right | .logical _ left right => by
    simp [identifiers, subtrees, List.filterMap_cons, name?, identifiers_eq_filterMap left,
      identifiers_eq_filterMap right]
  | .unary _ operand => by
    simp [identifiers, subtrees, List.filterMap_cons, name?, identifiers_eq_filterMap operand]
  | .conditional condition consequent alternate => by
    simp [identifiers, subtrees, List.filterMap_cons, name?, identifiers_eq_filterMap condition,
      identifiers_eq_filterMap consequent, identifiers_eq_filterMap alternate]
  | .call callee arguments => by
    simp [identifiers, subtrees, List.filterMap_cons, name?, identifiers_eq_filterMap callee,
      identifiersOfList_eq_filterMap arguments]
  | .methodCall receiver _ arguments _ => by
    simp [identifiers, subtrees, List.filterMap_cons, name?, identifiers_eq_filterMap receiver,
      identifiersOfList_eq_filterMap arguments]
  | .field receiver _ _ => by
    simp [identifiers, subtrees, List.filterMap_cons, name?, identifiers_eq_filterMap receiver]
  | .index receiver key => by
    simp [identifiers, subtrees, List.filterMap_cons, name?, identifiers_eq_filterMap receiver,
      identifiers_eq_filterMap key]
  | .array elements => by
    simp [identifiers, subtrees, List.filterMap_cons, name?,
      identifiersOfList_eq_filterMap elements]
  | .object entries => by
    simp [identifiers, subtrees, List.filterMap_cons, name?,
      identifiersOfEntries_eq_filterMap entries]

theorem identifiersOfList_eq_filterMap :
    ∀ es : List Expr, identifiersOfList es = (subtreesOfList es).filterMap name?
  | [] => rfl
  | e :: es => by
    simp [identifiersOfList, subtreesOfList, identifiers_eq_filterMap e,
      identifiersOfList_eq_filterMap es]

theorem identifiersOfEntries_eq_filterMap :
    ∀ entries : List (String × Expr),
      identifiersOfEntries entries = (subtreesOfEntries entries).filterMap name?
  | [] => rfl
  | (_, e) :: entries => by
    simp [identifiersOfEntries, subtreesOfEntries, identifiers_eq_filterMap e,
      identifiersOfEntries_eq_filterMap entries]

end

theorem mem_identifiers {e : Expr} {name : String} :
    name ∈ e.identifiers ↔ identifier name ∈ e.subtrees := by
  rw [identifiers_eq_filterMap, List.mem_filterMap]
  constructor
  · rintro ⟨node, hnode, hname⟩
    exact name?_eq_some.mp hname ▸ hnode
  · intro h
    exact ⟨_, h, rfl⟩

theorem mem_referencedNames {e : Expr} {name : String} :
    name ∈ e.referencedNames ↔ name ∈ e.identifiers := List.mem_eraseDups

/-- Leaving out one item keeps the order of the first places of all others. -/
theorem idxOf_lt_of_filter {a b c : String} (hb : b ≠ a) (hc : c ≠ a) {names : List String}
    (h : (names.filter fun name => !name == a).idxOf b <
      (names.filter fun name => !name == a).idxOf c) :
    names.idxOf b < names.idxOf c := by
  induction names with
  | nil => simp at h
  | cons name names ih =>
    by_cases ha : name = a
    · subst ha
      rw [List.filter_cons_of_neg (by simp)] at h
      rw [List.idxOf_cons_ne _ hb.symm, List.idxOf_cons_ne _ hc.symm]
      exact Nat.succ_lt_succ (ih h)
    · rw [List.filter_cons_of_pos (by simpa using ha)] at h
      by_cases hnb : name = b
      · subst hnb
        by_cases hnc : name = c
        · subst hnc
          simp at h
        · simp [List.idxOf_cons_ne _ hnc]
      · by_cases hnc : name = c
        · subst hnc
          simp at h
        · rw [List.idxOf_cons_ne _ hnb, List.idxOf_cons_ne _ hnc] at h ⊢
          exact Nat.succ_lt_succ (ih (Nat.lt_of_succ_lt_succ h))

/-- Removing repetitions keeps the first place of every item. -/
theorem pairwise_idxOf_eraseDups (names : List String) :
    names.eraseDups.Pairwise fun a b => names.idxOf a < names.idxOf b := by
  match names with
  | [] => exact List.Pairwise.nil
  | name :: names =>
    have hrest := pairwise_idxOf_eraseDups (names.filter fun other => !other == name)
    have hne : ∀ {other}, other ∈ (names.filter fun other => !other == name).eraseDups →
        other ≠ name := by
      intro other hother
      simpa using (List.mem_filter.mp (List.mem_eraseDups.mp hother)).2
    rw [List.eraseDups_cons, List.pairwise_cons]
    refine ⟨fun other hother => ?_, ?_⟩
    · rw [List.idxOf_cons_self, List.idxOf_cons_ne _ (hne hother).symm]
      exact Nat.succ_pos _
    · refine hrest.imp_of_mem fun {a b} ha hb hlt => ?_
      rw [List.idxOf_cons_ne _ (hne ha).symm, List.idxOf_cons_ne _ (hne hb).symm]
      exact Nat.succ_lt_succ (idxOf_lt_of_filter (hne ha) (hne hb) hlt)
termination_by names.length
decreasing_by
  exact Nat.lt_succ_of_le (List.length_filter_le _ _)

theorem nodup_referencedNames (e : Expr) : e.referencedNames.Nodup := by
  refine (pairwise_idxOf_eraseDups e.identifiers).imp fun {a b} hlt hab => ?_
  rw [hab] at hlt
  exact Nat.lt_irrefl _ hlt

end TemplateExpr.Expr
