import TemplateExpr.Evaluator
import TemplateExpr.Proofs.Scope.Flatten

/-!
# Scopes are snapshots

A workspace holds scopes and evaluators by name, and every step of a history makes one of them or
writes to it. What a handle then reads depends on its own chain alone: the writes to it and to the
scopes around it as they were when it was made (`chain?`). The chain is traced back through the
history, over steps and not over scopes, so it does not know how a scope keeps its bindings.

* `scope?_step` — what one step does to every handle.
* `scope?_run` — after every history, the scope of a handle is what its chain wrote.
* `scopes_are_snapshots` — the readers of a scope, in terms of the chain.
-/

namespace TemplateExpr

/-- Scopes and evaluators by name. -/
structure Workspace where
  scopes : Fields Scope
  evaluators : Fields Evaluator

namespace Workspace

/-- The name of a scope or of an evaluator. -/
inductive Handle where
  | scope (id : String)
  | evaluator (id : String)
deriving DecidableEq

/-- One operation of a program. What is made takes the place of what had its name. -/
inductive Step where
  /-- Make a scope with the bindings of an object. -/
  | make (id : String) (pairs : List (String × Value))
  | set (id key : String) (value : Value)
  | extend (id : String) (pairs : List (String × Value))
  | child (id source : String) (pairs : List (String × Value))
  | clone (id source : String)
  /-- Make a copy of the scope around another one, if there is one. -/
  | parent (id source : String)
  /-- Make an evaluator over a scope. -/
  | evaluator (id source : String)
  | update (id : String) (pairs : List (String × Value))
  /-- Make an evaluator over a scope inside the one of another evaluator. -/
  | within (id source : String) (pairs : List (String × Value))
  /-- Make a copy of the scope of an evaluator. -/
  | context (id source : String)

/-- What a step makes or writes to. -/
def Step.target : Step → Handle
  | make id _ | set id _ _ | extend id _ | child id _ _ | clone id _ | parent id _
  | context id _ => .scope id
  | evaluator id _ | update id _ | within id _ _ => .evaluator id

/-- The scope of a handle; an evaluator has the scope it evaluates in. -/
def scope? (w : Workspace) : Handle → Option Scope
  | .scope id => w.scopes.get? id
  | .evaluator id => (w.evaluators.get? id).map (·.scope)

/-- The scope that a step gives its target, from the scopes before it. -/
def Step.scope? (before : Handle → Option Scope) : Step → Option Scope
  | make _ pairs => some (.ofFields (.ofPairs pairs))
  | set id key value => (before (.scope id)).map (·.set key value)
  | extend id pairs => (before (.scope id)).map (·.extend pairs)
  | child _ source pairs => (before (.scope source)).map (·.child pairs)
  | clone _ source => before (.scope source)
  | parent _ source => (before (.scope source)).bind Scope.parent?
  | evaluator _ source => before (.scope source)
  | update id pairs => (before (.evaluator id)).map (·.extend pairs)
  | within _ source pairs => (before (.evaluator source)).map (·.child pairs)
  | context _ source => before (.evaluator source)

/-- The evaluator that a step makes, if its target is one. -/
def Step.evaluator? (w : Workspace) : Step → Option Evaluator
  | evaluator _ source => (w.scopes.get? source).map Evaluator.ofScope
  | update id pairs => (w.evaluators.get? id).map (·.extend pairs)
  | within _ source pairs => (w.evaluators.get? source).map (·.child pairs)
  | _ => none

/-- Stores what was made, if anything was. -/
def keep {α : Type} (table : Fields α) (id : String) : Option α → Fields α
  | some made => table.insert id made
  | none => table

/-- The workspace after a step. A step from what does not exist leaves everything as it is. -/
def step (w : Workspace) (s : Step) : Workspace :=
  match s.target with
  | .scope id => { w with scopes := keep w.scopes id (s.scope? w.scope?) }
  | .evaluator id => { w with evaluators := keep w.evaluators id (s.evaluator? w) }

/-- The workspace after a history, which lists its steps from the latest to the first. -/
def run : List Step → Workspace
  | [] => ⟨[], []⟩
  | latest :: earlier => (run earlier).step latest

/-! ## Chains of writes -/

/-- The writes to a scope and to each of the scopes around it, the nearest first. -/
structure Chain where
  own : List (String × Value)
  outer : List (List (String × Value))

namespace Chain

/-- The writes to each scope, the innermost first. -/
def logs (chain : Chain) : List (List (String × Value)) := chain.own :: chain.outer

/-- What was written last under a name, in the innermost scope where the name was written. -/
def lookup? (chain : Chain) (name : String) : Option Value :=
  chain.logs.findSome? (Fields.lastWrite? · name)

def write (chain : Chain) (pairs : List (String × Value)) : Chain :=
  { chain with own := chain.own ++ pairs }

def inside (chain : Chain) (pairs : List (String × Value)) : Chain := ⟨pairs, chain.logs⟩

def parent? (chain : Chain) : Option Chain :=
  match chain.outer with
  | [] => none
  | own :: outer => some ⟨own, outer⟩

end Chain

/-- The chain that a step gives its target, from the chains before it. -/
def Step.chain? (before : Handle → Option Chain) : Step → Option Chain
  | make _ pairs => some ⟨pairs, []⟩
  | set id key value => (before (.scope id)).map (·.write [(key, value)])
  | extend id pairs => (before (.scope id)).map (·.write pairs)
  | child _ source pairs => (before (.scope source)).map (·.inside pairs)
  | clone _ source => before (.scope source)
  | parent _ source => (before (.scope source)).bind Chain.parent?
  | evaluator _ source => before (.scope source)
  | update id pairs => (before (.evaluator id)).map (·.write pairs)
  | within _ source pairs => (before (.evaluator source)).map (·.inside pairs)
  | context _ source => before (.evaluator source)

/-- The chain of a handle. Only the steps with the handle as their target matter, and a step that
makes it fixes the chain it starts from. -/
def chain? : List Step → Handle → Option Chain
  | [], _ => none
  | latest :: earlier, handle =>
    if latest.target = handle then (latest.chain? (chain? earlier)).or (chain? earlier handle)
    else chain? earlier handle

/-! ## What a step does -/

theorem get?_keep {α : Type} (table : Fields α) (id : String) (made : Option α) (other : String) :
    (keep table id made).get? other =
      if id = other then made.or (table.get? other) else table.get? other := by
  cases made with
  | none => simp [keep]
  | some made => simp [keep, Fields.get?_insert]

theorem map_scope_evaluator? {s : Step} {id : String} (h : s.target = .evaluator id)
    (w : Workspace) : (s.evaluator? w).map (·.scope) = s.scope? w.scope? := by
  cases s with
  | evaluator _ source =>
    show ((w.scopes.get? source).map Evaluator.ofScope).map (·.scope) = w.scopes.get? source
    cases w.scopes.get? source <;> rfl
  | update id pairs =>
    show ((w.evaluators.get? id).map (·.extend pairs)).map (·.scope) =
      ((w.evaluators.get? id).map (·.scope)).map (·.extend pairs)
    cases w.evaluators.get? id <;> rfl
  | within _ source pairs =>
    show ((w.evaluators.get? source).map (·.child pairs)).map (·.scope) =
      ((w.evaluators.get? source).map (·.scope)).map (·.child pairs)
    cases w.evaluators.get? source <;> rfl
  | _ => cases h

/-- **A step gives its target a scope, and leaves every other handle alone.** -/
theorem scope?_step (w : Workspace) (s : Step) (handle : Handle) :
    (w.step s).scope? handle =
      if s.target = handle then (s.scope? w.scope?).or (w.scope? handle)
      else w.scope? handle := by
  unfold step
  split
  · rename_i id htarget
    rw [htarget]
    cases handle with
    | scope other => simp only [scope?, get?_keep, Handle.scope.injEq]
    | evaluator other => rw [if_neg (by simp)]; rfl
  · rename_i id htarget
    rw [htarget]
    cases handle with
    | scope other => rw [if_neg (by simp)]; rfl
    | evaluator other =>
      simp only [scope?, get?_keep, Handle.evaluator.injEq]
      split
      · rw [Option.map_or, map_scope_evaluator? htarget]
      · rfl

/-! ## What a history does -/

namespace Chain

/-- The scope that the writes of a chain make. -/
def scope (chain : Chain) : Scope := ⟨.ofPairs chain.own, chain.outer.map .ofPairs⟩

theorem scope_write (chain : Chain) (pairs : List (String × Value)) :
    (chain.write pairs).scope = chain.scope.extend pairs := by
  simp only [scope, write, Scope.extend, Fields.ofPairs, Fields.insertAll, List.foldl_append]

theorem scope_inside (chain : Chain) (pairs : List (String × Value)) :
    (chain.inside pairs).scope = chain.scope.child pairs := rfl

theorem map_scope_parent? (chain : Chain) : chain.parent?.map scope = chain.scope.parent? := by
  obtain ⟨own, outer⟩ := chain
  cases outer <;> rfl

end Chain

theorem Chain.map_scope_map {f : Chain → Chain} {g : Scope → Scope}
    (h : ∀ chain, (f chain).scope = g chain.scope) (found : Option Chain) :
    (found.map f).map Chain.scope = (found.map Chain.scope).map g := by
  cases found with
  | none => rfl
  | some chain => exact congrArg some (h chain)

/-- A step does to the scope of its target what it does to the chain. -/
theorem Step.map_scope_chain? (s : Step) (before : Handle → Option Chain) :
    (s.chain? before).map Chain.scope = s.scope? fun handle => (before handle).map Chain.scope := by
  cases s with
  | make _ pairs => rfl
  | set id key value => exact Chain.map_scope_map (fun chain => chain.scope_write [(key, value)]) _
  | extend id pairs => exact Chain.map_scope_map (fun chain => chain.scope_write pairs) _
  | child _ source pairs => exact Chain.map_scope_map (fun chain => chain.scope_inside pairs) _
  | clone _ source => rfl
  | parent _ source =>
    show ((before (.scope source)).bind Chain.parent?).map Chain.scope =
      ((before (.scope source)).map Chain.scope).bind Scope.parent?
    cases before (.scope source) with
    | none => rfl
    | some chain => exact chain.map_scope_parent?
  | evaluator _ source => rfl
  | update id pairs => exact Chain.map_scope_map (fun chain => chain.scope_write pairs) _
  | within _ source pairs => exact Chain.map_scope_map (fun chain => chain.scope_inside pairs) _
  | context _ source => rfl

/-- **After every history, the scope of a handle is what its chain wrote.** -/
theorem scope?_run (history : List Step) (handle : Handle) :
    (run history).scope? handle = (chain? history handle).map Chain.scope := by
  induction history generalizing handle with
  | nil => cases handle <;> rfl
  | cons latest earlier ih =>
    have hbefore : (run earlier).scope? = fun other => (chain? earlier other).map Chain.scope :=
      funext ih
    rw [run, scope?_step, chain?, hbefore, ← Step.map_scope_chain?]
    split
    · rw [Option.map_or]
    · rfl

/-- Steps with other targets leave the scope of a handle alone. -/
theorem scope?_run_append {later : List Step} {handle : Handle}
    (h : ∀ s ∈ later, s.target ≠ handle) (earlier : List Step) :
    (run (later ++ earlier)).scope? handle = (run earlier).scope? handle := by
  induction later with
  | nil => rfl
  | cons latest later ih =>
    rw [List.forall_mem_cons] at h
    rw [List.cons_append, run, scope?_step, if_neg h.1, ih h.2]

/-! ## Reading a scope -/

namespace Chain

/-- What reading a scope gives, in terms of the writes that made it. -/
structure ReadAs (chain : Chain) (scope : Scope) : Prop where
  /-- A name means what was written last under it, in the innermost scope that writes it. -/
  lookup (name : String) : scope.lookup? name = chain.lookup? name
  flatten (name : String) : scope.flatten.get? name = scope.lookup? name
  has (name : String) : scope.has name = true ↔ name ∈ scope.names
  names : scope.names.Pairwise (· < ·)
  /-- The inherited names come first, in their order, and then those first written here. -/
  keys : scope.flatten.keys = scope.inherited.keys ++
    (Fields.firstWrites chain.own).filter (· ∉ scope.inherited.keys)

theorem distinct_scope (chain : Chain) : chain.scope.Distinct := by
  intro frame hframe
  have hmade : ∃ log ∈ chain.logs, Fields.ofPairs log = frame := List.mem_map.mp hframe
  obtain ⟨log, -, rfl⟩ := hmade
  exact Fields.nodup_keys_ofPairs log

theorem lookup?_scope (chain : Chain) (name : String) :
    chain.scope.lookup? name = chain.lookup? name := by
  show (chain.logs.map Fields.ofPairs).findSome? (·.get? name) = _
  rw [List.findSome?_map]
  simp only [Function.comp_def, Fields.get?_ofPairs]
  rfl

theorem readAs_scope (chain : Chain) : chain.ReadAs chain.scope where
  lookup := chain.lookup?_scope
  flatten := Scope.get?_flatten chain.distinct_scope
  has _ := (Scope.mem_names_iff chain.distinct_scope).symm
  names := chain.scope.pairwise_names
  keys := by
    rw [Scope.keys_flatten chain.distinct_scope]
    show _ ++ (Fields.ofPairs chain.own).keys.filter _ = _
    rw [Fields.keys_ofPairs]

end Chain

/-- **Scopes are snapshots.** After every history, a handle exists if it has a chain, and its scope
reads as the writes of that chain, whatever was written to other handles since. -/
theorem scopes_are_snapshots :
    (∀ history handle,
      Option.Rel Chain.ReadAs (chain? history handle) ((run history).scope? handle)) ∧
    (∀ later earlier handle, (∀ s ∈ later, s.target ≠ handle) →
      (run (later ++ earlier)).scope? handle = (run earlier).scope? handle) := by
  refine ⟨fun history handle => ?_, fun later earlier handle h => scope?_run_append h earlier⟩
  rw [scope?_run]
  cases chain? history handle with
  | none => exact .none
  | some chain => exact .some chain.readAs_scope

/-- The scope around another one is written to before and after that one is made. -/
theorem scopes_are_snapshots_of_outer_write :
    let earlier : List Step :=
      [.child "inner" "outer" [("b", .null)], .set "outer" "a" (.string "early"), .make "outer" []]
    let later : List Step := [.set "outer" "b" .undefined, .set "outer" "a" (.string "late")]
    let handle := Handle.scope "inner"
    (run (later ++ earlier)).scope? handle = (run earlier).scope? handle ∧
      ∃ scope, (run (later ++ earlier)).scope? handle = some scope ∧
        scope.lookup? "a" = some (.string "early") ∧ scope.lookup? "b" = some .null ∧
        scope.flatten.keys = ["a", "b"] := by
  intro earlier later handle
  obtain ⟨hread, hkept⟩ := scopes_are_snapshots
  refine ⟨hkept later earlier handle (by decide), ?_⟩
  have hchain : chain? (later ++ earlier) handle =
      some ⟨[("b", .null)], [[("a", .string "early")]]⟩ := rfl
  have hscope : (run (later ++ earlier)).scope? handle =
      some ⟨[("b", .null)], [[("a", .string "early")]]⟩ := rfl
  have hrel := hread (later ++ earlier) handle
  rw [hchain, hscope] at hrel
  cases hrel with
  | some hreads =>
    exact ⟨_, hscope, hreads.lookup "a", hreads.lookup "b", hreads.keys⟩

end Workspace

end TemplateExpr
