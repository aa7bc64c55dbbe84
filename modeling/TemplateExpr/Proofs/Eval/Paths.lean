import TemplateExpr.Proofs.Eval.Chains
import TemplateExpr.Proofs.Eval.Values
import TemplateExpr.Proofs.Text.Split

/-!
# Paths and chains

A path of keys is walked key by key, and so is a chain of optional fields. The two meet at the
values without properties: a path reads on and finds nothing, a chain is given up; both come to
undefined, however many keys are left.

* `getPath_append` — a path walks its front and then its back.
* `exists_evalLink_field` — one optional field reads what one key of a path reads.
* `path_follows_chain` — paths compose, and agree with the chains of their keys.
-/

namespace TemplateExpr

namespace Value

/-- A path is walked key by key. -/
theorem getPath_eq_foldl (v : Value) (path : String) :
    v.getPath path = ((path.toList.splitOn '.').map String.ofList).foldl property v := by
  rw [getPath, Text.split_singleton]

theorem getPath_append (v : Value) (front back : String) :
    v.getPath (front ++ "." ++ back) = (v.getPath front).getPath back := by
  have hsplit : (front ++ "." ++ back).toList.splitOn '.' =
      front.toList.splitOn '.' ++ back.toList.splitOn '.' := by
    rw [String.toList_append, String.toList_append, List.append_assoc]
    exact List.splitOn_append_cons_self (a := '.') front.toList back.toList
  simp only [getPath_eq_foldl, hsplit, List.map_append, List.foldl_append]

/-- Keys without points in them are the keys of the path that they make up. -/
theorem getPath_intercalate (v : Value) {keys : List String} (hne : keys ≠ [])
    (hkeys : ∀ key ∈ keys, '.' ∉ key.toList) :
    v.getPath (".".intercalate keys) = keys.foldl property v := by
  have hsplit : (".".intercalate keys).toList.splitOn '.' = keys.map String.toList := by
    rw [String.toList_intercalate]
    exact List.splitOn_intercalate '.' (by simpa using hkeys) (by simpa using hne)
  rw [getPath_eq_foldl, hsplit]
  simp [Function.comp_def]

end Value

open TemplateExpr.Expr (Link)

/-- The chain of optional fields with the given keys, on a name. -/
def Expr.optionalFields (name : String) (keys : List String) : Expr :=
  (identifier name).linked (keys.map (Link.field · true))

namespace Plain

variable {env : Environment} {e : Expr} {v? : Option Value}

/-- An optional field reads the property of its receiver; where there is none, or the chain before
it was given up, the chain is given up, which counts as undefined. -/
theorem exists_evalLink_field (h : (Eval.evalLink env e : Plain (Option Value)) = Except.ok v?)
    (key : String) :
    ∃ w?, (Eval.evalLink env ((Link.field key true).on e) : Plain (Option Value)) = Except.ok w? ∧
      w?.getD .undefined = (v?.getD .undefined).property key := by
  have hlink := bind_link_of_ok h fun v => Eval.withReceiver true key v (pure (v.property key))
  cases v? with
  | none => exact ⟨none, hlink, rfl⟩
  | some v =>
    cases v with
    | undefined | null => exact ⟨none, hlink, rfl⟩
    | _ => exact ⟨some _, hlink, rfl⟩

theorem exists_evalLink_linked (h : (Eval.evalLink env e : Plain (Option Value)) = Except.ok v?)
    (keys : List String) :
    ∃ w?, (Eval.evalLink env (e.linked (keys.map (Link.field · true))) : Plain (Option Value)) =
      Except.ok w? ∧ w?.getD .undefined = keys.foldl Value.property (v?.getD .undefined) := by
  induction keys generalizing e v? with
  | nil => exact ⟨v?, h, rfl⟩
  | cons key keys ih =>
    obtain ⟨w?, hlink, hread⟩ := exists_evalLink_field h key
    rw [List.foldl_cons, ← hread]
    exact ih hlink

theorem eval_optionalFields {x : String} {v : Value} (hx : env.scope.lookup? x = some v)
    (keys : List String) :
    (Eval.eval env (.optionalFields x keys) : Plain Value) =
      Except.ok (keys.foldl Value.property v) := by
  obtain ⟨w?, hlink, hread⟩ := exists_evalLink_linked (evalLink_identifier hx) keys
  show (Eval.evalLink env _ >>= fun link => pure (link.getD .undefined) : Plain Value) = _
  rw [Expr.optionalFields, hlink]
  exact congrArg Except.ok hread

end Plain

/-- Each link is one more node, one level further up. -/
theorem Expr.size_linked_fields (e : Expr) (keys : List String) :
    (e.linked (keys.map (Link.field · true))).nodes = e.nodes + keys.length ∧
      (e.linked (keys.map (Link.field · true))).height = e.height + keys.length := by
  induction keys generalizing e with
  | nil => exact ⟨rfl, rfl⟩
  | cons key keys ih =>
    obtain ⟨hnodes, hheight⟩ := ih ((Link.field key true).on e)
    have hlink : ((Link.field key true).on e).nodes = e.nodes + 1 ∧
        ((Link.field key true).on e).height = e.height + 1 := by
      simp [Link.on, nodes, subtrees, height]
    rw [List.length_cons]
    exact ⟨hnodes.trans (by omega), hheight.trans (by omega)⟩

/-- One step and one level for the name and for each key are enough. -/
theorem suffice_optionalFields (env : Environment) (x : String) {keys : List String}
    {limits : Limits} (hsteps : keys.length < limits.maxSteps)
    (hdepth : keys.length < limits.maxDepth) : limits.Suffice env (.optionalFields x keys) := by
  obtain ⟨hnodes, hheight⟩ := Expr.size_linked_fields (.identifier x) keys
  have hname : (Expr.identifier x).nodes = 1 ∧ (Expr.identifier x).height = 1 := by
    simp [Expr.nodes, Expr.subtrees, Expr.height]
  refine suffice_of_nodes_le ?_ ?_
  · rw [Expr.optionalFields, hnodes]
    omega
  · rw [Expr.optionalFields, hheight]
    omega

/-- **Paths compose, and agree with chains of optional fields.** The path of a front and a back is
the back's path from the value at the front's. Where a name is bound to a value, the chain of
optional fields with some keys on that name has the value at the path of those keys, within any
limits that do not stop it, such as one step and one level for the name and for each key. -/
theorem path_follows_chain :
    (∀ (v : Value) (front back : String),
      v.getPath (front ++ "." ++ back) = (v.getPath front).getPath back) ∧
    ∀ (env : Environment) (x : String) (v : Value) (keys : List String),
      env.scope.lookup? x = some v → keys ≠ [] → (∀ key ∈ keys, '.' ∉ key.toList) →
        (∀ limits : Limits, limits.Suffice env (.optionalFields x keys) →
          (evaluate env limits (.optionalFields x keys)).1 =
            .ok (v.getPath (".".intercalate keys))) ∧
        ∀ limits : Limits, keys.length < limits.maxSteps → keys.length < limits.maxDepth →
          limits.Suffice env (.optionalFields x keys) := by
  refine ⟨Value.getPath_append, fun env x v keys hx hne hkeys => ⟨fun limits hlimits => ?_,
    fun limits => suffice_optionalFields env x⟩⟩
  rw [evaluate_eq_plain hlimits, Plain.eval_optionalFields hx, Value.getPath_intercalate v hne hkeys]

/-- Both paths go through an item of an array. One ends on a value; of the other one, two keys stand
behind a null. -/
theorem path_follows_chain_to_value_and_past_null :
    let items : List Value := [.string "x", .object [("b", .null), ("d", .string "yes")]]
    let v : Value := .object [("a", .array items)]
    let env : Environment := ⟨.ofFields [("v", v)], ⟨0, 0⟩⟩
    ((v.getPath "a.1").getPath "d.length" = v.getPath "a.1.d.length" ∧
      (evaluate env ⟨5, 5⟩ (.optionalFields "v" ["a", "1", "d", "length"])).1 =
        .ok (v.getPath "a.1.d.length") ∧
      v.getPath "a.1.d.length" = .number 3) ∧
    (v.getPath "a.1").getPath "b.c.length" = v.getPath "a.1.b.c.length" ∧
      (evaluate env ⟨6, 6⟩ (.optionalFields "v" ["a", "1", "b", "c", "length"])).1 =
        .ok (v.getPath "a.1.b.c.length") ∧
      v.getPath "a.1.b.c.length" = .undefined := by
  intro items v env
  have hpresent := path_follows_chain.2 env "v" v ["a", "1", "d", "length"] rfl (by decide) (by decide)
  have hnull :=
    path_follows_chain.2 env "v" v ["a", "1", "b", "c", "length"] rfl (by decide) (by decide)
  refine ⟨⟨(path_follows_chain.1 v "a.1" "d.length").symm, ?_, rfl⟩,
    (path_follows_chain.1 v "a.1" "b.c.length").symm, ?_, rfl⟩
  · exact hpresent.1 ⟨5, 5⟩ (hpresent.2 ⟨5, 5⟩ (by decide) (by decide))
  · exact hnull.1 ⟨6, 6⟩ (hnull.2 ⟨6, 6⟩ (by decide) (by decide))

end TemplateExpr
