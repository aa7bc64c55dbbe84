import TemplateExpr.Proofs.Eval.Values
import TemplateExpr.Proofs.Scope.Flatten
import TemplateExpr.Scope.Standard

/-!
# What the standard names mean

Each name that is always bound has a list of values to be looked through, and means the first one that
is supplied, that is, given and not nullish. If there is none it means an object without fields. Either
way it means a value that has properties, so that a field of it can be read
(`standard_names_always_bound`). Further variables win over all of these.
-/

namespace TemplateExpr

namespace StandardNames

/-! ## Supplied values -/

/-- The value is given, and it is not nullish. -/
def Supplied (given : Option Value) (v : Value) : Prop := given = some v ∧ ¬ v.isNullish

/-- The first of the values that is supplied, or an object without fields if none of them is. -/
inductive FirstSupplied : List (Option Value) → Value → Prop where
  | none : FirstSupplied [] .empty
  | here {given : Option Value} {v : Value} (h : Supplied given v) (rest : List (Option Value)) :
      FirstSupplied (given :: rest) v
  | later {given : Option Value} {rest : List (Option Value)} {v : Value}
      (h : ∀ w, ¬ Supplied given w) (hrest : FirstSupplied rest v) : FirstSupplied (given :: rest) v

variable {given : Option Value} {v : Value} {values : List (Option Value)}

theorem present_eq_some_iff : present given = some v ↔ Supplied given v := by
  rw [present, Option.filter_eq_some_iff, Bool.not_eq_true', Supplied, Bool.not_eq_true]

/-- A value that stands in for one that is not supplied goes behind it in the list. -/
theorem FirstSupplied.presentOr (h : FirstSupplied values v) (given : Option Value) :
    FirstSupplied (given :: values) (presentOr v given) := by
  unfold StandardNames.presentOr
  cases hpresent : present given with
  | some w => exact .here (present_eq_some_iff.mp hpresent) values
  | none =>
    refine .later (fun w hw => ?_) h
    rw [present_eq_some_iff.mpr hw] at hpresent
    cases hpresent

theorem FirstSupplied.not_isNullish (h : FirstSupplied values v) : ¬ v.isNullish := by
  induction h with
  | none => exact Bool.false_ne_true
  | here h _ => exact h.2
  | later _ _ ih => exact ih

/-! ## The bindings -/

/-- The names that are always bound, each with the values that are looked through. -/
def namespaces (given : StandardNames) : Fields (List (Option Value)) :=
  [("data", [given.data, given.record]),
    ("record", [given.data, given.record]),
    ("form", [given.form, given.data, given.record]),
    ("user", [given.user]),
    ("page", [given.page]),
    ("params", [given.params]),
    ("env", [given.env])]

variable (given : StandardNames)

theorem lookup?_scope (hextra : given.extra.keys.Nodup) (name : String) :
    given.scope.lookup? name = (given.extra.get? name).or (given.bindings.get? name) := by
  have hframe : given.scope.lookup? name = (given.bindings.insertAll given.extra).get? name := by
    simp [scope, Scope.lookup?, Scope.frames, Scope.ofFields]
  rw [hframe, Fields.get?_insertAll, Fields.lastWrite?_of_nodup hextra]

theorem lookup?_scope_of_not_mem (hextra : given.extra.keys.Nodup) {name : String}
    (hname : name ∉ given.extra.keys) :
    given.scope.lookup? name = given.bindings.get? name := by
  rw [lookup?_scope given hextra, Fields.get?_eq_none_iff.mpr hname, Option.none_or]

theorem exists_get?_bindings {name : String} {values : List (Option Value)}
    (hname : (name, values) ∈ given.namespaces) :
    ∃ v, FirstSupplied values v ∧ given.bindings.get? name = some v := by
  have hcurrent : FirstSupplied [given.data, given.record] given.current :=
    (FirstSupplied.none.presentOr given.record).presentOr given.data
  simp only [namespaces, List.mem_cons, Prod.mk.injEq, List.not_mem_nil, or_false] at hname
  rcases hname with ⟨rfl, rfl⟩ | ⟨rfl, rfl⟩ | ⟨rfl, rfl⟩ | ⟨rfl, rfl⟩ | ⟨rfl, rfl⟩ | ⟨rfl, rfl⟩ |
    ⟨rfl, rfl⟩
  · exact ⟨_, hcurrent, rfl⟩
  · exact ⟨_, hcurrent, rfl⟩
  · exact ⟨_, hcurrent.presentOr given.form, rfl⟩
  · exact ⟨_, FirstSupplied.none.presentOr given.user, rfl⟩
  · exact ⟨_, FirstSupplied.none.presentOr given.page, rfl⟩
  · exact ⟨_, FirstSupplied.none.presentOr given.params, rfl⟩
  · exact ⟨_, FirstSupplied.none.presentOr given.env, rfl⟩

/-- Behind the names that are always bound there is the index, if it is given, and the record around
the current one. -/
theorem get?_bindings_of_not_mem {name : String} (hname : name ∉ given.namespaces.keys) :
    given.bindings.get? name =
      if name = "index" then given.index.map fun i => .number (.ofNat i)
      else if name = "parent" then present given.parent else none := by
  have hnone : Fields.get? [("data", given.current), ("record", given.current),
      ("form", presentOr given.current given.form), ("user", presentOr .empty given.user),
      ("page", presentOr .empty given.page), ("params", presentOr .empty given.params),
      ("env", presentOr .empty given.env)] name = none := Fields.get?_eq_none_iff.mpr hname
  have hindex : Fields.get? (given.index.map fun i => ("index", Value.number (.ofNat i))).toList name =
      if name = "index" then given.index.map fun i => .number (.ofNat i) else none := by
    cases given.index <;> simp [Fields.get?, eq_comm]
  have hparent : Fields.get? ((present given.parent).map fun v => ("parent", v)).toList name =
      if name = "parent" then present given.parent else none := by
    cases present given.parent <;> simp [Fields.get?, eq_comm]
  rw [bindings, Fields.get?_append, Fields.get?_append, hnone, hindex, hparent, Option.none_or]
  by_cases h : name = "index"
  · simp [h]
  · simp [h]

end StandardNames

/-- A field of a name that means a value with properties. -/
theorem evaluate_field_identifier {env : Environment} {limits : Limits} {name : String} {v : Value}
    (hname : env.scope.lookup? name = some v) (hv : ¬ v.isNullish) (field : String)
    (optional : Bool) (hsteps : 2 ≤ limits.maxSteps) (hdepth : 2 ≤ limits.maxDepth) :
    (evaluate env limits (.field (.identifier name) field optional)).1 = .ok (v.property field) := by
  have hmissing : v.missing? = none := by
    cases v with
    | undefined | null => exact absurd rfl hv
    | _ => rfl
  have hvalue := Plain.evalLink_field (Plain.evalLink_identifier hname) hmissing field optional
  refine hvalue.evaluate (suffice_of_nodes_le ?_ ?_)
  · simpa [Expr.nodes, Expr.subtrees] using hsteps
  · simpa [Expr.height] using hdepth

open StandardNames in
/-- **The standard names are always there.** Further variables mean what they are bound to. Each other
name of the standard ones means the first of its values that is supplied, or an object without fields;
so it means no nullish value, and a field of it is read within any limits of two steps and two levels.
The index and the record around the current one are bound if they are supplied, and no other name
is. -/
theorem standard_names_always_bound (given : StandardNames) (hextra : given.extra.keys.Nodup) :
    (∀ name v, given.extra.get? name = some v → given.scope.lookup? name = some v) ∧
    (∀ name values, (name, values) ∈ given.namespaces → name ∉ given.extra.keys →
      ∃ v, FirstSupplied values v ∧ ¬ v.isNullish ∧ given.scope.lookup? name = some v ∧
        ∀ (now : Instant) (limits : Limits) (field : String) (optional : Bool),
          2 ≤ limits.maxSteps → 2 ≤ limits.maxDepth →
          (evaluate ⟨given.scope, now⟩ limits (.field (.identifier name) field optional)).1 =
            .ok (v.property field)) ∧
    ("index" ∉ given.extra.keys →
      given.scope.lookup? "index" = given.index.map fun i => .number (.ofNat i)) ∧
    ("parent" ∉ given.extra.keys →
      ∀ v, given.scope.lookup? "parent" = some v ↔ Supplied given.parent v) ∧
    ∀ name, name ∉ given.extra.keys → name ∉ given.namespaces.keys → name ≠ "index" →
      name ≠ "parent" → given.scope.lookup? name = none := by
  refine ⟨fun name v hname => ?_, fun name values hname hnot => ?_, fun hnot => ?_,
    fun hnot v => ?_, fun name hnot hother hindex hparent => ?_⟩
  · rw [lookup?_scope given hextra, hname, Option.some_or]
  · obtain ⟨v, hv, hbound⟩ := exists_get?_bindings given hname
    have hlookup : given.scope.lookup? name = some v := by
      rw [lookup?_scope_of_not_mem given hextra hnot, hbound]
    exact ⟨v, hv, hv.not_isNullish, hlookup, fun now limits field optional =>
      evaluate_field_identifier hlookup hv.not_isNullish field optional⟩
  · rw [lookup?_scope_of_not_mem given hextra hnot,
      get?_bindings_of_not_mem given (by simp [namespaces, Fields.keys]), if_pos rfl]
  · rw [lookup?_scope_of_not_mem given hextra hnot,
      get?_bindings_of_not_mem given (by simp [namespaces, Fields.keys]), if_neg (by decide),
      if_pos rfl, present_eq_some_iff]
  · rw [lookup?_scope_of_not_mem given hextra hnot, get?_bindings_of_not_mem given hother,
      if_neg hindex, if_neg hparent]

/-- The data are null and the record stands in for them, in the form as well; the page is a further
variable, and null; the record around the current one is undefined. -/
theorem standard_names_always_bound_of_null_data :
    let given : StandardNames :=
      { data := some .null, record := some (.object [("id", .string "r")]),
        parent := some .undefined, extra := [("page", .null)] }
    given.scope.lookup? "page" = some .null ∧
      (evaluate ⟨given.scope, ⟨0, 0⟩⟩ ⟨2, 2⟩ (.field (.identifier "form") "id" false)).1 =
        .ok (.string "r") ∧
      ∀ v, given.scope.lookup? "parent" ≠ some v := by
  intro given
  obtain ⟨hextra, hnames, -, hparent, -⟩ := standard_names_always_bound given (by decide)
  obtain ⟨v, hv, -, -, hfield⟩ := hnames "form" [none, some .null, some (.object [("id", .string "r")])]
    (by simp [StandardNames.namespaces, given]) (by decide)
  refine ⟨hextra "page" .null rfl, ?_, fun v h => ((hparent (by decide) v).mp h).2 ?_⟩
  · obtain rfl : v = .object [("id", .string "r")] := by
      cases hv with
      | here h => cases h.1
      | later _ hv =>
        cases hv with
        | here h =>
          obtain ⟨⟨⟩, hnot⟩ := h
          exact absurd rfl hnot
        | later _ hv =>
          cases hv with
          | here h =>
            obtain ⟨⟨⟩, -⟩ := h
            rfl
          | later h _ => exact absurd ⟨rfl, Bool.false_ne_true⟩ (h _)
    exact hfield ⟨0, 0⟩ ⟨2, 2⟩ "id" false (by decide) (by decide)
  · obtain ⟨⟨⟩, -⟩ := (hparent (by decide) v).mp h
    rfl

end TemplateExpr
