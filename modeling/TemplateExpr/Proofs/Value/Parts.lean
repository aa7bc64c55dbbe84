import Mathlib.Data.List.Perm.Basic
import TemplateExpr.Value.Basic

/-!
# What a value is made of

A value occurs in itself, and what occurs in an item of an array or under a key of an object occurs
in the array or the object; so a property of everything that occurs in a value is a property at
every depth. `Value.inductionOn` is the induction that goes with it: what holds of an array or an
object whenever it holds of its items or of what its keys hold, holds of every value.

An object holds each key once. The list of its fields does not say so by itself, so what relies on
it asks for `HasDistinctKeys`.
-/

namespace TemplateExpr.Value

/-- The induction over values: nothing is to be assumed for a number or another plain value, and for
an array or an object what is shown holds of everything directly in it. -/
@[elab_as_elim]
theorem inductionOn {P : Value → Prop} (v : Value) (number : ∀ x, P (number x))
    (plain : ∀ v : Value, (∀ x, v ≠ .number x) → (∀ items, v ≠ array items) →
      (∀ fields, v ≠ object fields) → P v)
    (array : ∀ items, (∀ item ∈ items, P item) → P (array items))
    (object : ∀ fields : Fields Value, (∀ field ∈ fields, P field.2) → P (object fields)) : P v := by
  match v with
  | .number x => exact number x
  | .array items => exact array items fun item _ => inductionOn item number plain array object
  | .object fields => exact object fields fun field _ => inductionOn field.2 number plain array object
  | .undefined | .null | .bool _ | .string _ | .function _ =>
    exact plain _ (fun _ => by simp) (fun _ => by simp) fun _ => by simp
termination_by sizeOf v
decreasing_by
  · have hlt := List.sizeOf_lt_of_mem ‹item ∈ items›
    simp only [Value.array.sizeOf_spec]
    omega
  · have hlt := List.sizeOf_lt_of_mem ‹field ∈ fields›
    obtain ⟨key, value⟩ := field
    simp only [Prod.mk.sizeOf_spec, Value.object.sizeOf_spec] at hlt ⊢
    omega

/-! ## Parts -/

/-- The value `part` is a part of the other one, at some depth. -/
inductive Occurs (part : Value) : Value → Prop where
  | whole : Occurs part part
  | item {items : List Value} {item : Value} (h : item ∈ items) (part_in : Occurs part item) :
      Occurs part (array items)
  | field {fields : Fields Value} {field : String × Value} (h : field ∈ fields)
      (part_in : Occurs part field.2) : Occurs part (object fields)

theorem occurs_plain_iff {part v : Value} (harray : ∀ items, v ≠ array items)
    (hobject : ∀ fields, v ≠ object fields) : Occurs part v ↔ part = v := by
  constructor
  · intro h
    cases h with
    | whole => rfl
    | item => exact absurd rfl (harray _)
    | field => exact absurd rfl (hobject _)
  · rintro rfl
    exact .whole

theorem occurs_array_iff {part : Value} {items : List Value} :
    Occurs part (array items) ↔ part = array items ∨ ∃ item ∈ items, Occurs part item := by
  constructor
  · intro h
    cases h with
    | whole => exact .inl rfl
    | item hitem hpart => exact .inr ⟨_, hitem, hpart⟩
  · rintro (rfl | ⟨item, hitem, hpart⟩)
    · exact .whole
    · exact .item hitem hpart

theorem occurs_object_iff {part : Value} {fields : Fields Value} :
    Occurs part (object fields) ↔ part = object fields ∨ ∃ field ∈ fields, Occurs part field.2 := by
  constructor
  · intro h
    cases h with
    | whole => exact .inl rfl
    | field hfield hpart => exact .inr ⟨_, hfield, hpart⟩
  · rintro (rfl | ⟨field, hfield, hpart⟩)
    · exact .whole
    · exact .field hfield hpart

/-- Each object in the value holds each of its keys once. -/
def HasDistinctKeys (v : Value) : Prop :=
  ∀ fields : Fields Value, Occurs (object fields) v → fields.keys.Nodup

namespace HasDistinctKeys

variable {items : List Value} {fields : Fields Value}

theorem item (h : (array items).HasDistinctKeys) {v : Value} (hv : v ∈ items) : v.HasDistinctKeys :=
  fun fields hfields => h fields (.item hv hfields)

theorem field (h : (object fields).HasDistinctKeys) {field : String × Value}
    (hfield : field ∈ fields) : field.2.HasDistinctKeys :=
  fun fields hfields => h fields (.field hfield hfields)

theorem keys (h : (object fields).HasDistinctKeys) : fields.keys.Nodup := h fields .whole

theorem array (h : ∀ item ∈ items, item.HasDistinctKeys) : (array items).HasDistinctKeys := by
  intro fields hfields
  rcases occurs_array_iff.mp hfields with heq | ⟨item, hitem, hfields⟩
  · cases heq
  · exact h item hitem fields hfields

theorem object (hkeys : fields.keys.Nodup) (h : ∀ field ∈ fields, field.2.HasDistinctKeys) :
    (object fields).HasDistinctKeys := by
  intro fields' hfields
  rcases occurs_object_iff.mp hfields with heq | ⟨field, hfield, hfields⟩
  · cases heq
    exact hkeys
  · exact h field hfield fields' hfields

theorem plain {v : Value} (harray : ∀ items, v ≠ .array items)
    (hobject : ∀ fields, v ≠ .object fields) : v.HasDistinctKeys := by
  intro fields h
  exact absurd ((occurs_plain_iff harray hobject).mp h).symm (hobject fields)

/-- So it is with an object that is written key by key. -/
theorem ofPairs {pairs : List (String × Value)} (h : ∀ pair ∈ pairs, pair.2.HasDistinctKeys) :
    (Value.object (Fields.ofPairs pairs)).HasDistinctKeys :=
  object (Fields.nodup_keys_ofPairs pairs) (Fields.forall_mem_insertAll (by simp) h)

end HasDistinctKeys

/-! ## The order of keys -/

/-- One object at some depth of the first value has its fields in another order in the second. -/
inductive Reorders : Value → Value → Prop where
  | fields {fields fields' : Fields Value} (h : fields.Perm fields') :
      Reorders (object fields) (object fields')
  | item (before : List Value) {v w : Value} (after : List Value) (h : Reorders v w) :
      Reorders (array (before ++ v :: after)) (array (before ++ w :: after))
  | field (before : Fields Value) (key : String) {v w : Value} (after : Fields Value)
      (h : Reorders v w) :
      Reorders (object (before ++ (key, v) :: after)) (object (before ++ (key, w) :: after))

/-- The same value but for the order of the keys of objects, at every depth. -/
def Reordered : Value → Value → Prop := Relation.ReflTransGen Reorders

end TemplateExpr.Value
