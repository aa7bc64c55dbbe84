import TemplateExpr.Proofs.Number.Exact
import TemplateExpr.Proofs.Value.Parts
import TemplateExpr.Value.Json

/-!
# What JSON carries of a value

A value that goes through a document comes back with the arrays and objects it had, of the same
lengths and with the same keys in the same order. Only its leaves can differ: what JSON has nothing
for comes back as null, and the negative zero without its sign (`carried`). A number goes as an
integer or as a double, and comes back from either as the double it was (`ofJson_numberToJson`).

* `ofJson_toJson` — what comes back is the value with its leaves carried over.
* `ofJson_toJson_eq_self_iff` — the value itself comes back exactly if it is made of what JSON has.
* `json_carries_value` — both, and that a second passage changes nothing.
-/

namespace TemplateExpr.Value

/-! ## Leaves -/

mutual

/-- The value with each leaf replaced: what is in an array stays in its place, what is in an object
stays under its key. -/
def mapLeaves (f : Value → Value) : Value → Value
  | array items => array (mapLeavesOfItems f items)
  | object fields => object (mapLeavesOfFields f fields)
  | leaf => f leaf

/-- The items of an array with each leaf replaced. -/
def mapLeavesOfItems (f : Value → Value) : List Value → List Value
  | [] => []
  | item :: items => mapLeaves f item :: mapLeavesOfItems f items

/-- The fields of an object with each leaf replaced. -/
def mapLeavesOfFields (f : Value → Value) : List (String × Value) → List (String × Value)
  | [] => []
  | (key, value) :: fields => (key, mapLeaves f value) :: mapLeavesOfFields f fields

end

/-- What JSON carries of a leaf. -/
def carried : Value → Value
  | undefined => null
  | function _ => null
  | number .nan => null
  | number (.infinite _) => null
  | number (.finite x) => number (.finite (if x = .zero true then .zero false else x))
  | leaf => leaf

/-- Values that are made of what JSON has. -/
inductive IsDocument : Value → Prop where
  | null : IsDocument null
  | bool (b : Bool) : IsDocument (bool b)
  | string (s : String) : IsDocument (string s)
  | number {x : Number.Finite} (h : x ≠ .zero true) : IsDocument (number (.finite x))
  | array {items : List Value} (h : ∀ item ∈ items, IsDocument item) : IsDocument (array items)
  | object {fields : Fields Value} (h : ∀ field ∈ fields, IsDocument field.2) :
      IsDocument (object fields)

variable (f : Value → Value) (items : List Value) (fields : Fields Value)

theorem mapLeaves_array : (array items).mapLeaves f = array (items.map (mapLeaves f)) := by
  have hitems : mapLeavesOfItems f items = items.map (mapLeaves f) := by
    induction items with
    | nil => rfl
    | cons item items ih => rw [mapLeavesOfItems, ih, List.map_cons]
  rw [mapLeaves, hitems]

theorem mapLeaves_object :
    (object fields).mapLeaves f = object (fields.map fun (key, value) => (key, value.mapLeaves f)) := by
  have hfields : mapLeavesOfFields f fields =
      fields.map fun (key, value) => (key, value.mapLeaves f) := by
    induction fields with
    | nil => rfl
    | cons field fields ih => rw [mapLeavesOfFields, ih, List.map_cons]
  rw [mapLeaves, hfields]

theorem mapLeaves_leaf {leaf : Value} (harray : ∀ items, leaf ≠ array items)
    (hobject : ∀ fields, leaf ≠ object fields) : leaf.mapLeaves f = f leaf := by
  cases leaf with
  | array items => exact absurd rfl (harray items)
  | object fields => exact absurd rfl (hobject fields)
  | _ => rw [mapLeaves] <;> simp

/-! ## Numbers -/

/-- Both zeros are the integer zero. -/
theorem numberToJson_zero (negative : Bool) :
    numberToJson (.finite (.zero negative)) = .number (.integer 0) := by
  have hsmall : 0 < exactBelow := by decide
  simp [numberToJson, Number.Finite.isWhole, Number.Finite.whole, Number.Finite.toInt, hsmall]

/-- A number comes back from an integer as well as from a double. -/
theorem ofJson_numberToJson (n : Number) : ofJson (numberToJson n) = (number n).carried := by
  cases n with
  | nan | infinite => rfl
  | finite x =>
    by_cases hzero : x.significand = 0
    · rw [x.eq_zero hzero, numberToJson_zero, ofJson, Json.Numeral.toNumber, Number.ofInt_zero]
      cases x.negative <;> simp [carried, Number.zero, Number.Finite.zero]
    · have hne : x ≠ .zero true := fun h => hzero (congrArg Number.Finite.significand h)
      rw [carried, if_neg hne, numberToJson]
      split
      · rename_i hsmall
        have hwhole := (Bool.and_eq_true_iff.mp hsmall).1
        exact congrArg number (Number.ofInt_toInt hwhole hzero)
      · rfl

/-- What JSON carries of a leaf is the same document as the leaf. -/
theorem toJson_carried {leaf : Value} (harray : ∀ items, leaf ≠ array items)
    (hobject : ∀ fields, leaf ≠ object fields) : leaf.carried.toJson = leaf.toJson := by
  cases leaf with
  | array items => exact absurd rfl (harray items)
  | object fields => exact absurd rfl (hobject fields)
  | number n =>
    cases n with
    | nan | infinite => rfl
    | finite x =>
      rw [carried]
      split
      · rename_i hzero
        rw [hzero]
        rfl
      · rfl
  | _ => rfl

theorem ofJson_toJson_leaf {leaf : Value} (harray : ∀ items, leaf ≠ array items)
    (hobject : ∀ fields, leaf ≠ object fields) : ofJson leaf.toJson = leaf.carried := by
  cases leaf with
  | array items => exact absurd rfl (harray items)
  | object fields => exact absurd rfl (hobject fields)
  | number n => rw [toJson, ofJson_numberToJson]
  | _ => rfl

/-! ## Values -/

/-- **What comes back from a document is the value with its leaves carried over.** -/
theorem ofJson_toJson (v : Value) : ofJson v.toJson = v.mapLeaves carried := by
  induction v using inductionOn with
  | number n => exact ofJson_toJson_leaf (by simp) (by simp)
  | plain v _ harray hobject =>
    rw [ofJson_toJson_leaf harray hobject, mapLeaves_leaf carried harray hobject]
  | array items ih =>
    rw [toJson_array, ofJson_array, mapLeaves_array, List.map_map]
    exact congrArg array (List.map_congr_left ih)
  | object fields ih =>
    rw [toJson_object, ofJson_object, mapLeaves_object, List.map_map]
    refine congrArg object (List.map_congr_left fun field hfield => ?_)
    exact congrArg (Prod.mk field.1) (ih field hfield)

theorem toJson_mapLeaves_carried (v : Value) : (v.mapLeaves carried).toJson = v.toJson := by
  induction v using inductionOn with
  | number n => exact toJson_carried (by simp) (by simp)
  | plain v _ harray hobject =>
    rw [mapLeaves_leaf carried harray hobject, toJson_carried harray hobject]
  | array items ih =>
    rw [mapLeaves_array, toJson_array, toJson_array, List.map_map]
    exact congrArg Json.array (List.map_congr_left ih)
  | object fields ih =>
    rw [mapLeaves_object, toJson_object, toJson_object, List.map_map]
    refine congrArg Json.object (List.map_congr_left fun field hfield => ?_)
    exact congrArg (Prod.mk field.1) (ih field hfield)

theorem isDocument_array_iff : (array items).IsDocument ↔ ∀ item ∈ items, item.IsDocument :=
  ⟨fun | .array h => h, .array⟩

theorem isDocument_object_iff :
    (object fields).IsDocument ↔ ∀ field ∈ fields, field.2.IsDocument :=
  ⟨fun | .object h => h, .object⟩

theorem carried_number_eq_self_iff (n : Number) :
    (number n).carried = number n ↔ (number n).IsDocument := by
  constructor
  · intro h
    cases n with
    | nan | infinite => cases h
    | finite x =>
      refine .number ?_
      rintro rfl
      simp [carried, Number.Finite.zero] at h
  · rintro (_ | _ | _ | hx)
    rw [carried, if_neg hx]

theorem carried_plain_eq_self_iff {v : Value} (hnumber : ∀ n, v ≠ number n)
    (harray : ∀ items, v ≠ array items) (hobject : ∀ fields, v ≠ object fields) :
    v.carried = v ↔ v.IsDocument := by
  cases v with
  | number n => exact absurd rfl (hnumber n)
  | array items => exact absurd rfl (harray items)
  | object fields => exact absurd rfl (hobject fields)
  | null => exact ⟨fun _ => .null, fun _ => rfl⟩
  | bool b => exact ⟨fun _ => .bool b, fun _ => rfl⟩
  | string s => exact ⟨fun _ => .string s, fun _ => rfl⟩
  | undefined | function f =>
    constructor
    · intro h
      cases h
    · intro h
      cases h

theorem map_eq_self_iff {α : Type} {f : α → α} {l : List α} :
    l.map f = l ↔ ∀ a ∈ l, f a = a := by
  simpa using List.map_inj_left (f := f) (g := id) (l := l)

/-- Nothing is replaced in a value exactly if it is made of what JSON has. -/
theorem mapLeaves_carried_eq_self_iff (v : Value) :
    v.mapLeaves carried = v ↔ v.IsDocument := by
  induction v using inductionOn with
  | number n => exact carried_number_eq_self_iff n
  | plain v hnumber harray hobject =>
    rw [mapLeaves_leaf carried harray hobject]
    exact carried_plain_eq_self_iff hnumber harray hobject
  | array items ih =>
    rw [mapLeaves_array, isDocument_array_iff, array.injEq, map_eq_self_iff]
    exact forall₂_congr ih
  | object fields ih =>
    rw [mapLeaves_object, isDocument_object_iff, object.injEq, map_eq_self_iff]
    refine forall₂_congr fun field hfield => ?_
    rw [← ih field hfield, Prod.ext_iff]
    exact and_iff_right rfl

/-- **JSON loses only what it has nothing for.** A value that goes through a document comes back
with what JSON carries of its leaves, and is otherwise unchanged: each array has the length and each
object the keys, in their order, that it had. It comes back as it was exactly if it is made of null,
booleans, strings, finite numbers other than the negative zero, arrays and objects. A second passage
changes nothing: what comes back is the same document. -/
theorem json_carries_value (v : Value) :
    ofJson v.toJson = v.mapLeaves carried ∧ (ofJson v.toJson = v ↔ v.IsDocument) ∧
      (ofJson v.toJson).toJson = v.toJson := by
  rw [ofJson_toJson]
  exact ⟨rfl, mapLeaves_carried_eq_self_iff v, toJson_mapLeaves_carried v⟩

end TemplateExpr.Value
