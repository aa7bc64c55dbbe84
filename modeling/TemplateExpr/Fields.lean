/-!
# Fields in insertion order

A collection of named values that remembers in which order the names first came. Writing a name
that is already there keeps its place and replaces its value. `Fields.insert`, and what is built
from it, never gives a name two places (`nodup_keys_insert`); through `get?` a collection is a
function from names, and `get?_insert` says how writing changes it.
-/

namespace TemplateExpr

/-- Named values, the earliest name first. -/
abbrev Fields (α : Type) := List (String × α)

namespace Fields

variable {α : Type}

/-- The value under a name. -/
def get? : Fields α → String → Option α
  | [], _ => none
  | (k, v) :: rest, key => if k = key then some v else get? rest key

/-- Writes a value under a name. -/
def insert : Fields α → String → α → Fields α
  | [], key, value => [(key, value)]
  | (k, v) :: rest, key, value =>
    if k = key then (k, value) :: rest else (k, v) :: insert rest key value

/-- Writes all the given pairs, one after the other. -/
def insertAll (fields : Fields α) (pairs : List (String × α)) : Fields α :=
  pairs.foldl (fun fields (key, value) => fields.insert key value) fields

/-- The collection that the given pairs, written one after the other, make up. -/
def ofPairs (pairs : List (String × α)) : Fields α := insertAll [] pairs

/-- The names in insertion order. -/
def keys (fields : Fields α) : List String := fields.map (·.1)

def contains (fields : Fields α) (key : String) : Bool := (fields.get? key).isSome

@[simp] theorem get?_nil (key : String) : get? ([] : Fields α) key = none := rfl

theorem get?_insert (fields : Fields α) (key : String) (value : α) (other : String) :
    (fields.insert key value).get? other = if key = other then some value else fields.get? other := by
  induction fields with
  | nil => rfl
  | cons field rest ih =>
    obtain ⟨k, v⟩ := field
    by_cases hk : k = key
    · subst hk
      by_cases ho : k = other <;> simp [insert, get?, ho]
    · by_cases ho : k = other
      · subst ho
        simp [insert, get?, hk, Ne.symm hk]
      · simp [insert, get?, hk, ho, ih]

theorem get?_eq_none_iff {fields : Fields α} {key : String} :
    fields.get? key = none ↔ key ∉ fields.keys := by
  induction fields with
  | nil => simp [get?, keys]
  | cons field rest ih =>
    obtain ⟨k, v⟩ := field
    by_cases hk : k = key
    · simp [get?, keys, hk]
    · simp only [get?, hk, if_false, ih]
      simp [keys, Ne.symm hk]

theorem mem_of_get? {fields : Fields α} {key : String} {value : α}
    (h : fields.get? key = some value) : (key, value) ∈ fields := by
  induction fields with
  | nil => cases h
  | cons field rest ih =>
    obtain ⟨k, v⟩ := field
    rw [get?] at h
    split at h
    · rename_i hk
      cases h
      exact hk ▸ List.mem_cons_self
    · exact List.mem_cons_of_mem _ (ih h)

theorem mem_keys_of_mem {fields : Fields α} {key : String} {value : α}
    (h : (key, value) ∈ fields) : key ∈ fields.keys :=
  List.mem_map.mpr ⟨_, h, rfl⟩

theorem get?_of_mem {fields : Fields α} (hkeys : fields.keys.Nodup) {key : String} {value : α}
    (h : (key, value) ∈ fields) : fields.get? key = some value := by
  induction fields with
  | nil => cases h
  | cons field rest ih =>
    obtain ⟨k, v⟩ := field
    obtain ⟨hk, hrest⟩ := List.nodup_cons.mp hkeys
    rcases List.mem_cons.mp h with heq | hmem
    · cases heq
      simp [get?]
    · have hne : k ≠ key := by
        rintro rfl
        exact hk (mem_keys_of_mem hmem)
      rw [get?, if_neg hne]
      exact ih hrest hmem

@[simp] theorem keys_append (a b : Fields α) : keys (a ++ b) = a.keys ++ b.keys := List.map_append

theorem get?_append (a b : Fields α) (key : String) :
    get? (a ++ b) key = (a.get? key).or (b.get? key) := by
  induction a with
  | nil => rfl
  | cons field a ih =>
    obtain ⟨k, v⟩ := field
    rw [List.cons_append, get?, get?, ih]
    split <;> rfl

/-- What is left of some of the names is found as before. -/
theorem get?_filter (p : String → Bool) (fields : Fields α) (key : String) :
    get? (fields.filter fun (k, _) => p k) key = if p key then fields.get? key else none := by
  induction fields with
  | nil => simp
  | cons field rest ih =>
    obtain ⟨k, v⟩ := field
    by_cases hk : k = key
    · subst hk
      by_cases hp : p k <;> simp_all [get?]
    · by_cases hp : p k <;> simp_all [get?]

/-- What is written under a new name comes last. -/
theorem insert_of_notMem {fields : Fields α} {key : String} (h : key ∉ fields.keys) (value : α) :
    fields.insert key value = fields ++ [(key, value)] := by
  induction fields with
  | nil => rfl
  | cons field rest ih =>
    obtain ⟨k, v⟩ := field
    rw [keys, List.map_cons, List.mem_cons, not_or] at h
    rw [insert, if_neg (Ne.symm h.1), ih h.2, List.cons_append]

theorem mem_keys_insert {fields : Fields α} {key : String} {value : α} {other : String} :
    other ∈ (fields.insert key value).keys ↔ other = key ∨ other ∈ fields.keys := by
  induction fields with
  | nil => simp [insert, keys]
  | cons field rest ih =>
    obtain ⟨k, v⟩ := field
    by_cases hk : k = key
    · subst hk
      simp [insert, keys]
    · simp only [insert, hk, if_false]
      simp only [keys, List.map_cons, List.mem_cons] at ih ⊢
      rw [ih]
      constructor
      · rintro (h | h | h) <;> simp [h]
      · rintro (h | h | h) <;> simp [h]

/-- Writing keeps the names distinct. -/
theorem nodup_keys_insert {fields : Fields α} (h : fields.keys.Nodup) (key : String) (value : α) :
    (fields.insert key value).keys.Nodup := by
  induction fields with
  | nil => simp [insert, keys]
  | cons field rest ih =>
    obtain ⟨k, v⟩ := field
    simp only [keys, List.map_cons, List.nodup_cons] at h
    by_cases hk : k = key
    · simp only [insert, hk, if_true, keys, List.map_cons, List.nodup_cons]
      exact ⟨hk ▸ h.1, h.2⟩
    · simp only [insert, hk, if_false, keys, List.map_cons, List.nodup_cons]
      refine ⟨?_, ih h.2⟩
      intro hmem
      rcases mem_keys_insert.mp hmem with hk' | hrest
      · exact hk hk'
      · exact h.1 hrest

theorem nodup_keys_insertAll {fields : Fields α} (h : fields.keys.Nodup)
    (pairs : List (String × α)) : (fields.insertAll pairs).keys.Nodup := by
  unfold insertAll
  induction pairs generalizing fields with
  | nil => exact h
  | cons pair rest ih => exact ih (nodup_keys_insert h _ _)

/-- What holds of all values holds after writing one of which it holds. -/
theorem forall_mem_insert {P : α → Prop} {fields : Fields α} (hfields : ∀ field ∈ fields, P field.2)
    (key : String) {value : α} (hvalue : P value) :
    ∀ field ∈ fields.insert key value, P field.2 := by
  induction fields with
  | nil => simpa [insert] using hvalue
  | cons field rest ih =>
    obtain ⟨k, v⟩ := field
    have hv : P v := hfields (k, v) List.mem_cons_self
    have hrest : ∀ field ∈ rest, P field.2 := fun field h =>
      hfields field (List.mem_cons_of_mem _ h)
    rw [insert]
    split
    · exact List.forall_mem_cons.mpr ⟨hvalue, hrest⟩
    · exact List.forall_mem_cons.mpr ⟨hv, ih hrest⟩

theorem forall_mem_insertAll {P : α → Prop} {fields : Fields α} {pairs : List (String × α)}
    (hfields : ∀ field ∈ fields, P field.2) (hpairs : ∀ pair ∈ pairs, P pair.2) :
    ∀ field ∈ fields.insertAll pairs, P field.2 := by
  unfold insertAll
  induction pairs generalizing fields with
  | nil => exact hfields
  | cons pair rest ih =>
    have hpair : P pair.2 := hpairs pair List.mem_cons_self
    exact ih (forall_mem_insert hfields pair.1 hpair) fun field h =>
      hpairs field (List.mem_cons_of_mem _ h)

theorem nodup_keys_ofPairs (pairs : List (String × α)) : (ofPairs pairs).keys.Nodup :=
  nodup_keys_insertAll (by simp [keys]) pairs

end Fields

end TemplateExpr
