import Mathlib.Data.List.Induction
import TemplateExpr.Scope.Basic

/-!
# Two readers of a scope

A name is read from the innermost bindings that have it (`Scope.lookup?`), or from all bindings
flattened into one collection (`Scope.flatten`). The two agree if no frame binds a name twice
(`Scope.get?_flatten`), which every frame made by writing satisfies. Both come down to what the
last write of a name left and to the order of the first writes.
-/

namespace TemplateExpr

/-! ## The first and the last write -/

namespace Fields

variable {α : Type}

/-- The value that was written last under a name. -/
def lastWrite? (pairs : List (String × α)) (key : String) : Option α := pairs.reverse.lookup key

/-- The names in the order of their first writes. -/
def firstWrites (pairs : List (String × α)) : List String := (pairs.map (·.1)).eraseDups

theorem lastWrite?_cons (key : String) (value : α) (pairs : List (String × α)) (other : String) :
    lastWrite? ((key, value) :: pairs) other =
      (lastWrite? pairs other).or (if key = other then some value else none) := by
  rw [lastWrite?, List.reverse_cons, List.lookup_append, List.lookup_cons, List.lookup_nil]
  by_cases h : key = other
  · simp [lastWrite?, h]
  · have hne : (other == key) = false := beq_false_of_ne (Ne.symm h)
    simp [lastWrite?, h, hne]

theorem get?_insertAll (fields : Fields α) (pairs : List (String × α)) (key : String) :
    (fields.insertAll pairs).get? key = (lastWrite? pairs key).or (fields.get? key) := by
  induction pairs generalizing fields with
  | nil => rfl
  | cons pair pairs ih =>
    obtain ⟨k, v⟩ := pair
    rw [lastWrite?_cons, Option.or_assoc]
    show ((fields.insert k v).insertAll pairs).get? key = _
    rw [ih, get?_insert]
    split <;> simp

theorem get?_ofPairs (pairs : List (String × α)) (key : String) :
    (ofPairs pairs).get? key = lastWrite? pairs key := by
  rw [ofPairs, get?_insertAll, get?_nil, Option.or_none]

/-- If no name is written twice, the last write of a name is its only one. -/
theorem lastWrite?_of_nodup {fields : Fields α} (h : fields.keys.Nodup) (key : String) :
    lastWrite? fields key = fields.get? key := by
  induction fields with
  | nil => rfl
  | cons field rest ih =>
    obtain ⟨k, v⟩ := field
    simp only [keys, List.map_cons, List.nodup_cons] at h
    rw [lastWrite?_cons, ih h.2, get?]
    by_cases hk : k = key
    · have hnone : get? rest key = none := get?_eq_none_iff.mpr (hk ▸ h.1)
      simp [hk, hnone]
    · simp [hk]

theorem keys_insert (fields : Fields α) (key : String) (value : α) :
    (fields.insert key value).keys =
      if key ∈ fields.keys then fields.keys else fields.keys ++ [key] := by
  induction fields with
  | nil => rfl
  | cons field rest ih =>
    obtain ⟨k, v⟩ := field
    by_cases hk : k = key
    · simp [insert, keys, hk]
    · have hkeys : (insert ((k, v) :: rest) key value).keys = k :: (insert rest key value).keys := by
        simp [insert, keys, hk]
      rw [hkeys, ih]
      have hcons : key ∈ keys ((k, v) :: rest) ↔ key ∈ keys rest := by
        simp [keys, Ne.symm hk]
      by_cases hmem : key ∈ keys rest
      · rw [if_pos hmem, if_pos (hcons.mpr hmem)]
        rfl
      · rw [if_neg hmem, if_neg fun h => hmem (hcons.mp h)]
        rfl

theorem firstWrites_concat (pairs : List (String × α)) (key : String) (value : α) :
    firstWrites (pairs ++ [(key, value)]) =
      if key ∈ firstWrites pairs then firstWrites pairs else firstWrites pairs ++ [key] := by
  unfold firstWrites
  rw [List.map_append, List.eraseDups_append]
  by_cases hmem : key ∈ pairs.map (·.1)
  · rw [if_pos (List.mem_eraseDups.mpr hmem)]
    simp_all [List.removeAll]
  · rw [if_neg (mt List.mem_eraseDups.mp hmem)]
    simp_all [List.removeAll, List.eraseDups_cons]

/-- Writing keeps the names that are there in their places, and new ones come behind them. -/
theorem keys_insertAll (fields : Fields α) (pairs : List (String × α)) :
    (fields.insertAll pairs).keys =
      fields.keys ++ (firstWrites pairs).filter (· ∉ fields.keys) := by
  induction pairs using List.reverseRecOn with
  | nil => simp [insertAll, firstWrites]
  | append_singleton pairs pair ih =>
    obtain ⟨k, v⟩ := pair
    have hlast : fields.insertAll (pairs ++ [(k, v)]) = (fields.insertAll pairs).insert k v := by
      simp [insertAll]
    rw [hlast, keys_insert, ih, firstWrites_concat]
    by_cases hold : k ∈ fields.keys
    · rw [if_pos (List.mem_append_left _ hold)]
      by_cases hnew : k ∈ firstWrites pairs
      · rw [if_pos hnew]
      · simp [hnew, hold]
    · by_cases hnew : k ∈ firstWrites pairs
      · simp [hnew, hold]
      · simp [hnew, hold]

/-- The names of what is made by writing come in the order of their first writes. -/
theorem keys_ofPairs (pairs : List (String × α)) : (ofPairs pairs).keys = firstWrites pairs := by
  rw [ofPairs, keys_insertAll]
  simp [keys]

theorem eraseDups_of_nodup {names : List String} (h : names.Nodup) : names.eraseDups = names := by
  induction names with
  | nil => rfl
  | cons name names ih =>
    obtain ⟨hname, hnames⟩ := List.nodup_cons.mp h
    have hfilter : names.filter (fun other => !other == name) = names := by
      refine List.filter_eq_self.mpr fun other hother => ?_
      simpa using ne_of_mem_of_not_mem hother hname
    rw [List.eraseDups_cons, hfilter, ih hnames]

theorem firstWrites_of_nodup {fields : Fields α} (h : fields.keys.Nodup) :
    firstWrites fields = fields.keys := eraseDups_of_nodup h

/-- Of frames written over one another, the innermost first, the innermost value is left. -/
theorem get?_foldr_insertAll {frames : List (Fields α)} (h : ∀ frame ∈ frames, frame.keys.Nodup)
    (key : String) :
    (frames.foldr (fun frame (flat : Fields α) => flat.insertAll frame) []).get? key =
      frames.findSome? (·.get? key) := by
  induction frames with
  | nil => rfl
  | cons frame frames ih =>
    rw [List.forall_mem_cons] at h
    rw [List.foldr_cons, List.findSome?_cons, get?_insertAll, lastWrite?_of_nodup h.1, ih h.2]
    cases frame.get? key <;> rfl

end Fields

/-! ## Flattening -/

namespace Scope

theorem lookup?_extend (scope : Scope) (pairs : List (String × Value)) (name : String) :
    (scope.extend pairs).lookup? name = (Fields.lastWrite? pairs name).or (scope.lookup? name) := by
  simp only [lookup?, extend, frames, List.findSome?_cons, Fields.get?_insertAll]
  cases Fields.lastWrite? pairs name <;> rfl

/-- No frame of a scope binds a name twice. -/
def Distinct (scope : Scope) : Prop := ∀ frame ∈ scope.frames, frame.keys.Nodup

/-- The visible bindings of the scopes around this one. -/
def inherited (scope : Scope) : Fields Value := (scope.parent?.map flatten).getD []

theorem flatten_eq (scope : Scope) : scope.flatten = scope.inherited.insertAll scope.locals := by
  obtain ⟨locals, enclosing⟩ := scope
  cases enclosing <;> rfl

/-- **Flattening keeps the innermost value of every name.** -/
theorem get?_flatten {scope : Scope} (h : scope.Distinct) (name : String) :
    scope.flatten.get? name = scope.lookup? name := Fields.get?_foldr_insertAll h name

/-- **Flattening lists the names of the scopes around this one, and its own behind them.** -/
theorem keys_flatten {scope : Scope} (h : scope.Distinct) :
    scope.flatten.keys =
      scope.inherited.keys ++ scope.locals.keys.filter (· ∉ scope.inherited.keys) := by
  have hlocals : scope.locals.keys.Nodup := h _ List.mem_cons_self
  rw [flatten_eq, Fields.keys_insertAll, Fields.firstWrites_of_nodup hlocals]

theorem nodup_keys_flatten (scope : Scope) : scope.flatten.keys.Nodup := by
  unfold flatten
  induction scope.frames with
  | nil => exact List.nodup_nil
  | cons frame frames ih => exact Fields.nodup_keys_insertAll ih frame

/-! ## Names -/

theorem mem_names_iff {scope : Scope} (h : scope.Distinct) {name : String} :
    name ∈ scope.names ↔ scope.has name := by
  rw [names, List.mem_mergeSort, has, ← get?_flatten h, Option.isSome_iff_ne_none, ne_eq,
    Fields.get?_eq_none_iff, not_not]

theorem pairwise_names (scope : Scope) : scope.names.Pairwise (· < ·) := by
  have hdistinct : scope.names.Pairwise (· ≠ ·) :=
    (List.mergeSort_perm _ _).nodup_iff.mpr scope.nodup_keys_flatten
  have hle : ∀ a b : String, (!decide (b < a)) = true ↔ a ≤ b := by
    intro a b
    rw [Bool.not_eq_true', decide_eq_false_iff_not, String.not_lt]
  have hsorted : scope.names.Pairwise fun a b => (!decide (b < a)) = true := by
    refine List.pairwise_mergeSort (fun a b c hab hbc => ?_) (fun a b => ?_) _
    · rw [hle] at hab hbc ⊢
      exact String.le_trans hab hbc
    · rw [Bool.or_eq_true, hle, hle]
      exact String.le_total a b
  refine hsorted.imp₂ (fun a b hab hne => ?_) hdistinct
  exact Std.lt_of_le_of_ne ((hle a b).mp hab) hne

end Scope

end TemplateExpr
