import TemplateExpr.Library.Call
import TemplateExpr.Proofs.Number.Line
import TemplateExpr.Proofs.Number.Whole

/-!
# Aggregates

An aggregate looks at an array through a field: at the items themselves, or at the values that a path
leads to (`Value.seenThrough`). The numbers at the front of these values, zero where there is none,
are all that the sum, the mean and the extremes depend on (`numbers?_array`). As no number among them
is missing, they are on a line, where the lesser and the greater of two numbers are chosen again and
again: what is left is a member that is not behind, or not before, any other (`foldl_spec`). So the
order of the items does not matter, but for the sign of a zero.

A count looks at the values and not at numbers: without a field at no value at all, so that every
item counts, and with a field at whether something is there (`Value.IsPresent`).

* `aggregates_summarise_numbers` — the laws of all five, together.
-/

namespace TemplateExpr

open Number Library

namespace Value

/-! ## Fields -/

/-- An argument asks for a field. -/
def IsField (field : Value) : Prop := ¬ field.isNullish ∧ field ≠ string ""

theorem path?_of_isField {field : Value} (h : field.IsField) : path? field = some field.text := by
  obtain ⟨hnullish, hempty⟩ := h
  cases field with
  | undefined | null => exact absurd rfl hnullish
  | string s =>
    have hs : s.isEmpty = false := by
      rw [← Bool.not_eq_true, String.isEmpty_iff]
      exact fun h => hempty (congrArg string h)
    rw [path?, hs, if_neg Bool.false_ne_true, text]
  | _ => rfl

theorem path?_of_not_isField {field : Value} (h : ¬ field.IsField) : path? field = none := by
  rw [IsField, not_and_or, Decidable.not_not, Classical.not_not] at h
  rcases h with hnullish | rfl
  · cases field with
    | undefined | null => rfl
    | _ => cases hnullish
  · rfl

instance : DecidablePred IsField := fun field =>
  decidable_of_iff ((path? field).isSome) <| by
    by_cases h : field.IsField
    · rw [path?_of_isField h]
      exact iff_of_true rfl h
    · rw [path?_of_not_isField h]
      exact iff_of_false Bool.false_ne_true h

/-- What is seen of an item: the value at the path that a field spells, and the item itself without a
field. -/
def seenThrough (item field : Value) : Value :=
  if field.IsField then item.getPath field.text else item

theorem projected_path? (field item : Value) :
    projected (path? field) item = item.seenThrough field := by
  unfold seenThrough
  split
  next h => rw [path?_of_isField h, projected]
  next h => rw [path?_of_not_isField h, projected]

/-- There is something: neither an absent value, nor `false`, nor the empty text. -/
def IsPresent (v : Value) : Prop := v ≠ undefined ∧ v ≠ null ∧ v ≠ bool false ∧ v ≠ string ""

theorem counts_iff {v : Value} : counts v ↔ v.IsPresent := by
  unfold counts IsPresent
  cases v with
  | string s => simp
  | _ => simp

instance : DecidablePred IsPresent := fun _ => decidable_of_iff _ counts_iff

end Value

namespace Library

/-! ## The numbers that are summarised -/

/-- The numbers at the front of what a field shows of some items, zero where there is none. -/
def numbersThrough (field : Value) (items : List Value) : List Number :=
  items.map fun item =>
    let n := (item.seenThrough field).leadingNumber
    if n = nan then 0 else n

variable {items items' : List Value} {rest : Arguments} {field : Value}

theorem leadingNumberOrZero_eq (v : Value) :
    leadingNumberOrZero v = if v.leadingNumber = nan then 0 else v.leadingNumber := by
  unfold leadingNumberOrZero
  cases v.leadingNumber <;> rfl

theorem numbers?_array (items : List Value) (rest : Arguments) :
    numbers? (.array items :: rest) = some (numbersThrough (rest.arg 0) items) := by
  refine congrArg some (List.map_congr_left fun item _ => ?_)
  exact (leadingNumberOrZero_eq _).trans (by rw [Value.projected_path?]; rfl)

theorem ne_nan_of_mem_numbersThrough {n : Number} (h : n ∈ numbersThrough field items) :
    n ≠ nan := by
  obtain ⟨item, -, rfl⟩ := List.mem_map.mp h
  dsimp only
  split
  · exact ne_nan_of_isNaN (isNaN_natural 0)
  · assumption

theorem exists_numbersThrough_eq (field : Value) (hne : items ≠ []) :
    ∃ n ns, numbersThrough field items = n :: ns :=
  List.exists_cons_of_ne_nil (mt List.map_eq_nil_iff.mp hne)

/-! ## Extremes -/

/-- Of two numbers that can be compared, a choice is one that is not behind the other. -/
def Chooses {β : Type} [Preorder β] (f : Number → β) (combine : Number → Number → Number) : Prop :=
  ∀ {a b : Number}, a ≠ nan → b ≠ nan →
    (combine a b = a ∨ combine a b = b) ∧ f (combine a b) ≤ f a ∧ f (combine a b) ≤ f b

theorem chooses_min : Chooses onLine Number.min := min_spec

theorem chooses_max : Chooses (OrderDual.toDual ∘ onLine) Number.max := max_spec

section

variable {β : Type} [PartialOrder β] {f : Number → β} {combine : Number → Number → Number}
  (hcombine : Chooses f combine)
include hcombine

/-- A choice that is made again and again leaves a number that is not behind any other. -/
theorem foldl_spec {n : Number} {ns : List Number} (hn : n ≠ nan) (hns : ∀ m ∈ ns, m ≠ nan) :
    ns.foldl combine n ∈ n :: ns ∧ ∀ m ∈ n :: ns, f (ns.foldl combine n) ≤ f m := by
  induction ns generalizing n with
  | nil => simp
  | cons m ns ih =>
    obtain ⟨hm, hns⟩ := List.forall_mem_cons.mp hns
    obtain ⟨hchoice, hfirst, hsecond⟩ := hcombine hn hm
    have hne : combine n m ≠ nan := by rcases hchoice with h | h <;> rwa [h]
    obtain ⟨hmem, hle⟩ := ih hne hns
    obtain ⟨hchosen, hothers⟩ := List.forall_mem_cons.mp hle
    rw [List.foldl_cons]
    refine ⟨?_, List.forall_mem_cons.mpr ⟨hchosen.trans hfirst,
      List.forall_mem_cons.mpr ⟨hchosen.trans hsecond, hothers⟩⟩⟩
    rcases List.mem_cons.mp hmem with h | h
    · rw [h]
      rcases hchoice with h | h <;> rw [h]
      · exact List.mem_cons_self
      · exact List.mem_cons_of_mem _ List.mem_cons_self
    · exact List.mem_cons_of_mem _ (List.mem_cons_of_mem _ h)

theorem combined_spec (rest : Arguments) (hne : items ≠ []) :
    combined combine (.array items :: rest) ∈ numbersThrough (rest.arg 0) items ∧
      ∀ m ∈ numbersThrough (rest.arg 0) items,
        f (combined combine (.array items :: rest)) ≤ f m := by
  obtain ⟨n, ns, hnumbers⟩ := exists_numbersThrough_eq (rest.arg 0) hne
  have hnan : ∀ m ∈ n :: ns, m ≠ nan := fun m hm =>
    ne_nan_of_mem_numbersThrough (hnumbers ▸ hm)
  have hcombined : combined combine (.array items :: rest) = ns.foldl combine n := by
    rw [combined, numbers?_array, hnumbers]
  rw [hcombined, hnumbers]
  exact foldl_spec hcombine (hnan n List.mem_cons_self) fun m hm =>
    hnan m (List.mem_cons_of_mem _ hm)

theorem combined_ne_nan (items : List Value) (rest : Arguments) :
    combined combine (.array items :: rest) ≠ nan := by
  by_cases hne : items = []
  · subst hne
    exact ne_nan_of_isNaN (isNaN_natural 0)
  · exact ne_nan_of_mem_numbersThrough (combined_spec hcombine rest hne).1

/-- What is left of the same items in another order is at the same place. -/
theorem combined_perm (rest : Arguments) (h : items.Perm items') :
    f (combined combine (.array items :: rest)) = f (combined combine (.array items' :: rest)) := by
  by_cases hne : items = []
  · rw [hne] at h
    rw [hne, h.nil_eq]
  · obtain ⟨hmem, hle⟩ := combined_spec hcombine rest hne
    obtain ⟨hmem', hle'⟩ := combined_spec hcombine rest
      fun hnil => hne (List.perm_nil.mp (hnil ▸ h))
    have hnumbers : (numbersThrough (rest.arg 0) items).Perm (numbersThrough (rest.arg 0) items') :=
      h.map _
    exact le_antisymm (hle _ (hnumbers.mem_iff.mpr hmem')) (hle' _ (hnumbers.mem_iff.mp hmem))

end

theorem minimum_spec (hne : items ≠ []) :
    minimum (.array items :: rest) ∈ numbersThrough (rest.arg 0) items ∧
      ∀ m ∈ numbersThrough (rest.arg 0) items, (minimum (.array items :: rest)).atMost m := by
  obtain ⟨hmem, hle⟩ := combined_spec chooses_min rest hne
  exact ⟨hmem, fun m hm => (atMost_iff_onLine_le (ne_nan_of_mem_numbersThrough hmem)
    (ne_nan_of_mem_numbersThrough hm)).mpr (hle m hm)⟩

theorem maximum_spec (hne : items ≠ []) :
    maximum (.array items :: rest) ∈ numbersThrough (rest.arg 0) items ∧
      ∀ m ∈ numbersThrough (rest.arg 0) items, m.atMost (maximum (.array items :: rest)) := by
  obtain ⟨hmem, hle⟩ := combined_spec chooses_max rest hne
  exact ⟨hmem, fun m hm => (atMost_iff_onLine_le (ne_nan_of_mem_numbersThrough hm)
    (ne_nan_of_mem_numbersThrough hmem)).mpr (hle m hm)⟩

theorem minimum_ne_nan (items : List Value) (rest : Arguments) :
    minimum (.array items :: rest) ≠ nan := combined_ne_nan chooses_min items rest

theorem maximum_ne_nan (items : List Value) (rest : Arguments) :
    maximum (.array items :: rest) ≠ nan := combined_ne_nan chooses_max items rest

theorem minimum_perm (h : items.Perm items') :
    (minimum (.array items :: rest)).readBack = (minimum (.array items' :: rest)).readBack :=
  readBack_eq_of_onLine_eq (minimum_ne_nan items rest) (minimum_ne_nan items' rest)
    (combined_perm chooses_min rest h)

theorem maximum_perm (h : items.Perm items') :
    (maximum (.array items :: rest)).readBack = (maximum (.array items' :: rest)).readBack :=
  readBack_eq_of_onLine_eq (maximum_ne_nan items rest) (maximum_ne_nan items' rest)
    (combined_perm chooses_max rest h)

/-! ## Sums -/

theorem sum_array (items : List Value) (rest : Arguments) :
    sum (.array items :: rest) = (numbersThrough (rest.arg 0) items).foldl (· + ·) (.zero true) := by
  rw [sum, numbers?_array]
  rfl

theorem average_array (hne : items ≠ []) :
    average (.array items :: rest) = sum (.array items :: rest) / .ofNat items.length := by
  obtain ⟨n, ns, hnumbers⟩ := exists_numbersThrough_eq (rest.arg 0) hne
  have hlength : (n :: ns).length = items.length := by rw [← hnumbers, numbersThrough, List.length_map]
  rw [sum_array, average, numbers?_array, hnumbers, ← hlength]
  rfl

/-! ## Counts -/

/-- How many items show something through a field; without a field, all of them. -/
def countThrough (field : Value) (items : List Value) : Nat :=
  items.countP fun item => ¬ field.IsField ∨ (item.seenThrough field).IsPresent

theorem count_array (items : List Value) (rest : Arguments) :
    count (.array items :: rest) = .ofNat (countThrough (rest.arg 0) items) := by
  have hitems : Arguments.arg (.array items :: rest) 0 = .array items := rfl
  have hpath : Arguments.arg (.array items :: rest) 1 = rest.arg 0 := rfl
  rw [count, hitems, hpath, countThrough]
  dsimp only
  by_cases hfield : (rest.arg 0).IsField
  · rw [Value.path?_of_isField hfield]
    refine congrArg Number.ofNat (List.countP_congr fun item _ => ?_)
    rw [Value.counts_iff, Value.seenThrough, if_pos hfield]
    simp [hfield]
  · rw [Value.path?_of_not_isField hfield, List.countP_eq_length.mpr (by simp [hfield])]

theorem countThrough_le (field : Value) (items : List Value) :
    countThrough field items ≤ items.length := List.countP_le_length

/-! ## Other values -/

theorem call_of_not_array {arguments : Arguments} (h : ∀ items, arguments.arg 0 ≠ .array items)
    (now : Instant) {f : Formula} (hf : f ∈ [Formula.sum, .avg, .min, .max, .count]) :
    f.call now arguments = .ok (.number 0) := by
  have hnone : numbers? arguments = none := by
    unfold numbers?
    cases harg : arguments.arg 0 with
    | array items => exact absurd harg (h items)
    | _ => rfl
  have hcombined (combine : Number → Number → Number) : combined combine arguments = 0 := by
    rw [combined, hnone]
  simp only [List.mem_cons, List.not_mem_nil, or_false] at hf
  rcases hf with rfl | rfl | rfl | rfl | rfl
  · rw [Formula.call, sum, hnone]
  · rw [Formula.call, average, hnone]
  · rw [Formula.call, minimum, hcombined]
  · rw [Formula.call, maximum, hcombined]
  · unfold Formula.call count
    dsimp only
    cases harg : arguments.arg 0 with
    | array items => exact absurd harg (h items)
    | _ => rfl

/-- **Aggregates summarise the numbers that a field shows.** These are the numbers at the front of the
values at a path, or of the items themselves without a field, and zero where there is none. The
extremes of an array that is not empty are among them and bound them all; they are never not-a-number,
and the order of the items can only change the sign of a zero. The mean is the sum, taken from the
left, divided by the number of items. A count does not depend on the order of the items, and adds up
over the parts of an array, also in doubles if one can hold the length; with a field it counts the
items in which the field has something to show. What is not an array aggregates to zero. -/
theorem aggregates_summarise_numbers (now : Instant) :
    (∀ (items : List Value) (rest : Arguments), ∃ low high sum mean : Number,
      Formula.min.call now (.array items :: rest) = .ok (.number low) ∧
      Formula.max.call now (.array items :: rest) = .ok (.number high) ∧
      Formula.sum.call now (.array items :: rest) = .ok (.number sum) ∧
      Formula.avg.call now (.array items :: rest) = .ok (.number mean) ∧
      low ≠ nan ∧ high ≠ nan ∧
      (∀ items', items.Perm items' → ∃ low' high' : Number,
        Formula.min.call now (.array items' :: rest) = .ok (.number low') ∧
        Formula.max.call now (.array items' :: rest) = .ok (.number high') ∧
        low.readBack = low'.readBack ∧ high.readBack = high'.readBack) ∧
      sum = (numbersThrough (rest.arg 0) items).foldl (· + ·) (.zero true) ∧
      (items ≠ [] →
        (low ∈ numbersThrough (rest.arg 0) items ∧
          ∀ n ∈ numbersThrough (rest.arg 0) items, low.atMost n) ∧
        (high ∈ numbersThrough (rest.arg 0) items ∧
          ∀ n ∈ numbersThrough (rest.arg 0) items, n.atMost high) ∧
        mean = sum / .ofNat items.length)) ∧
    (∀ field : Value, ∃ count : List Value → Nat,
      (∀ (items : List Value) (rest : Arguments), rest.arg 0 = field →
        Formula.count.call now (.array items :: rest) = .ok (.number (.ofNat (count items)))) ∧
      (∀ items items', items.Perm items' → count items = count items') ∧
      (∀ items items', count (items ++ items') = count items + count items') ∧
      (∀ items items', (items ++ items').length < 2 ^ 53 →
        Number.ofNat (count (items ++ items')) = .ofNat (count items) + .ofNat (count items')) ∧
      (∀ items, count items ≤ items.length) ∧
      (field.IsField → ∀ items,
        count items = items.countP fun item => (item.getPath field.text).IsPresent) ∧
      (¬ field.IsField → ∀ items, count items = items.length)) ∧
    ∀ arguments : Arguments, (∀ items, arguments.arg 0 ≠ .array items) →
      ∀ f ∈ [Formula.sum, .avg, .min, .max, .count], f.call now arguments = .ok (.number 0) := by
  refine ⟨fun items rest => ⟨_, _, _, _, rfl, rfl, rfl, rfl, minimum_ne_nan items rest,
      maximum_ne_nan items rest, fun items' h => ⟨_, _, rfl, rfl, minimum_perm h, maximum_perm h⟩,
      sum_array items rest, fun hne => ⟨minimum_spec hne, maximum_spec hne, average_array hne⟩⟩,
    fun field => ⟨countThrough field, ?_, fun _ _ h => h.countP_eq _,
      fun _ _ => List.countP_append, fun items items' h => ?_, countThrough_le field,
      fun hfield items => ?_, fun hfield items => ?_⟩,
    fun _ h _ hf => call_of_not_array h now hf⟩
  · rintro items rest rfl
    rw [Formula.call, count_array]
  · have hle := countThrough_le field (items ++ items')
    have hsum : countThrough field (items ++ items') =
        countThrough field items + countThrough field items' := List.countP_append
    rw [hsum, ofNat_add_ofNat (by omega)]
  · exact List.countP_congr fun item _ => by simp [Value.seenThrough, hfield]
  · exact List.countP_eq_length.mpr (by simp [hfield])

/-- A text, nothing and an infinity along a path of two keys, in two orders. -/
theorem aggregates_summarise_numbers_of_rows :
    let row (v : Value) : Value := .object [("line", .object [("total", v)])]
    let rows := [row (.string "4px"), row .null, row (.number (.infinite true))]
    let field : Value := .string "line.total"
    rows ≠ [] ∧ field.IsField ∧ numbersThrough field rows = [4, 0, .infinite true] ∧
      (∃ low low', Formula.min.call ⟨0, 0⟩ [.array rows, field] = .ok (.number low) ∧
        Formula.min.call ⟨0, 0⟩ [.array rows.reverse, field] = .ok (.number low') ∧
        low.atMost (.infinite true) ∧ low.readBack = low'.readBack) ∧
      Formula.count.call ⟨0, 0⟩ [.array rows, field] = .ok (.number (.ofNat 2)) ∧
      Formula.avg.call ⟨0, 0⟩ [.string "line", field] = .ok (.number 0) := by
  intro row rows field
  obtain ⟨hnumbers, hcount, hother⟩ := aggregates_summarise_numbers ⟨0, 0⟩
  have hfield : field.IsField := ⟨Bool.false_ne_true, by simp [field]⟩
  have hrows : numbersThrough field rows = [4, 0, .infinite true] := by decide +kernel
  obtain ⟨low, _, _, _, hlow, -, -, -, -, -, hperm, -, hextremes⟩ := hnumbers rows [field]
  obtain ⟨low', _, hlow', -, hread, -⟩ := hperm rows.reverse rows.reverse_perm.symm
  obtain ⟨count, hcall, -, -, -, -, hpresent, -⟩ := hcount field
  have htwo : count rows = 2 := (hpresent hfield rows).trans (by decide +kernel)
  have hmem : Number.infinite true ∈ numbersThrough field rows := by simp [hrows]
  exact ⟨List.cons_ne_nil _ _, hfield, hrows,
    ⟨low, low', hlow, hlow', (hextremes (List.cons_ne_nil _ _)).1.2 _ hmem, hread⟩,
    htwo ▸ hcall rows [field] rfl,
    hother [.string "line", field] (fun _ h => by cases h) .avg (by simp)⟩

end Library

end TemplateExpr
