import TemplateExpr.Proofs.Text.Units

/-!
# The order of texts

Texts are ordered by their code units. No character's units are the front of another's, so the first
character in which two texts differ decides, by its place among the characters (`rank`): the
characters outside the basic plane come between those below the surrogates and those above them.
In particular two texts with the same units are the same (`units_inj`).

* `units_lt_iff` — the order of the units is that of the ranks.
* `units_lt_units_iff` — the first difference decides.
* `rank_lt_iff` — where that is not the order of the code points.
-/

namespace TemplateExpr.Text

/-! ## Sequences of units -/

theorem compareUnits_eq_lt_iff {as bs : List Nat} : compareUnits as bs = .lt ↔ as < bs := by
  induction as generalizing bs with
  | nil => cases bs <;> simp [compareUnits]
  | cons a as ih =>
    cases bs with
    | nil => simp [compareUnits]
    | cons b bs =>
      rw [compareUnits, Ordering.then_eq_lt, Nat.compare_eq_lt, Nat.compare_eq_eq, ih,
        List.cons_lt_cons_iff]

theorem compareUnits_eq_eq_iff {as bs : List Nat} : compareUnits as bs = .eq ↔ as = bs := by
  induction as generalizing bs with
  | nil => cases bs <;> simp [compareUnits]
  | cons a as ih =>
    cases bs with
    | nil => simp [compareUnits]
    | cons b bs =>
      rw [compareUnits, Ordering.then_eq_eq, Nat.compare_eq_eq, ih, List.cons.injEq]

theorem compareUnits_swap (as bs : List Nat) : compareUnits bs as = (compareUnits as bs).swap := by
  induction as generalizing bs with
  | nil => cases bs <;> rfl
  | cons a as ih =>
    cases bs with
    | nil => rfl
    | cons b bs => rw [compareUnits, compareUnits, ih, Ordering.swap_then, Nat.compare_swap]

/-! ## Characters -/

/-- The place of a character among all of them: its first unit, and its second one behind that. -/
def rank (c : Char) : Nat :=
  if c.toNat < 0x10000 then 0x400 * c.toNat else 0x400 * 0xD800 + (c.toNat - 0x10000)

/-- No character is a surrogate, and none is beyond the last plane. -/
theorem toNat_bounds (c : Char) :
    (c.toNat < 0xD800 ∨ 0xDFFF < c.toNat) ∧ c.toNat < 0x110000 := by
  have hvalid : c.toNat.isValidChar := c.valid
  unfold Nat.isValidChar at hvalid
  omega

theorem exists_codeUnits_eq_cons (c : Char) : ∃ u us, codeUnits c = u :: us := by
  unfold codeUnits
  dsimp only
  split <;> exact ⟨_, _, rfl⟩

/-- The units of a character decide, unless the characters are the same. -/
theorem codeUnits_append_lt_iff (c d : Char) (us vs : List Nat) :
    codeUnits c ++ us < codeUnits d ++ vs ↔ rank c < rank d ∨ c = d ∧ us < vs := by
  have hc := toNat_bounds c
  have hd := toNat_bounds d
  rw [← Char.toNat_inj]
  unfold codeUnits rank
  dsimp only
  -- The first units are the same only where the characters have equally many of them.
  split <;> split <;>
    simp only [List.cons_append, List.nil_append, List.cons_lt_cons_iff] <;>
    by_cases hrest : us < vs <;> simp only [hrest, and_true, and_false, or_false] <;> omega

theorem rank_inj {c d : Char} : rank c = rank d ↔ c = d := by
  have hc := toNat_bounds c
  have hd := toNat_bounds d
  rw [← Char.toNat_inj]
  unfold rank
  split <;> split <;> omega

/-- The character is in the basic plane, above the surrogates. -/
def AboveSurrogates (c : Char) : Prop := 0xDFFF < c.toNat ∧ IsBasic c

/-- **The order of the ranks is that of the code points**, but for a character outside the basic plane
and one above the surrogates, which are ordered the other way around. -/
theorem rank_lt_iff {c d : Char} :
    rank c < rank d ↔
      ¬ IsBasic c ∧ AboveSurrogates d ∨
        c.toNat < d.toNat ∧ ¬ (¬ IsBasic d ∧ AboveSurrogates c) := by
  have hc := toNat_bounds c
  have hd := toNat_bounds d
  unfold rank AboveSurrogates IsBasic
  split <;> split <;> omega

/-! ## Texts -/

/-- The code units of a text. -/
def units (s : String) : List Nat := s.toList.flatMap codeUnits

theorem flatMap_codeUnits_lt_iff {cs ds : List Char} :
    cs.flatMap codeUnits < ds.flatMap codeUnits ↔ cs.map rank < ds.map rank := by
  induction cs generalizing ds with
  | nil =>
    cases ds with
    | nil => simp
    | cons d ds =>
      obtain ⟨u, us, hunits⟩ := exists_codeUnits_eq_cons d
      rw [List.flatMap_cons, hunits]
      exact iff_of_true (List.nil_lt_cons _ _) (List.nil_lt_cons _ _)
  | cons c cs ih =>
    cases ds with
    | nil => simp
    | cons d ds =>
      rw [List.flatMap_cons, List.flatMap_cons, codeUnits_append_lt_iff, ih, List.map_cons,
        List.map_cons, List.cons_lt_cons_iff, rank_inj]

/-- The order of the units is that of the ranks of the characters. -/
theorem units_lt_iff {s t : String} :
    units s < units t ↔ s.toList.map rank < t.toList.map rank := flatMap_codeUnits_lt_iff

theorem units_inj {s t : String} : units s = units t ↔ s = t := by
  refine ⟨fun h => ?_, fun h => h ▸ rfl⟩
  have hlt : ¬ s.toList.map rank < t.toList.map rank := by
    rw [← units_lt_iff, h]
    exact List.lt_irrefl _
  have hgt : ¬ t.toList.map rank < s.toList.map rank := by
    rw [← units_lt_iff, h]
    exact List.lt_irrefl _
  have hranks := List.le_antisymm (List.not_lt.mp hgt) (List.not_lt.mp hlt)
  rw [← String.toList_inj]
  exact (List.map_inj_right fun _ _ => rank_inj.mp).mp hranks

/-- **The first difference decides.** -/
theorem units_lt_units_iff {c d : Char} (hne : c ≠ d) (front rest rest' : List Char) :
    units (.ofList (front ++ c :: rest)) < units (.ofList (front ++ d :: rest')) ↔
      rank c < rank d := by
  rw [units_lt_iff, String.toList_ofList, String.toList_ofList, List.map_append, List.map_append,
    List.map_cons, List.map_cons]
  induction front with
  | nil =>
    have hrank : rank c ≠ rank d := mt rank_inj.mp hne
    simp [List.cons_lt_cons_iff, hrank]
  | cons first front ih => simpa [List.cons_lt_cons_iff] using ih

/-- The first difference also decides in the order of the code points. -/
theorem ofList_lt_ofList_iff {c d : Char} (hne : c ≠ d) (front rest rest' : List Char) :
    String.ofList (front ++ c :: rest) < String.ofList (front ++ d :: rest') ↔
      c.toNat < d.toNat := by
  show (String.ofList (front ++ c :: rest)).toList < (String.ofList (front ++ d :: rest')).toList ↔ _
  rw [String.toList_ofList, String.toList_ofList]
  induction front with
  | nil => simpa [List.cons_lt_cons_iff, hne] using Char.lt_def.trans UInt32.lt_iff_toNat_lt
  | cons first front ih => simpa [List.cons_lt_cons_iff] using ih

end TemplateExpr.Text
