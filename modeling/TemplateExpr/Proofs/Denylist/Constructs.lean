import Mathlib.Data.List.Forall2
import Mathlib.Data.List.Infix
import TemplateExpr.Denylist
import TemplateExpr.Proofs.Syntax.Tiling

/-!
# The texts that the denylist refuses

What a construct of the denylist looks like is said here without patterns and without folding:
a word in any case, and a point or blanks and a parenthesis behind it (`Denylist.Construct`). The
check refuses exactly the texts that contain one (`isDangerous_iff`), so what is refused stays
refused inside any other text.
-/

namespace TemplateExpr

namespace Denylist

/-! ## Constructs -/

/-- A character counts as a letter of a word: it is that letter in either case, or one of the two
characters that Unicode folds to letters of ASCII. -/
inductive CountsAs : Char → Char → Prop where
  | letter {c letter : Char} (h : c.toLower = letter.toLower) : CountsAs c letter
  | longS {letter : Char} (h : letter.toLower = 's') : CountsAs '\u017F' letter
  | kelvin {letter : Char} (h : letter.toLower = 'k') : CountsAs '\u212A' letter

/-- The characters are those of the word, without regard to case. -/
def Spells (written : List Char) (word : String) : Prop :=
  List.Forall₂ CountsAs written word.toList

/-- The words that may not be called. -/
def callWords : List String :=
  ["eval", "Function", "setTimeout", "setInterval", "import", "require", "constructor"]

/-- The words that may not have a member read. -/
def memberWords : List String := ["process", "global", "window", "document", "prototype"]

/-- The word that may not occur at all. -/
def bareWord : String := "__proto__"

/-- Characters that no expression may contain. -/
inductive Construct : List Char → Prop where
  | bare {written : List Char} (h : Spells written bareWord) : Construct written
  | member {written : List Char} {word : String} (hword : word ∈ memberWords)
      (h : Spells written word) : Construct (written ++ ['.'])
  | call {written gap : List Char} {word : String} (hword : word ∈ callWords)
      (h : Spells written word) (hgap : IsGap gap) : Construct (written ++ (gap ++ ['(']))

/-- A construct stands somewhere in a text. -/
def Contains (cs : List Char) : Prop := ∃ construct, Construct construct ∧ construct <:+: cs

theorem Contains.mono {cs cs' : List Char} (h : Contains cs) (hwithin : cs <:+: cs') :
    Contains cs' := by
  obtain ⟨construct, hconstruct, hcs⟩ := h
  exact ⟨construct, hconstruct, hcs.trans hwithin⟩

/-! ## Words -/

theorem toLower_ne_of_lt {c : Char} (h : c.toNat < 128) :
    c.toLower ≠ '\u017F' ∧ c.toLower ≠ '\u212A' := by
  have hall : ∀ n < 128, (Char.ofNat n).toLower ≠ '\u017F' ∧ (Char.ofNat n).toLower ≠ '\u212A' := by
    decide
  have hc := hall c.toNat h
  rwa [Char.ofNat_toNat] at hc

theorem fold_of_lt {c : Char} (h : c.toNat < 128) : Pattern.fold c = c.toLower := by
  have hs : c ≠ '\u017F' := by
    rintro rfl
    exact absurd h (by decide)
  have hk : c ≠ '\u212A' := by
    rintro rfl
    exact absurd h (by decide)
  rw [Pattern.fold, if_neg hs, if_neg hk]

theorem fold_eq_iff {c letter : Char} (h : letter.toNat < 128) :
    Pattern.fold c = Pattern.fold letter ↔ CountsAs c letter := by
  rw [fold_of_lt h]
  constructor
  · intro hfold
    unfold Pattern.fold at hfold
    split at hfold
    · rename_i hc
      exact hc ▸ .longS hfold.symm
    · split at hfold
      · rename_i hc
        exact hc ▸ .kelvin hfold.symm
      · exact .letter hfold
  · intro hcounts
    obtain ⟨hs, hk⟩ := toLower_ne_of_lt h
    cases hcounts with
    | letter heq =>
      have hcs : c ≠ '\u017F' := fun hc => hs (by rw [← heq, hc]; decide)
      have hck : c ≠ '\u212A' := fun hc => hk (by rw [← heq, hc]; decide)
      rw [Pattern.fold, if_neg hcs, if_neg hck, heq]
    | longS hletter => rw [hletter]; decide
    | kelvin hletter => rw [hletter]; decide

theorem map_fold_eq_iff {written : List Char} {word : String}
    (h : ∀ c ∈ word.toList, c.toNat < 128) :
    written.map Pattern.fold = word.toList.map Pattern.fold ↔ Spells written word := by
  unfold Spells
  generalize word.toList = letters at h ⊢
  induction letters generalizing written with
  | nil => simp
  | cons letter letters ih =>
    obtain ⟨hletter, hletters⟩ := List.forall_mem_cons.mp h
    cases written with
    | nil => simp
    | cons c written =>
      rw [List.map_cons, List.map_cons, List.cons.injEq, fold_eq_iff hletter, ih hletters,
        List.forall₂_cons]

/-! ## Patterns -/

/-- What may be written for a tail. -/
inductive Ends : Tail → List Char → Prop where
  | call {gap : List Char} (hgap : IsGap gap) : Ends .call (gap ++ ['('])
  | member : Ends .member ['.']
  | anything : Ends .anything []

theorem tailFollows_iff {tail : Tail} {cs : List Char} :
    Pattern.tailFollows tail cs ↔ ∃ written, Ends tail written ∧ written <+: cs := by
  constructor
  · intro h
    cases tail with
    | call =>
      refine ⟨_, .call (isGap_takeWhile cs), ?_⟩
      have hcs := List.takeWhile_append_dropWhile (p := Text.isBlank) (l := cs)
      have hhead : (cs.dropWhile Text.isBlank).head? = some '(' := by
        simpa [Pattern.tailFollows, Text.trimStart] using h
      obtain ⟨rest, hrest⟩ := List.head?_eq_some_iff.mp hhead
      rw [hrest] at hcs
      exact ⟨rest, by simpa using hcs⟩
    | member =>
      have hhead : cs.head? = some '.' := by simpa [Pattern.tailFollows] using h
      obtain ⟨rest, rfl⟩ := List.head?_eq_some_iff.mp hhead
      exact ⟨_, .member, rest, rfl⟩
    | anything => exact ⟨_, .anything, List.nil_prefix⟩
  · rintro ⟨written, hends, rest, rfl⟩
    cases hends with
    | @call gap hgap =>
      have hblank : ¬ Text.isBlank '(' := by decide
      have hdrop : (gap ++ '(' :: rest).dropWhile Text.isBlank = '(' :: rest :=
        dropWhile_append_of_stop hgap (by simpa using hblank)
      simp [Pattern.tailFollows, Text.trimStart, hdrop]
    | member => rfl
    | anything => rfl

theorem startsText_iff {p : Pattern} (h : ∀ c ∈ p.word.toList, c.toNat < 128) {cs : List Char} :
    p.startsText cs ↔
      ∃ written ending, Spells written p.word ∧ Ends p.tail ending ∧ written ++ ending <+: cs := by
  simp only [Pattern.startsText, Bool.and_eq_true, beq_iff_eq, List.length_map, tailFollows_iff]
  constructor
  · rintro ⟨hword, ending, hends, rest, hrest⟩
    refine ⟨cs.take p.word.toList.length, ending, (map_fold_eq_iff h).mp hword.symm, hends, rest, ?_⟩
    rw [List.append_assoc, hrest, List.take_append_drop]
  · rintro ⟨written, ending, hspells, hends, rest, rfl⟩
    have hlength : written.length = p.word.toList.length := hspells.length_eq
    rw [List.append_assoc, List.take_left' hlength, List.drop_left' hlength]
    exact ⟨((map_fold_eq_iff h).mpr hspells).symm, ending, hends, List.prefix_append _ _⟩

theorem occursIn_iff {p : Pattern} {cs : List Char} :
    p.occursIn cs ↔ ∃ rest, rest <:+ cs ∧ p.startsText rest := by
  induction cs with
  | nil => simp [Pattern.occursIn]
  | cons c cs ih => simp [Pattern.occursIn, ih, List.suffix_cons_iff]

theorem isDangerous_iff_exists {text : String} :
    isDangerous text ↔ ∃ p ∈ denylist, p.occursIn text.toList := by
  simp [isDangerous, findDangerous?]

theorem lt_of_mem_denylist {p : Pattern} (h : p ∈ denylist) : ∀ c ∈ p.word.toList, c.toNat < 128 := by
  have hall : (denylist.all fun p => p.word.toList.all (·.toNat < 128)) = true := by decide
  simpa using List.all_eq_true.mp hall p h

/-- The patterns are the words of the three lists with the tails that go with these. -/
theorem mem_denylist_iff {word : String} {tail : Tail} :
    ⟨word, tail⟩ ∈ denylist ↔
      match tail with
      | .call => word ∈ callWords
      | .member => word ∈ memberWords
      | .anything => word = bareWord := by
  cases tail <;> simp [denylist, callWords, memberWords, bareWord]

/-- A construct is a word of a pattern and what its tail may be written as. -/
theorem construct_iff {cs : List Char} :
    Construct cs ↔
      ∃ p ∈ denylist, ∃ written ending, Spells written p.word ∧ Ends p.tail ending ∧
        cs = written ++ ending := by
  constructor
  · intro h
    cases h with
    | bare h =>
      exact ⟨⟨bareWord, .anything⟩, mem_denylist_iff.mpr rfl, cs, [], h, .anything, by simp⟩
    | member hword h =>
      exact ⟨⟨_, .member⟩, mem_denylist_iff.mpr hword, _, _, h, .member, rfl⟩
    | call hword h hgap =>
      exact ⟨⟨_, .call⟩, mem_denylist_iff.mpr hword, _, _, h, .call hgap, rfl⟩
  · rintro ⟨⟨word, tail⟩, hp, written, ending, hspells, hends, rfl⟩
    have hword := mem_denylist_iff.mp hp
    cases hends with
    | call hgap => exact .call hword hspells hgap
    | member => exact .member hword hspells
    | anything =>
      rw [List.append_nil]
      exact .bare (hword ▸ hspells)

end Denylist

/-- **The check refuses the texts that contain a construct**, and no others. -/
theorem isDangerous_iff {text : String} : isDangerous text ↔ Denylist.Contains text.toList := by
  rw [Denylist.isDangerous_iff_exists]
  constructor
  · rintro ⟨p, hp, hoccurs⟩
    obtain ⟨rest, hrest, hstarts⟩ := Denylist.occursIn_iff.mp hoccurs
    obtain ⟨written, ending, hspells, hends, hfront⟩ :=
      (Denylist.startsText_iff (Denylist.lt_of_mem_denylist hp)).mp hstarts
    exact ⟨written ++ ending, Denylist.construct_iff.mpr ⟨p, hp, _, _, hspells, hends, rfl⟩,
      hfront.isInfix.trans hrest.isInfix⟩
  · rintro ⟨construct, hconstruct, hwithin⟩
    obtain ⟨p, hp, written, ending, hspells, hends, rfl⟩ := Denylist.construct_iff.mp hconstruct
    obtain ⟨rest, hfront, hsuffix⟩ := List.infix_iff_prefix_suffix.mp hwithin
    refine ⟨p, hp, Denylist.occursIn_iff.mpr ⟨rest, hsuffix, ?_⟩⟩
    exact (Denylist.startsText_iff (Denylist.lt_of_mem_denylist hp)).mpr
      ⟨written, ending, hspells, hends, hfront⟩

theorem refuseDangerous_eq_error_iff {text : String} :
    refuseDangerous text = .error (.dangerous text) ↔ Denylist.Contains text.toList := by
  rw [← isDangerous_iff]
  cases hdangerous : isDangerous text <;> simp [refuseDangerous, hdangerous]

theorem refuseDangerous_eq_ok_iff {text : String} :
    refuseDangerous text = .ok () ↔ ¬ Denylist.Contains text.toList := by
  rw [← isDangerous_iff]
  cases hdangerous : isDangerous text <;> simp [refuseDangerous, hdangerous]

end TemplateExpr
