import TemplateExpr.Json.Reader

/-!
# Well-formed documents

A program holds the integers of a document in 64 bits and its objects as collections in which each
key has one place (`Json.WellFormed`). Every document that is read from a text is like that
(`Json.wellFormed_of_ofText?`): a reader of numbers gives integers of 64 bits, and a reader of
documents, given that the readers of what is in them do the same, gives well-formed ones.
-/

namespace TemplateExpr.Json

/-- An integer fits into 64 bits, with a sign if it is negative. -/
def Numeral.FitsWord : Numeral → Prop
  | .integer i => -0x8000000000000000 ≤ i ∧ i < 0x10000000000000000
  | .double _ => True

/-- Each integer fits into 64 bits, and each object holds each key once. -/
inductive WellFormed : Json → Prop where
  | null : WellFormed null
  | bool (b : Bool) : WellFormed (bool b)
  | number {n : Numeral} (h : n.FitsWord) : WellFormed (number n)
  | string (s : String) : WellFormed (string s)
  | array {items : List Json} (h : ∀ item ∈ items, WellFormed item) : WellFormed (array items)
  | object {members : Fields Json} (hkeys : members.keys.Nodup)
      (h : ∀ member ∈ members, WellFormed member.2) : WellFormed (object members)

/-! ## Documents that are read -/

theorem accumulate_lt {n : Nat} (h : n < 0x10000000000000000) (cs : List Char) :
    (accumulate n cs).1 < 0x10000000000000000 := by
  induction cs generalizing n with
  | nil => exact h
  | cons c cs ih =>
    rw [accumulate]
    split
    next hnext => exact ih hnext
    next => exact h

theorem fitsWord_of_double? {negative : Bool} {magnitude : Number} {n : Numeral}
    (h : double? negative magnitude = some n) : n.FitsWord := by
  unfold double? at h
  split at h <;> cases h
  trivial

theorem fitsWord_of_integer? {negative : Bool} {m : Nat} {n : Numeral}
    (hm : m < 0x10000000000000000) (h : integer? negative m = some n) : n.FitsWord := by
  unfold integer? at h
  split at h
  · split at h
    · cases h
      constructor <;> omega
    · exact fitsWord_of_double? h
  · cases h
    constructor <;> omega

theorem fitsWord_of_numberOf {negative : Bool} {whole : List Char} {fraction : Option (List Char)}
    {exponent : Option (Bool × List Char)} {n : Numeral}
    (h : numberOf negative whole fraction exponent = some n) : n.FitsWord := by
  unfold numberOf at h
  have hlt := accumulate_lt (n := 0) (by decide) whole
  dsimp only at h
  split at h
  · exact fitsWord_of_integer? hlt h
  · split at h
    · obtain ⟨_, -, h⟩ := Option.bind_eq_some_iff.mp h
      exact fitsWord_of_double? h
    · split at h
      · obtain ⟨_, -, h⟩ := Option.bind_eq_some_iff.mp h
        exact fitsWord_of_double? h
      · split at h
        · cases h
        · exact fitsWord_of_double? h

/-- Whatever the reader takes off a text has the property. -/
def Reader.Gives {α : Type} (P : α → Prop) (read : Reader α) : Prop :=
  ∀ {cs a rest}, read cs = some (a, rest) → P a

theorem gives_unsigned? (negative : Bool) : Reader.Gives Numeral.FitsWord (unsigned? negative) := by
  intro cs n rest h
  unfold unsigned? at h
  dsimp only at h
  split at h
  · cases h
  · cases h
  · obtain ⟨⟨fraction, _⟩, -, h⟩ := Option.bind_eq_some_iff.mp h
    obtain ⟨⟨exponent, _⟩, -, h⟩ := Option.bind_eq_some_iff.mp h
    obtain ⟨m, hm, h⟩ := Option.bind_eq_some_iff.mp h
    cases h
    exact fitsWord_of_numberOf hm

theorem gives_number? : Reader.Gives Numeral.FitsWord number? := by
  intro cs n rest h
  unfold number? at h
  split at h
  · exact gives_unsigned? true h
  · exact gives_unsigned? false h

section

variable {value : Reader Json} (hvalue : value.Gives WellFormed)
include hvalue

theorem gives_itemsWithin (n : Nat) :
    Reader.Gives (fun items => ∀ item ∈ items, item.WellFormed) (itemsWithin value n) := by
  induction n with
  | zero =>
    intro cs items rest h
    cases h
  | succ n ih =>
    intro cs items rest h
    obtain ⟨⟨item, _⟩, hitem, h⟩ := Option.bind_eq_some_iff.mp h
    dsimp only at h
    split at h
    · obtain ⟨⟨others, _⟩, hothers, h⟩ := Option.bind_eq_some_iff.mp h
      cases h
      exact List.forall_mem_cons.mpr ⟨hvalue hitem, ih hothers⟩
    · cases h
      exact List.forall_mem_singleton.mpr (hvalue hitem)
    · cases h

theorem gives_membersWithin (n : Nat) :
    Reader.Gives (fun members => ∀ member ∈ members, member.2.WellFormed)
      (membersWithin value n) := by
  induction n with
  | zero =>
    intro cs members rest h
    cases h
  | succ n ih =>
    intro cs members rest h
    unfold membersWithin at h
    split at h
    · obtain ⟨⟨key, _⟩, -, h⟩ := Option.bind_eq_some_iff.mp h
      dsimp only at h
      split at h
      · obtain ⟨⟨member, _⟩, hmember, h⟩ := Option.bind_eq_some_iff.mp h
        dsimp only at h
        split at h
        · obtain ⟨⟨others, _⟩, hothers, h⟩ := Option.bind_eq_some_iff.mp h
          cases h
          exact List.forall_mem_cons.mpr ⟨hvalue hmember, ih hothers⟩
        · cases h
          exact List.forall_mem_singleton.mpr (hvalue hmember)
        · cases h
      · cases h
    · cases h

theorem gives_array? : Reader.Gives WellFormed (array? value) := by
  intro cs document rest h
  unfold array? at h
  split at h
  · cases h
    exact .array (by simp)
  · obtain ⟨⟨items, _⟩, hitems, h⟩ := Option.map_eq_some_iff.mp h
    cases h
    exact .array (gives_itemsWithin hvalue _ hitems)

theorem gives_object? : Reader.Gives WellFormed (object? value) := by
  intro cs document rest h
  unfold object? at h
  split at h
  · cases h
    exact .object List.nodup_nil (by simp)
  · obtain ⟨⟨members, _⟩, hmembers, h⟩ := Option.map_eq_some_iff.mp h
    cases h
    exact .object (Fields.nodup_keys_ofPairs members)
      (Fields.forall_mem_insertAll (by simp) (gives_membersWithin hvalue _ hmembers))

end

theorem gives_word? (word : String) {document : Json} (h : document.WellFormed) :
    Reader.Gives WellFormed (word? word document) := by
  intro cs document' rest hread
  unfold word? at hread
  split at hread
  · cases hread
    exact h
  · cases hread

theorem gives_value? (depth : Nat) : Reader.Gives WellFormed (value? depth) := by
  intro cs document rest h
  unfold value? at h
  split at h
  · exact gives_word? _ .null h
  · exact gives_word? _ (.bool true) h
  · exact gives_word? _ (.bool false) h
  · obtain ⟨_, -, h⟩ := Option.map_eq_some_iff.mp h
    cases h
    exact .string _
  · cases depth with
    | zero => cases h
    | succ depth => exact gives_array? (gives_value? depth) h
  · cases depth with
    | zero => cases h
    | succ depth => exact gives_object? (gives_value? depth) h
  · obtain ⟨⟨n, _⟩, hn, h⟩ := Option.map_eq_some_iff.mp h
    cases h
    exact .number (gives_number? hn)

/-- **A document that is read from a text is well-formed.** -/
theorem wellFormed_of_ofText? {text : String} {document : Json} (h : ofText? text = some document) :
    document.WellFormed := by
  unfold ofText? at h
  split at h
  next document' rest hread =>
    split at h
    · cases h
      exact gives_value? maxDepth hread
    · cases h
  next => cases h

end TemplateExpr.Json
