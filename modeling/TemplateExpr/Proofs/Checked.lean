import Mathlib.Algebra.Group.Int.Defs
import Mathlib.Algebra.Group.Nat.Defs

/-!
# Accesses that may fail

Reading a part of a list or of a text, taking a number from another one and going on to the next
byte are partial: what lies outside has no answer (`none`). Texts are cut at byte offsets, which
have to lie between two characters; in a text of single bytes they all do. A cast to a 64-bit word
saturates instead.
-/

namespace TemplateExpr.Checked

variable {α : Type}

/-- The items from one position up to another, if the two are in order and within the list. -/
def slice? (items : List α) (start stop : Nat) : Option (List α) :=
  if start ≤ stop ∧ stop ≤ items.length then some ((items.take stop).drop start) else none

/-- The difference of two natural numbers, if there is one. -/
def sub? (a b : Nat) : Option Nat := if b ≤ a then some (a - b) else none

/-- The character behind one of a single byte, if that is one of a single byte too. -/
def nextByte? (c : Char) : Option Char :=
  if c.toNat + 1 < 256 then some (Char.ofNat (c.toNat + 1)) else none

/-- A whole number, if a signed 64-bit word holds it. -/
def word? (i : Int) : Option Int := if -2 ^ 63 ≤ i ∧ i < 2 ^ 63 then some i else none

/-- The signed 64-bit word nearest to a whole number. -/
def saturate (i : Int) : Int := max (-2 ^ 63) (min i (2 ^ 63 - 1))

theorem slice?_eq {items : List α} {start stop : Nat} (h : start ≤ stop) (h' : stop ≤ items.length) :
    slice? items start stop = some ((items.take stop).drop start) :=
  if_pos ⟨h, h'⟩

theorem sub?_eq {a b : Nat} (h : b ≤ a) : sub? a b = some (a - b) := if_pos h

theorem word?_eq {i : Int} (h : i.natAbs < 2 ^ 63) : word? i = some i := if_pos (by omega)

/-- A cast makes no difference where it makes none to whole numbers beyond the last words. -/
theorem apply_saturate {β : Type} {f : Int → β} {b : β} (h : ∀ i, 2 ^ 63 - 1 ≤ i.natAbs → f i = b)
    (i : Int) : f (saturate i) = f i := by
  by_cases hi : 2 ^ 63 - 1 ≤ i.natAbs
  · have hword : 2 ^ 63 - 1 ≤ (saturate i).natAbs := by
      unfold saturate
      omega
    rw [h i hi, h _ hword]
  · have hword : saturate i = i := by
      unfold saturate
      omega
    rw [hword]

/-! ## Byte offsets -/

/-- The number of bytes of a text. -/
def byteLength : List Char → Nat
  | [] => 0
  | c :: cs => c.utf8Size + byteLength cs

/-- The two parts of a text at a byte offset, if it lies between two characters. -/
def cut? : List Char → Nat → Option (List Char × List Char)
  | cs, 0 => some ([], cs)
  | [], _ + 1 => none
  | c :: cs, offset + 1 =>
    if c.utf8Size ≤ offset + 1 then
      (cut? cs (offset + 1 - c.utf8Size)).map fun parts => (c :: parts.1, parts.2)
    else none

variable {cs : List Char}

theorem byteLength_eq (h : ∀ c ∈ cs, c.utf8Size = 1) : byteLength cs = cs.length := by
  induction cs with
  | nil => rfl
  | cons c cs ih =>
    obtain ⟨hc, hcs⟩ := List.forall_mem_cons.mp h
    rw [byteLength, hc, ih hcs, List.length_cons, Nat.add_comm]

theorem cut?_eq (h : ∀ c ∈ cs, c.utf8Size = 1) {offset : Nat} (hle : offset ≤ cs.length) :
    cut? cs offset = some (cs.take offset, cs.drop offset) := by
  induction cs generalizing offset with
  | nil =>
    obtain rfl : offset = 0 := Nat.le_zero.mp hle
    rfl
  | cons c cs ih =>
    obtain ⟨hc, hcs⟩ := List.forall_mem_cons.mp h
    cases offset with
    | zero => rfl
    | succ offset =>
      rw [cut?, hc, if_pos (Nat.le_add_left 1 offset), Nat.add_sub_cancel,
        ih hcs (Nat.le_of_succ_le_succ hle)]
      rfl

end TemplateExpr.Checked
