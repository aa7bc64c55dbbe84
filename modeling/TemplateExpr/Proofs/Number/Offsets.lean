import TemplateExpr.Proofs.Checked
import TemplateExpr.Proofs.Number.Leading
import TemplateExpr.Proofs.Text.Digits

/-!
# The number at the front of a text, byte by byte

The front of a text once more, scanned over its bytes in UTF-8 with offsets into them, and with every
access that might fail written as one that does (`Checked.ofLeading?`). A character that a numeral is
written with is a single byte, and the first byte of any other one is no such byte, so that each
offset of the scan lies behind characters (`digitsEnd_eq` and its like). The numeral is therefore cut
off between two characters, whatever the text is, and no access ever fails (`ofLeading?_eq`).
-/

namespace TemplateExpr.Checked

open Number

/-! ## Bytes and offsets -/

/-- The bytes of a text in UTF-8. -/
def bytes (cs : List Char) : List UInt8 := cs.flatMap String.utf8EncodeChar

/-- Whether there is a byte at an offset, and a single byte that is a character of some kind. -/
def byteIs (kind : Char → Bool) (bytes : List UInt8) (offset : Nat) : Bool :=
  bytes[offset]?.any fun byte => byte < 0x80 && kind (Char.ofNat byte.toNat)

theorem lt_length_of_byteIs {kind : Char → Bool} {bytes : List UInt8} {offset : Nat}
    (h : byteIs kind bytes offset) : offset < bytes.length := by
  refine Nat.lt_of_not_le fun hle => ?_
  rw [byteIs, List.getElem?_eq_none hle] at h
  cases h

def signEnd (bytes : List UInt8) (offset : Nat) : Nat :=
  if byteIs isSign bytes offset then offset + 1 else offset

def digitsEnd (bytes : List UInt8) (offset : Nat) : Nat :=
  if byteIs Char.isDigit bytes offset then digitsEnd bytes (offset + 1) else offset
termination_by bytes.length - offset
decreasing_by
  have hlt := lt_length_of_byteIs ‹_›
  omega

/-- Without digits behind it a point counts only behind digits. -/
def fractionEnd (bytes : List UInt8) (behindDigits : Bool) (offset : Nat) : Nat :=
  if byteIs (· == '.') bytes offset then
    let stop := digitsEnd bytes (offset + 1)
    if offset + 1 < stop ∨ behindDigits then stop else offset
  else offset

/-- An exponent counts only with digits. -/
def exponentEnd (bytes : List UInt8) (offset : Nat) : Nat :=
  if byteIs (fun c => c == 'e' || c == 'E') bytes offset then
    let start := signEnd bytes (offset + 1)
    let stop := digitsEnd bytes start
    if start < stop then stop else offset
  else offset

/-- The offset behind the longest numeral at the front, if there is one. -/
def numeralEnd? (bytes : List UInt8) : Option Nat :=
  let start := signEnd bytes 0
  let point := digitsEnd bytes start
  let stop := fractionEnd bytes (start < point) point
  if start < point ∨ point < stop then some (exponentEnd bytes stop) else none

/-- The number at the front of a text. There is none to give if the numeral does not end between two
characters, or the text has fewer bytes than what is left of it behind its signs. -/
def ofLeading? (s : String) : Option Number := do
  let cs := Text.trimStart s.toList
  let unsigned := cs.dropWhile isSign
  let signs ← sub? (byteLength cs) (byteLength unsigned)
  if "Infinity".toList.isPrefixOf unsigned ∧ signs ≤ 1 then
    return infinite (cs.head? == some '-')
  match numeralEnd? (bytes cs) with
  | none => return nan
  | some stop =>
    let (numeral, _) ← cut? cs stop
    return (parse? numeral).getD nan

/-! ## Behind the front of a text -/

variable {front cs rest : List Char}

theorem byteLength_append (front rest : List Char) :
    byteLength (front ++ rest) = byteLength front + byteLength rest := by
  induction front with
  | nil => rw [List.nil_append, byteLength, Nat.zero_add]
  | cons c cs ih => rw [List.cons_append, byteLength, byteLength, ih, Nat.add_assoc]

theorem length_bytes (cs : List Char) : (bytes cs).length = byteLength cs := by
  induction cs with
  | nil => rfl
  | cons c cs ih =>
    rw [bytes, List.flatMap_cons, List.length_append, String.length_utf8EncodeChar, ← bytes, ih,
      byteLength]

/-- At the offset behind the front of a text stands the first byte of the rest. -/
theorem getElem?_bytes (front rest : List Char) :
    (bytes (front ++ rest))[byteLength front]? = (bytes rest).head? := by
  rw [bytes, List.flatMap_append, ← bytes, ← bytes, ← length_bytes,
    List.getElem?_append_right (Nat.le_refl _), Nat.sub_self, List.head?_eq_getElem?]

/-- A character of a single byte is that byte. -/
theorem utf8EncodeChar_of_lt {c : Char} (h : c.toNat < 0x80) :
    String.utf8EncodeChar c = [UInt8.ofNat c.toNat] :=
  if_pos (Nat.le_of_lt_succ h)

/-- The first byte of any other character is no character. -/
theorem le_head_utf8EncodeChar {c : Char} (h : 0x80 ≤ c.toNat) :
    ∀ byte ∈ (String.utf8EncodeChar c).head?, 0x80 ≤ byte.toNat := by
  have hval : ¬ c.val.toNat ≤ 127 := Nat.not_le.mpr h
  rintro _ hbyte
  unfold String.utf8EncodeChar at hbyte
  rw [if_neg hval] at hbyte
  split at hbyte
  · cases hbyte
    simp
    omega
  · split at hbyte <;> cases hbyte <;> simp <;> omega

/-- Whether the byte behind the front of a text is a character of some kind, of single bytes, is seen
from the character that stands there. -/
theorem byteIs_bytes {kind : Char → Bool} (hkind : ∀ c, kind c → c.toNat < 0x80)
    (front rest : List Char) :
    byteIs kind (bytes (front ++ rest)) (byteLength front) = rest.head?.any kind := by
  rw [byteIs, getElem?_bytes]
  cases rest with
  | nil => rfl
  | cons c cs =>
    rw [List.head?_cons, Option.any_some, bytes, List.flatMap_cons]
    by_cases hc : c.toNat < 0x80
    · have hmod : c.toNat % 256 = c.toNat := Nat.mod_eq_of_lt (by omega)
      have hbyte : UInt8.ofNat c.toNat < 0x80 := by
        rw [UInt8.lt_iff_toNat_lt, UInt8.toNat_ofNat', hmod]
        exact hc
      simp [utf8EncodeChar_of_lt hc, hbyte, hmod, Char.ofNat_toNat]
    · have hkind' : kind c = false := Bool.eq_false_iff.mpr fun h => hc (hkind c h)
      have hne : String.utf8EncodeChar c ≠ [] := by
        rw [← List.length_pos_iff, String.length_utf8EncodeChar]
        exact c.utf8Size_pos
      obtain ⟨byte, more, hencode⟩ := List.exists_cons_of_ne_nil hne
      have hle := le_head_utf8EncodeChar (Nat.le_of_not_lt hc) byte (by rw [hencode]; rfl)
      have hbyte : ¬ byte < 0x80 := by
        rw [UInt8.lt_iff_toNat_lt]
        exact Nat.not_lt.mpr hle
      simp [hencode, hbyte, hkind']

theorem byteLength_lt_append_iff :
    byteLength front < byteLength (front ++ cs) ↔ cs ≠ [] := by
  rw [byteLength_append]
  cases cs with
  | nil => simp [byteLength]
  | cons c cs =>
    have hpos := c.utf8Size_pos
    simp only [byteLength, ne_eq, reduceCtorEq, not_false_eq_true, iff_true]
    omega

theorem byteLength_append_single {c : Char} (h : c.toNat < 0x80) (front : List Char) :
    byteLength (front ++ [c]) = byteLength front + 1 := by
  have hsize : c.utf8Size = 1 :=
    Char.utf8Size_eq_one_iff.mpr (UInt32.le_iff_toNat_le.mpr (Nat.le_of_lt_succ h))
  rw [byteLength_append, byteLength, hsize, byteLength]

/-! ## The parts of a numeral -/

theorem lt_of_isSign (c : Char) (h : isSign c) : c.toNat < 0x80 := by
  rcases isSign_iff.mp h with rfl | rfl <;> decide

theorem lt_of_isDigit (c : Char) (h : c.isDigit) : c.toNat < 0x80 :=
  Nat.lt_of_le_of_lt (toNat_le_of_isDigit h) (by decide)

theorem signEnd_eq (front rest : List Char) :
    signEnd (bytes (front ++ rest)) (byteLength front) =
      byteLength (front ++ (takeSign rest).1) := by
  rw [signEnd, byteIs_bytes lt_of_isSign]
  cases rest with
  | nil => simp [takeSign]
  | cons c cs =>
    rw [takeSign, List.head?_cons, Option.any_some]
    split
    next hc => rw [byteLength_append_single (lt_of_isSign c hc)]
    next => rw [List.append_nil]

theorem digitsEnd_eq (front rest : List Char) :
    digitsEnd (bytes (front ++ rest)) (byteLength front) =
      byteLength (front ++ (scanDigits rest).1) := by
  induction rest generalizing front with
  | nil =>
    rw [digitsEnd, byteIs_bytes lt_of_isDigit, List.head?_nil, Option.any_none,
      if_neg Bool.false_ne_true]
    simp [scanDigits]
  | cons c cs ih =>
    rw [digitsEnd, byteIs_bytes lt_of_isDigit, List.head?_cons, Option.any_some, scanDigits,
      List.takeWhile_cons]
    split
    next hc =>
      have hnext := ih (front ++ [c])
      rwa [byteLength_append_single (lt_of_isDigit c hc), List.append_assoc, List.append_assoc]
        at hnext
    next => rw [List.append_nil]

theorem fractionEnd_eq (behindDigits : Bool) (front rest : List Char) :
    fractionEnd (bytes (front ++ rest)) behindDigits (byteLength front) =
      byteLength (front ++ (takeFraction behindDigits rest).1) := by
  have hkind (c : Char) (h : (c == '.') = true) : c.toNat < 0x80 := by
    rw [beq_iff_eq.mp h]
    decide
  rw [fractionEnd, byteIs_bytes hkind]
  cases rest with
  | nil => simp [takeFraction]
  | cons c cs =>
    rw [List.head?_cons, Option.any_some]
    by_cases hc : c = '.'
    · subst hc
      have hpoint := byteLength_append_single (c := '.') (by decide) front
      have hdigits := digitsEnd_eq (front ++ ['.']) cs
      rw [if_pos (beq_self_eq_true '.'), List.append_cons, ← hpoint, hdigits, takeFraction]
      simp only [byteLength_lt_append_iff]
      by_cases hcounts : (scanDigits cs).1 ≠ [] ∨ behindDigits = true
      · rw [if_pos hcounts, if_pos (by simpa [or_comm] using hcounts), List.append_assoc]
        rfl
      · rw [if_neg hcounts, if_neg (by simpa [and_comm] using hcounts), List.append_nil]
    · have htake : takeFraction behindDigits (c :: cs) = ([], c :: cs) := by
        simp [takeFraction, hc]
      rw [if_neg (by simpa using hc), htake, List.append_nil]

theorem exponentEnd_eq (front rest : List Char) :
    exponentEnd (bytes (front ++ rest)) (byteLength front) =
      byteLength (front ++ (takeExponent rest).1) := by
  have hkind (c : Char) (h : (c == 'e' || c == 'E') = true) : c.toNat < 0x80 := by
    rcases Bool.or_eq_true_iff.mp h with h | h <;> rw [beq_iff_eq.mp h] <;> decide
  rw [exponentEnd, byteIs_bytes hkind]
  cases rest with
  | nil => simp [takeExponent]
  | cons c cs =>
    rw [List.head?_cons, Option.any_some, takeExponent]
    dsimp only
    by_cases hc : c = 'e' ∨ c = 'E'
    · have hc' : (c == 'e' || c == 'E') = true := by simpa using hc
      have hletter := byteLength_append_single (hkind c hc') front
      have hsign := signEnd_eq (front ++ [c]) cs
      have hdigits := digitsEnd_eq (front ++ [c] ++ (takeSign cs).1) (takeSign cs).2
      rw [List.append_assoc _ (takeSign cs).1, takeSign_append_rest] at hdigits
      rw [if_pos hc', List.append_cons, ← hletter, hsign, hdigits]
      simp only [byteLength_lt_append_iff]
      by_cases hcounts : (scanDigits (takeSign cs).2).1 ≠ []
      · rw [if_pos hcounts, if_pos ⟨hc, by simpa using hcounts⟩]
        simp only [List.append_assoc, List.cons_append, List.nil_append]
      · rw [if_neg hcounts, if_neg fun h => hcounts (by simpa using h.2), List.append_nil]
    · rw [if_neg (by simpa using hc), if_neg fun h => hc h.1, List.append_nil]

/-- The scan over the bytes ends behind the characters of the numeral. -/
theorem numeralEnd?_eq (cs : List Char) :
    numeralEnd? (bytes cs) = (leadingNumeral? cs).map byteLength := by
  rcases hsign : takeSign cs with ⟨sign, unsigned⟩
  rcases hwhole : scanDigits unsigned with ⟨whole, behind⟩
  rcases hpoint : takeFraction (!whole.isEmpty) behind with ⟨point, rest⟩
  -- The text in three pieces, as each part of the scan sees it.
  have hcs := takeSign_append_rest cs
  have hcs' := scanDigits_append unsigned
  have hcs'' := takeFraction_append_rest (!whole.isEmpty) behind
  rw [hsign] at hcs
  rw [hwhole] at hcs'
  rw [hpoint] at hcs''
  have hstart := signEnd_eq [] cs
  have hdigits := digitsEnd_eq sign unsigned
  have hfraction := fractionEnd_eq (!whole.isEmpty) (sign ++ whole) behind
  have hexponent := exponentEnd_eq (sign ++ whole ++ point) rest
  rw [List.nil_append, List.nil_append, hsign, byteLength] at hstart
  rw [hwhole, hcs] at hdigits
  rw [hpoint, List.append_assoc, hcs', hcs] at hfraction
  rw [List.append_assoc _ point, hcs'', List.append_assoc, hcs', hcs] at hexponent
  have hbehind : decide (byteLength sign < byteLength (sign ++ whole)) = !whole.isEmpty := by
    cases whole <;> simp [byteLength_lt_append_iff]
  simp only [numeralEnd?, hstart, hdigits, hbehind]
  rw [hfraction, hexponent]
  simp only [byteLength_lt_append_iff, leadingNumeral?, hsign, hwhole, hpoint]
  by_cases hcounts : whole = [] ∧ point = []
  · simp [hcounts]
  · have hcounts' : whole ≠ [] ∨ point ≠ [] := not_and_or.mp hcounts
    rw [if_pos hcounts', if_neg (by simpa using hcounts), Option.map_some]

/-! ## No access fails -/

/-- A text is cut at the offset behind its front. -/
theorem cut?_append (front rest : List Char) :
    cut? (front ++ rest) (byteLength front) = some (front, rest) := by
  induction front with
  | nil => rw [List.nil_append, byteLength, cut?]
  | cons c cs ih =>
    have hpos := c.utf8Size_pos
    obtain ⟨offset, hoffset⟩ : ∃ offset, byteLength (c :: cs) = offset + 1 :=
      ⟨byteLength (c :: cs) - 1, by rw [byteLength]; omega⟩
    rw [byteLength] at hoffset
    rw [byteLength, hoffset, List.cons_append, cut?, if_pos (by omega), ← hoffset,
      Nat.add_sub_cancel_left, ih]
    rfl

/-- Signs are single bytes, so that there are as many of them as the text has bytes in front of what
they stand before. -/
theorem sub?_dropWhile_isSign (cs : List Char) :
    sub? (byteLength cs) (byteLength (cs.dropWhile isSign)) =
      some (cs.length - (cs.dropWhile isSign).length) := by
  have hsplit : cs.takeWhile isSign ++ cs.dropWhile isSign = cs := List.takeWhile_append_dropWhile
  have hsigns : byteLength (cs.takeWhile isSign) = (cs.takeWhile isSign).length := by
    refine byteLength_eq fun c hc => ?_
    rcases isSign_iff.mp (List.mem_takeWhile_imp hc) with rfl | rfl <;> decide
  have hbytes := byteLength_append (cs.takeWhile isSign) (cs.dropWhile isSign)
  have hlength := congrArg List.length hsplit
  rw [hsplit, hsigns] at hbytes
  rw [List.length_append] at hlength
  rw [sub?_eq (by omega)]
  congr 1
  omega

/-- What is taken for a numeral stands at the front of the text. -/
theorem cut?_leadingNumeral? {cs p : List Char} (h : leadingNumeral? cs = some p) :
    ∃ rest, cut? cs (byteLength p) = some (p, rest) := by
  obtain ⟨-, -, rest, rfl⟩ := exists_literal_of_leadingNumeral? h
  exact ⟨rest, cut?_append p rest⟩

/-- No access fails, whatever the text is, and the scan over bytes gives what the scan over characters
gives. -/
theorem ofLeading?_eq (s : String) : ofLeading? s = some (ofLeading s) := by
  unfold ofLeading? ofLeading
  dsimp only
  generalize Text.trimStart s.toList = cs
  rw [sub?_dropWhile_isSign, Option.bind_eq_bind, Option.bind_some]
  split
  · rfl
  · rw [numeralEnd?_eq]
    cases hnumeral : leadingNumeral? cs with
    | none => rfl
    | some p =>
      obtain ⟨rest, hcut⟩ := cut?_leadingNumeral? hnumeral
      simp only [Option.map_some, hcut, Option.bind_eq_bind, Option.bind_some]
      rfl

end TemplateExpr.Checked
