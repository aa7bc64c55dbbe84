import TemplateExpr.Proofs.Checked
import TemplateExpr.Proofs.Number.LastPlace

/-!
# Writing a fixed number of places, access by access

A number with places is digits, a point and as many digits as there are places
(`exists_expanded_unitsOf`), so a text of single bytes. That is what makes each access on the way to
the rounded numeral one that exists: cutting off the places that decide about a half, looking behind
the first of them, and adding one to the digits from the last to the first
(`fixedMagnitude?_eq`).
-/

namespace TemplateExpr

theorem toNat_le_of_isDigit_or_point {c : Char} (h : c.isDigit ∨ c = '.') : c.toNat ≤ 57 := by
  rcases h with h | rfl
  · exact toNat_le_of_isDigit h
  · decide

theorem utf8Size_of_isDigit_or_point {c : Char} (h : c.isDigit ∨ c = '.') : c.utf8Size = 1 := by
  rcases h with h | rfl
  · exact utf8Size_of_isDigit h
  · rfl

namespace Checked

open Number.Finite (isTie tiePlaces)

/-! ## The rounded numeral -/

/-- Adds one to the last of the bytes before a position, carrying over nines and across the point. -/
def bumpFrom? (bytes : List Char) : Nat → Option (List Char)
  | 0 => some ('1' :: bytes)
  | i + 1 => do
    let c ← bytes[i]?
    if c = '.' then bumpFrom? bytes i
    else if c = '9' then bumpFrom? (bytes.set i '0') i
    else return bytes.set i (← nextByte? c)

/-- The text without the points at its end. -/
def trimPoints (cs : List Char) : List Char := (cs.reverse.dropWhile (· == '.')).reverse

/-- Whether a text is a five with nothing but zeros behind it. -/
def isTie? (beyond : List Char) : Option Bool :=
  if beyond.head? = some '5' then do
    let (_, behind) ← cut? beyond 1
    return behind.all (· == '0')
  else some false

/-- The magnitude with the given number of places, rounded to nearest, ties away from zero. -/
def fixedMagnitude? (x : Number.Finite) (places : Nat) : Option (List Char) := do
  let expanded := x.withPlaces (places + tiePlaces)
  let (kept, beyond) ← cut? expanded (← sub? (byteLength expanded) tiePlaces)
  if ← isTie? beyond then
    let numeral := trimPoints kept
    bumpFrom? numeral (byteLength numeral)
  else return x.withPlaces places

/-- One unit more reaches the bytes from the last to the first. -/
theorem bumpFrom?_reverse {reversed : List Char} (h : ∀ c ∈ reversed, c.isDigit ∨ c = '.')
    (behind : List Char) :
    bumpFrom? (reversed.reverse ++ behind) reversed.length =
      some ((bumpReversed reversed).reverse ++ behind) := by
  induction reversed generalizing behind with
  | nil => rfl
  | cons c reversed ih =>
    obtain ⟨hc, hreversed⟩ := List.forall_mem_cons.mp h
    have hget : ((c :: reversed).reverse ++ behind)[reversed.length]? = some c := by simp
    have hset (d : Char) : ((c :: reversed).reverse ++ behind).set reversed.length d =
        reversed.reverse ++ d :: behind := by simp
    rw [List.length_cons, bumpFrom?, hget]
    by_cases hpoint : c = '.'
    · subst hpoint
      simpa [bumpReversed] using ih hreversed ('.' :: behind)
    · by_cases hnine : c = '9'
      · subst hnine
        simpa [bumpReversed, hset] using ih hreversed ('0' :: behind)
      · have hle := toNat_le_of_isDigit_or_point hc
        have hbyte : c.toNat + 1 < 256 := by omega
        simp [bumpReversed, hpoint, hnine, nextByte?, hbyte]

theorem bumpFrom?_eq {numeral : List Char} (h : ∀ c ∈ numeral, c.isDigit ∨ c = '.') :
    bumpFrom? numeral (byteLength numeral) = some (addLastPlace numeral) := by
  have hbump := bumpFrom?_reverse (fun c hc => h c (List.mem_reverse.mp hc)) []
  rw [byteLength_eq fun c hc => utf8Size_of_isDigit_or_point (h c hc)]
  simpa [addLastPlace] using hbump

theorem isTie?_eq {beyond : List Char} (h : ∀ c ∈ beyond, c.isDigit) :
    isTie? beyond = some (isTie beyond) := by
  unfold isTie? isTie
  split
  · rename_i hhead
    obtain ⟨behind, rfl⟩ := List.head?_eq_some_iff.mp hhead
    rw [cut?_eq (fun c hc => utf8Size_of_isDigit (h c hc)) (by simp)]
    rfl
  · rename_i hhead
    split
    · simp at hhead
    · rfl

theorem mem_of_mem_trimPoints {cs : List Char} {c : Char} (h : c ∈ trimPoints cs) : c ∈ cs :=
  List.mem_reverse.mp ((List.dropWhile_sublist _).subset (List.mem_reverse.mp h))

theorem trimPoints_append_singleton (cs : List Char) {c : Char} (h : c ≠ '.') :
    trimPoints (cs ++ [c]) = cs ++ [c] := by
  simp [trimPoints, h]

theorem trimPoints_append_point (cs : List Char) : trimPoints (cs ++ ['.']) = trimPoints cs := by
  simp [trimPoints]

theorem trimPoints_of_isDigit (cs : List Char) {digits : List Char} (hne : digits ≠ [])
    (h : ∀ c ∈ digits, c.isDigit) : trimPoints (cs ++ digits) = cs ++ digits := by
  obtain ⟨front, c, rfl⟩ := (List.eq_nil_or_concat digits).resolve_left hne
  have hc : c ≠ '.' := ne_point_of_isDigit (h c (by simp))
  rw [List.concat_eq_append, ← List.append_assoc, trimPoints_append_singleton _ hc]

theorem trimPoints_eq {whole asked : List Char} (hne : whole ≠ [])
    (hwhole : ∀ c ∈ whole, c.isDigit) (hasked : ∀ c ∈ asked, c.isDigit) :
    trimPoints (whole ++ '.' :: asked) = pointed whole asked := by
  unfold pointed
  split
  next hempty =>
    rw [hempty, trimPoints_append_point, List.append_nil]
    exact trimPoints_of_isDigit [] hne hwhole
  next hplaces =>
    rw [List.append_cons]
    exact trimPoints_of_isDigit _ hplaces hasked

/-- The places that decide about a half behind the numeral with the places asked for. -/
theorem exists_kept_eq (x : Number.Finite) (places : Nat) :
    ∃ kept beyond, x.withPlaces (places + tiePlaces) = kept ++ beyond ∧
      beyond.length = tiePlaces ∧ (∀ c ∈ beyond, c.isDigit) ∧
      (∀ c ∈ kept, c.isDigit ∨ c = '.') ∧
      trimPoints kept = if places = 0 then kept.dropLast else kept := by
  obtain ⟨whole, asked, beyond, hexpanded, ⟨hne, hunits⟩, hasked, hdigits'', hbeyond, -⟩ :=
    x.exists_expanded_unitsOf places
  obtain ⟨hdigits, hdigits'⟩ := Number.isDigits_append.mp hunits.isDigits
  refine ⟨whole ++ '.' :: asked, beyond, hexpanded, hbeyond, hdigits'', ?_, ?_⟩
  · simp only [List.mem_append, List.mem_cons]
    rintro c (hc | rfl | hc)
    · exact .inl (hdigits c hc)
    · exact .inr rfl
    · exact .inl (hdigits' c hc)
  · rw [trimPoints_eq hne hdigits hdigits', pointed_eq, hasked]

theorem fixedMagnitude?_eq (x : Number.Finite) (places : Nat) :
    fixedMagnitude? x places = some (x.fixedMagnitude places) := by
  obtain ⟨kept, beyond, hexpanded, hbeyond, hdigits, hnumeral, htrim⟩ := exists_kept_eq x places
  have hbytes : ∀ c ∈ kept ++ beyond, c.utf8Size = 1 := by
    intro c hc
    rcases List.mem_append.mp hc with hc | hc
    · exact utf8Size_of_isDigit_or_point (hnumeral c hc)
    · exact utf8Size_of_isDigit (hdigits c hc)
  have hlength : (kept ++ beyond).length - tiePlaces = kept.length := by
    rw [List.length_append, hbeyond, Nat.add_sub_cancel]
  have hsub : sub? (kept ++ beyond).length tiePlaces = some kept.length := by
    have hle : tiePlaces ≤ (kept ++ beyond).length := by simp [hbeyond]
    rw [sub?_eq hle, hlength]
  have hcut : cut? (kept ++ beyond) kept.length = some (kept, beyond) := by
    rw [cut?_eq hbytes (by simp), List.take_left, List.drop_left]
  have hbump := bumpFrom?_eq fun c hc => hnumeral c (mem_of_mem_trimPoints hc)
  unfold fixedMagnitude? Number.Finite.fixedMagnitude
  dsimp only
  rw [hexpanded, byteLength_eq hbytes, hlength, hsub, List.take_left, List.drop_left, ← htrim]
  simp only [Option.bind_eq_bind, Option.bind_some, hcut, isTie?_eq hdigits, hbump]
  split <;> rfl

end Checked

end TemplateExpr
