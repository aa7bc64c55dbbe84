import TemplateExpr.Config.Reader
import TemplateExpr.Config.Writer

/-!
# A written string is read back

What is written between the delimiters of a string is a row of pieces, each of which contributes one
character; a quote may stand as itself as long as fewer of them stand side by side than end the
string (`Quoting.Spells`). Reading gives back the characters that such pieces spell
(`quoted?_of_spells`). Both ways to write a string spell it: with escapes, and as it is in a form
that can hold it. So every string comes back from its text (`quoted?_quotedIn`), and the form it is
written in is recognised (`quotingOf?_quotedIn`), unless one more quote follows.
-/

namespace TemplateExpr

namespace Quoting

open Config

theorem delimiter_eq (q : Quoting) : q.delimiter = List.replicate (q.spareQuotes + 1) q.quote := by
  cases q <;> rfl

/-- What is written stands for the characters, behind a row of quotes of the given length. -/
inductive Spells (q : Quoting) : Nat → List Char → List Char → Prop where
  | nil (row : Nat) : Spells q row [] []
  | quote {row : Nat} {written s : List Char} (hrow : row < q.spareQuotes)
      (h : Spells q (row + 1) written s) : Spells q row (q.quote :: written) (q.quote :: s)
  | piece {row : Nat} {first : Char} (more : List Char) {c : Char} {written s : List Char}
      (hfirst : first ≠ q.quote)
      (hread : ∀ rest, piece? q (first :: (more ++ rest)) = some ([c], rest))
      (h : Spells q 0 written s) : Spells q row (first :: (more ++ written)) (c :: s)

end Quoting

namespace Config

variable {q : Quoting}

/-! ## Pieces -/

theorem quote_ne_backslash (q : Quoting) : q.quote ≠ '\\' := by cases q <;> decide

theorem quote_of_hasEscapes (h : q.hasEscapes) : q.quote = '"' := by
  cases q with
  | basic | multilineBasic => rfl
  | literal | multilineLiteral => contradiction

theorem isPlain_quote (q : Quoting) : isPlain q.quote := by cases q <;> decide

theorem piece?_plain {c : Char} (hc : isPlain c) (hescape : q.hasEscapes → c ≠ '\\')
    (rest : List Char) : piece? q (c :: rest) = some ([c], rest) := by
  have hno : (q.hasEscapes && c == '\\') = false := by
    cases h : q.hasEscapes <;> simp_all
  simp [piece?, hno, hc]

theorem piece?_quote (rest : List Char) : piece? q (q.quote :: rest) = some ([q.quote], rest) :=
  piece?_plain (isPlain_quote q) (fun _ => quote_ne_backslash q) rest

theorem piece?_newline (hq : q.isMultiline) (rest : List Char) :
    piece? q ('\n' :: rest) = some (['\n'], rest) := by
  have hplain : isPlain '\n' = false := by decide
  simp [piece?, hplain, hq, afterNewline?]

theorem afterNewline?_of_isPlain {c : Char} (hc : isPlain c) (rest : List Char) :
    afterNewline? (c :: rest) = none := by
  unfold afterNewline?
  split
  next heq =>
    cases List.cons.inj heq |>.1
    contradiction
  next heq =>
    cases List.cons.inj heq |>.1
    contradiction
  next => rfl

/-- A character behind a backslash does not join lines unless it is a blank or breaks the line. -/
theorem piece?_escape (hq : q.hasEscapes) {c d : Char} {more : List Char}
    (hc : isPlain c ∧ ¬ isBlank c)
    (hread : ∀ rest, escape? (c :: (more ++ rest)) = some (d, rest)) (rest : List Char) :
    piece? q ('\\' :: (c :: more ++ rest)) = some ([d], rest) := by
  have hjoin : afterJoin? (c :: (more ++ rest)) = none := by
    rw [afterJoin?, skipBlanks, List.dropWhile_cons_of_neg hc.2, afterNewline?_of_isPlain hc.1]
    rfl
  simp [piece?, hq, escaped?, hjoin, hread]

/-! ## Characters that are written -/

theorem escape?_control {c : Char} (hc : c.toNat < 0x80) (rest : List Char) :
    escape? ('u' :: ('0' :: '0' :: (Nat.digitChar (c.toNat / 16)).toUpper ::
      (Nat.digitChar (c.toNat % 16)).toUpper :: rest)) = some (c, rest) := by
  have hdigits : ∀ n < 0x80,
      Number.isHexDigit (Nat.digitChar (n / 16)).toUpper ∧
      Number.isHexDigit (Nat.digitChar (n % 16)).toUpper ∧
      Number.ofHexDigits ['0', '0', (Nat.digitChar (n / 16)).toUpper,
        (Nat.digitChar (n % 16)).toUpper] = n := by decide
  obtain ⟨hhigh, hlow, hvalue⟩ := hdigits c.toNat hc
  have hzero : Number.isHexDigit '0' := by decide
  have hvalid : c.toNat.isValidChar := c.valid
  simp [escape?, codePoint?, hhigh, hlow, hvalue, hzero, hvalid]

/-- A character that is no quote is a piece of its own. -/
theorem exists_escapeChar_eq (hq : q.hasEscapes) {c : Char} (hc : c ≠ q.quote) :
    ∃ first more, escapeChar q c = first :: more ∧ first ≠ q.quote ∧
      ∀ rest, piece? q (first :: (more ++ rest)) = some ([c], rest) := by
  unfold escapeChar
  have hbackslash := (quote_ne_backslash q).symm
  split
  case h_3 =>
    split
    next hlines => exact ⟨'\n', [], rfl, hc, piece?_newline hlines⟩
    next => exact ⟨'\\', ['n'], rfl, hbackslash, piece?_escape hq (by decide) fun _ => rfl⟩
  case h_7 hother =>
    split
    next hplain => exact ⟨c, [], rfl, hc, piece?_plain hplain fun _ => hother⟩
    next hplain =>
      have hlt : c.toNat < 0x80 := by
        simp [isPlain] at hplain
        omega
      exact ⟨'\\', _, rfl, hbackslash, piece?_escape hq (by decide) (escape?_control hlt)⟩
  all_goals exact ⟨'\\', [_], rfl, hbackslash, piece?_escape hq (by decide) fun _ => rfl⟩

theorem spells_escapeChars (hq : q.hasEscapes) (s : List Char) (row : Nat) :
    q.Spells row (escapeChars q row s) s := by
  induction s generalizing row with
  | nil => exact .nil row
  | cons c s ih =>
    unfold escapeChars
    split
    next hc =>
      subst hc
      split
      next hrow => exact .quote hrow (ih _)
      next =>
        have hquote := quote_of_hasEscapes hq
        rw [hquote]
        exact .piece ['"'] (by rw [hquote]; decide)
          (piece?_escape hq (by decide) fun _ => rfl) (ih 0)
    next hc =>
      obtain ⟨first, more, hwritten, hfirst, hread⟩ := exists_escapeChar_eq hq hc
      rw [hwritten]
      exact .piece more hfirst hread (ih 0)

/-! ## Strings that are written as they are -/

theorem le_longestRow (quote : Char) (row : Nat) (s : List Char) :
    row ≤ longestRow quote row s := by
  induction s generalizing row with
  | nil => exact Nat.le_refl row
  | cons c s ih =>
    unfold longestRow
    split
    next => exact Nat.le_trans (Nat.le_succ row) (ih _)
    next => exact Nat.le_max_left _ _

theorem spells_self (hq : ¬ q.hasEscapes) {s : List Char} {row : Nat}
    (hplain : ∀ c ∈ s, needsEscape c = false) (hlines : q.isMultiline ∨ '\n' ∉ s)
    (hrow : longestRow q.quote row s ≤ q.spareQuotes) : q.Spells row s s := by
  induction s generalizing row with
  | nil => exact .nil row
  | cons c s ih =>
    obtain ⟨hc, hs⟩ := List.forall_mem_cons.mp hplain
    have hrest {row : Nat} (hrow : longestRow q.quote row s ≤ q.spareQuotes) : q.Spells row s s :=
      ih hs (hlines.imp_right fun h hmem => h (List.mem_cons_of_mem c hmem)) hrow
    unfold longestRow at hrow
    split at hrow
    next hquote =>
      subst hquote
      exact .quote (Nat.le_trans (le_longestRow q.quote (row + 1) s) hrow) (hrest hrow)
    next hquote =>
      have hrow := Nat.le_trans (Nat.le_max_right row _) hrow
      refine .piece [] hquote (fun rest => ?_) (hrest hrow)
      by_cases hnewline : c = '\n'
      · subst hnewline
        exact piece?_newline (hlines.resolve_right fun h => h List.mem_cons_self) rest
      · have hplain : isPlain c := by simpa [needsEscape, hnewline] using hc
        exact piece?_plain hplain (absurd · hq) rest

/-! ## Reading what is written -/

/-- A row of quotes that is shorter than the delimiter does not close a string. -/
theorem closing?_eq_none {row : Nat} (hrow : row ≤ q.spareQuotes) {c : Char} (hc : c ≠ q.quote)
    (rest : List Char) : closing? q (List.replicate row q.quote ++ c :: rest) = none := by
  refine if_neg fun hclosed => hc ?_
  have hprefix := List.isPrefixOf_iff_prefix.mp hclosed
  rw [Quoting.delimiter_eq] at hprefix
  have hget := hprefix.getElem (i := row) (by simpa using Nat.lt_succ_of_le hrow)
  simpa using hget.symm

/-- The quotes in front of the delimiter belong to the string. -/
theorem closing?_delimiter {row : Nat} (hrow : row ≤ q.spareQuotes) {rest : List Char}
    (hrest : rest.head? ≠ some q.quote) :
    closing? q (List.replicate row q.quote ++ q.delimiter ++ rest)
      = some (List.replicate row q.quote, rest) := by
  have hswap : List.replicate row q.quote ++ q.delimiter ++ rest
      = q.delimiter ++ (List.replicate row q.quote ++ rest) := by
    rw [Quoting.delimiter_eq, ← List.append_assoc, List.replicate_append_replicate,
      List.replicate_append_replicate, Nat.add_comm]
  have hnone : (rest.take (q.spareQuotes - row)).takeWhile (· == q.quote) = [] := by
    cases rest with
    | nil => simp
    | cons c rest =>
      have hc : c ≠ q.quote := by simpa using hrest
      cases q.spareQuotes - row <;> simp [hc]
  have hspare : ((List.replicate row q.quote ++ rest).take q.spareQuotes).takeWhile (· == q.quote)
      = List.replicate row q.quote := by
    rw [List.take_append, List.take_of_length_le (by simpa using hrow), List.length_replicate,
      List.takeWhile_append_of_pos (by simp), hnone, List.append_nil]
  have hprefix : q.delimiter.isPrefixOf (q.delimiter ++ (List.replicate row q.quote ++ rest)) :=
    List.isPrefixOf_iff_prefix.mpr (List.prefix_append _ _)
  rw [hswap, closing?, if_pos hprefix, List.drop_left]
  simp [hspare]

/-- Quotes that do not end a string are pieces of it. -/
theorem bodyWithin_quotes {row : Nat} (hrow : row ≤ q.spareQuotes) {c : Char} (hc : c ≠ q.quote)
    {text s rest : List Char} {count : Nat}
    (hread : bodyWithin q count (c :: text) = some (s, rest)) :
    bodyWithin q (row + count) (List.replicate row q.quote ++ c :: text)
      = some (List.replicate row q.quote ++ s, rest) := by
  induction row with
  | zero => simpa using hread
  | succ row ih =>
    have hnone := closing?_eq_none hrow hc text
    have hrest := ih (Nat.le_of_succ_le hrow)
    rw [List.replicate_succ, List.cons_append] at hnone ⊢
    rw [Nat.add_right_comm, bodyWithin, hnone]
    simp [piece?_quote, hrest]

theorem bodyWithin_of_spells {row : Nat} {written s : List Char} (h : q.Spells row written s)
    (hrow : row ≤ q.spareQuotes) {rest : List Char} (hrest : rest.head? ≠ some q.quote)
    {count : Nat} (hcount : row + written.length < count) :
    bodyWithin q count (List.replicate row q.quote ++ written ++ q.delimiter ++ rest)
      = some (List.replicate row q.quote ++ s, rest) := by
  induction h generalizing count with
  | nil row =>
    obtain ⟨count, rfl⟩ := Nat.exists_eq_succ_of_ne_zero (Nat.ne_zero_of_lt hcount)
    rw [bodyWithin, List.append_nil, closing?_delimiter hrow hrest]
  | @quote row written s hspare _ ih =>
    have hread : bodyWithin q count _ = _ := ih hspare (by simp at hcount; omega)
    simpa [List.replicate_succ'] using hread
  | @piece row first more c written s hfirst hpiece _ ih =>
    obtain ⟨count, rfl⟩ : ∃ count', count = row + (count' + 1) :=
      ⟨count - row - 1, by simp at hcount; omega⟩
    have hread : bodyWithin q count _ = _ := ih (Nat.zero_le _) (by simp at hcount; omega)
    have hnone := closing?_eq_none (Nat.zero_le q.spareQuotes) hfirst
    simp only [List.replicate_zero, List.nil_append] at hread hnone
    have hpieces : bodyWithin q (count + 1) (first :: (more ++ written ++ q.delimiter ++ rest)) =
        some (c :: s, rest) := by
      rw [bodyWithin, hnone]
      simp only [List.append_assoc] at hread ⊢
      simp [hpiece, hread]
    simpa using bodyWithin_quotes hrow hfirst hpieces

theorem eq_newline_of_piece? {first c : Char} {rest rest' : List Char} (hplain : ¬ isPlain first)
    (h : piece? q (first :: rest) = some ([c], rest')) : c = '\n' := by
  have hescape : (q.hasEscapes && first == '\\') = false := by
    have hne : first ≠ '\\' := by
      rintro rfl
      exact hplain rfl
    simp [hne]
  unfold piece? at h
  split at h
  next => cases h
  next heq =>
    cases heq
    simp only [hescape, hplain, if_false, Bool.false_eq_true] at h
    split at h
    next =>
      obtain ⟨_, -, hpiece⟩ := Option.map_eq_some_iff.mp h
      simp at hpiece
      exact hpiece.1.symm
    next => cases h

/-- What is written for a string without line breaks does not start with one. -/
theorem afterNewline?_of_spells {row : Nat} {written s : List Char} (h : q.Spells row written s)
    (hs : '\n' ∉ s) (rest : List Char) :
    afterNewline? (written ++ (q.delimiter ++ rest)) = none := by
  cases h with
  | nil =>
    rw [Quoting.delimiter_eq]
    exact afterNewline?_of_isPlain (isPlain_quote q) _
  | quote => exact afterNewline?_of_isPlain (isPlain_quote q) _
  | @piece _ first _ c _ _ _ hread _ =>
    have hplain : isPlain first := Decidable.by_contra fun hplain =>
      hs (eq_newline_of_piece? hplain (hread []) ▸ List.mem_cons_self)
    exact afterNewline?_of_isPlain hplain _

/-- The line break behind the opening delimiter is dropped if there is one. -/
theorem quoted?_of_spells {written s : List Char} (h : q.Spells 0 written s) {rest : List Char}
    (hrest : rest.head? ≠ some q.quote) :
    quoted? q (q.delimiter ++ opening q s ++ written ++ q.delimiter ++ rest)
      = some (.ofList s, rest) := by
  have hopened : ∀ text, text = written ++ (q.delimiter ++ rest) →
      (if q.isMultiline then (afterNewline? (opening q s ++ text)).getD (opening q s ++ text)
        else opening q s ++ text) = text := by
    rintro _ rfl
    unfold opening
    by_cases hlines : q.isMultiline <;> by_cases hs : '\n' ∈ s
    · simp [hlines, hs, afterNewline?]
    · simp [hlines, hs, afterNewline?_of_spells h hs]
    all_goals simp [hlines]
  have hbody : bodyWithin q ((written ++ (q.delimiter ++ rest)).length + 1) _ = _ :=
    bodyWithin_of_spells h (Nat.zero_le _) hrest (by rw [List.length_append]; omega)
  simp only [List.replicate_zero, List.nil_append, List.append_assoc] at hbody
  have hprefix (text : List Char) : q.delimiter.isPrefixOf (q.delimiter ++ text) :=
    List.isPrefixOf_iff_prefix.mpr (List.prefix_append _ _)
  simp only [List.append_assoc, quoted?, hprefix, if_true, List.drop_left, hopened _ rfl, hbody]
  rfl

/-! ## Strings -/

/-- A form with escapes writes any string, and one without escapes what it can hold. -/
theorem exists_spells_quotedIn {s : List Char} (hq : q.hasEscapes ∨ holds q s) :
    ∃ written, q.Spells 0 written s ∧
      quotedIn q s = q.delimiter ++ opening q s ++ written ++ q.delimiter := by
  unfold quotedIn
  split
  next hescapes => exact ⟨_, spells_escapeChars hescapes s 0, rfl⟩
  next hescapes =>
    have hholds := hq.resolve_left hescapes
    simp [holds, hescapes] at hholds
    obtain ⟨⟨hplain, hlines⟩, hrow⟩ := hholds
    exact ⟨s, spells_self hescapes hplain hlines hrow, rfl⟩

theorem quoted?_quotedIn {s : List Char} (hq : q.hasEscapes ∨ holds q s) {rest : List Char}
    (hrest : rest.head? ≠ some q.quote) :
    quoted? q (quotedIn q s ++ rest) = some (.ofList s, rest) := by
  obtain ⟨written, hspells, hwritten⟩ := exists_spells_quotedIn hq
  rw [hwritten, quoted?_of_spells hspells hrest]

/-- A string on one line is not taken for one of the forms with three quotes. -/
theorem not_triple_isPrefixOf {written s : List Char} (h : q.Spells 0 written s)
    (hline : q.isMultiline = false) {rest : List Char} (hrest : rest.head? ≠ some q.quote) :
    ¬ [q.quote, q.quote, q.quote].isPrefixOf (q.quote :: (written ++ q.quote :: rest)) := by
  cases h with
  | nil =>
    cases rest with
    | nil => simp
    | cons c rest =>
      have hc : c ≠ q.quote := by simpa using hrest
      simp [hc.symm]
  | quote hrow => simp [Quoting.spareQuotes, hline] at hrow
  | piece _ hfirst => simp [hfirst.symm]

theorem quotingOf?_quotedIn {s : List Char} (hq : q.hasEscapes ∨ holds q s) {rest : List Char}
    (hrest : rest.head? ≠ some q.quote) :
    quotingOf? (quotedIn q s ++ rest) = some q := by
  obtain ⟨written, hspells, hwritten⟩ := exists_spells_quotedIn hq
  have htriple := not_triple_isPrefixOf hspells
  rw [hwritten]
  cases q with
  | multilineBasic | multilineLiteral =>
    simp [quotingOf?, Quoting.delimiter, Quoting.quote, Quoting.isMultiline]
  | basic | literal =>
    simp [Quoting.quote] at htriple
    simp [quotingOf?, Quoting.delimiter, opening, Quoting.quote, Quoting.isMultiline,
      htriple rfl hrest]

theorem quotingFor_holds (s : List Char) :
    (quotingFor s).hasEscapes ∨ holds (quotingFor s) s := by
  unfold quotingFor
  split
  next q hfind => exact .inr (List.find?_some (p := fun q => holds q s) hfind)
  next => split <;> exact .inl rfl

end Config

end TemplateExpr
