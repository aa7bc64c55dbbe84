import TemplateExpr.Proofs.Syntax.Tiling
import TemplateExpr.Proofs.Text.Blank

/-!
# How far a token extends

A scanner looks at the two characters behind what it takes, and at no others. Of these it asks
whether they go on with the token, which blanks never do. So the token stays the same token when the
characters behind it are others, as long as the next two are what they were, or a blank or the end
of the text comes before they differ (`Shows`). A point with a digit behind it counts as one, since
a scanner may ask for both.

`Lexer.Steady` says this of a scanner for one kind of token, and `steady_scanToken` of all of them.
-/

namespace TemplateExpr

/-! ## Blanks -/

/-- The code points of the blanks. -/
def blankPoints : List Nat :=
  List.range' 9 5 ++ [0x20, 0x85, 0xA0, 0x1680] ++ List.range' 0x2000 11
    ++ [0x2028, 0x2029, 0x202F, 0x205F, 0x3000]

theorem toNat_mem_blankPoints {c : Char} (h : Text.isBlank c) : c.toNat ∈ blankPoints := by
  simp only [Text.isBlank, Bool.or_eq_true, Bool.and_eq_true, decide_eq_true_eq, beq_iff_eq] at h
  simp only [blankPoints, List.mem_append, List.mem_range'_1, List.mem_cons, List.not_mem_nil]
  omega

theorem not_isBlank_of_continuesWord {c : Char} (h : Lexer.continuesWord c) : ¬ Text.isBlank c := by
  intro hblank
  have hpoint := toNat_mem_blankPoints hblank
  have hnone : ∀ n ∈ blankPoints, Text.alphabetic.contain n = false ∧
      Text.numeric.contain n = false := by decide +kernel
  simp only [Lexer.continuesWord, Text.isAlphanumeric, Text.isAlphabetic, Text.isNumeric,
    hnone _ hpoint, Bool.false_or, Bool.or_eq_true, beq_iff_eq] at h
  rcases h with rfl | rfl <;> exact absurd hblank (by decide)

theorem not_isBlank_of_isHexDigit {c : Char} (h : Number.isHexDigit c) : ¬ Text.isBlank c := by
  have hrange : (48 ≤ c.toNat ∧ c.toNat ≤ 57) ∨ (97 ≤ c.toNat ∧ c.toNat ≤ 102) ∨
      (65 ≤ c.toNat ∧ c.toNat ≤ 70) := by
    by_contra hnone
    obtain ⟨hdigit, hnone⟩ := not_or.mp hnone
    obtain ⟨hlower, hupper⟩ := not_or.mp hnone
    have hhex : Number.hexDigit? c = none := by
      unfold Number.hexDigit?
      exact (if_neg hdigit).trans ((if_neg hlower).trans (if_neg hupper))
    simp [Number.isHexDigit, hhex] at h
  simp only [Text.isBlank, Bool.or_eq_true, Bool.and_eq_true, decide_eq_true_eq, beq_iff_eq]
  omega

/-! ## What a scanner sees behind a token -/

/-- Behind a token, the second text shows what the first one does, or it breaks off with a blank or
at its end. -/
inductive Shows : List Char → List Char → Prop where
  | breaks {cs cs' : List Char} (h : ∀ c ∈ cs'.head?, Text.isBlank c) : Shows cs cs'
  | one {c : Char} {cs cs' : List Char} (h : ∀ d ∈ cs'.head?, Text.isBlank d)
      (hpoint : c = '.' → ∀ d ∈ cs.head?, ¬ d.isDigit) : Shows (c :: cs) (c :: cs')
  | two {c d : Char} {cs cs' : List Char} : Shows (c :: d :: cs) (c :: d :: cs')

theorem ne_cons_of_blank {cs : List Char} {d : Char} (h : ∀ c ∈ cs.head?, Text.isBlank c)
    (hd : ¬ Text.isBlank d) : ∀ rest, cs = d :: rest → False := by
  rintro rest rfl
  exact hd (h d rfl)

namespace Shows

variable {cs cs' : List Char}

theorem append_left (h : Shows cs cs') {run : List Char}
    (hpoint : run = ['.'] → ∀ d ∈ cs.head?, ¬ d.isDigit) : Shows (run ++ cs) (run ++ cs') := by
  match run with
  | [] => exact h
  | [c] =>
    cases h with
    | breaks h => exact .one h fun hc => hpoint (by rw [hc])
    | one _ _ => exact .two
    | two => exact .two
  | _ :: _ :: _ => exact .two

/-- What is not asked of a blank, and is not so of the first character in the first text, is not so
of the first character in the second. -/
theorem not_head {p : Char → Prop} (h : Shows cs cs') (hp : ∀ c, p c → ¬ Text.isBlank c)
    (hcs : ∀ c ∈ cs.head?, ¬ p c) : ∀ c ∈ cs'.head?, ¬ p c := by
  cases h with
  | breaks h => exact fun c hc hpc => hp c hpc (h c hc)
  | one _ _ => exact fun c hc => hcs c hc
  | two => exact fun c hc => hcs c hc

/-- The same of the first character behind a run that both texts start with. -/
theorem not_head_append {p : Char → Prop} (h : Shows cs cs') (hp : ∀ c, p c → ¬ Text.isBlank c)
    {run : List Char} (hcs : ∀ c ∈ (run ++ cs).head?, ¬ p c) :
    ∀ c ∈ (run ++ cs').head?, ¬ p c := by
  cases run with
  | nil => exact h.not_head hp hcs
  | cons c run => exact fun c' hc' => hcs c' hc'

theorem not_cons {d : Char} (h : Shows cs cs') (hd : ¬ Text.isBlank d)
    (hcs : ∀ rest, cs = d :: rest → False) : ∀ rest, cs' = d :: rest → False := by
  rintro rest rfl
  refine h.not_head (p := (· = d)) (fun _ hc => hc ▸ hd) ?_ d rfl rfl
  rintro c hc rfl
  obtain ⟨rest, hrest⟩ := List.head?_eq_some_iff.mp hc
  exact hcs rest hrest

/-- The same of the first two characters. -/
theorem not_pair {p q : Char → Prop} (h : Shows cs cs') (hp : ∀ c, p c → ¬ Text.isBlank c)
    (hq : ∀ c, q c → ¬ Text.isBlank c) (hcs : ∀ c d rest, cs = c :: d :: rest → ¬ (p c ∧ q d)) :
    ∀ c d rest, cs' = c :: d :: rest → ¬ (p c ∧ q d) := by
  rintro c d rest rfl ⟨hc, hd⟩
  cases h with
  | breaks h => exact hp c hc (h c rfl)
  | one h _ => exact hq d hd (h d rfl)
  | two => exact hcs c d _ rfl ⟨hc, hd⟩

end Shows

namespace Lexer

/-! ## Parts of a token -/

section

variable {p : Char → Bool} {cs rest' : List Char}

theorem not_head_dropWhile (p : Char → Bool) (cs : List Char) :
    ∀ c ∈ (cs.dropWhile p).head?, ¬ p c := by
  intro c hc
  have := List.head?_dropWhile_not p cs
  rw [hc] at this
  simpa using this

/-- A run of characters of one kind ends where it did. -/
theorem takeWhile_run (hp : ∀ c, p c → ¬ Text.isBlank c) (h : Shows (cs.dropWhile p) rest') :
    (cs.takeWhile p ++ rest').takeWhile p = cs.takeWhile p :=
  takeWhile_append_of_stop (fun _ hc => List.mem_takeWhile_imp hc)
    (h.not_head hp (not_head_dropWhile p cs))

theorem dropWhile_run (hp : ∀ c, p c → ¬ Text.isBlank c) (h : Shows (cs.dropWhile p) rest') :
    (cs.takeWhile p ++ rest').dropWhile p = rest' :=
  dropWhile_append_of_stop (fun _ hc => List.mem_takeWhile_imp hc)
    (h.not_head hp (not_head_dropWhile p cs))

end

/-- A part of a token that is read off the front of a text: it is the same part whatever comes behind
it, as far as that is seen. -/
def SteadyPart (part : List Char → List Char × List Char) : Prop :=
  ∀ cs rest', Shows (part cs).2 rest' → part ((part cs).1 ++ rest') = ((part cs).1, rest')

theorem scanFraction_eq_nil {cs : List Char}
    (h : ∀ c d rest, cs = c :: d :: rest → ¬ (c = '.' ∧ d.isDigit)) : scanFraction cs = ([], cs) := by
  unfold scanFraction
  split
  · rw [if_neg fun hd => h _ _ _ rfl ⟨rfl, hd⟩]
  · rfl

theorem scanExponent_eq_nil {cs : List Char}
    (h : ∀ c d rest, cs = c :: d :: rest →
      ¬ ((c = 'e' ∨ c = 'E') ∧ (d.isDigit ∨ d = '+' ∨ d = '-'))) :
    scanExponent cs = ([], cs) := by
  unfold scanExponent
  split
  · rw [if_neg (h _ _ _ rfl)]
  · rfl

theorem steadyPart_scanFraction : SteadyPart scanFraction := by
  intro cs rest' h
  by_cases hpart : ∃ d rest, cs = '.' :: d :: rest ∧ d.isDigit
  · obtain ⟨d, rest, rfl, hd⟩ := hpart
    rw [scanFraction, if_pos hd] at h ⊢
    rw [List.cons_append, List.cons_append, scanFraction, if_pos hd,
      takeWhile_run (fun _ => not_isBlank_of_isDigit) h,
      dropWhile_run (fun _ => not_isBlank_of_isDigit) h]
  · have hnone : ∀ c d rest, cs = c :: d :: rest → ¬ (c = '.' ∧ d.isDigit) := by
      rintro c d rest rfl ⟨rfl, hd⟩
      exact hpart ⟨d, rest, rfl, hd⟩
    rw [scanFraction_eq_nil hnone] at h ⊢
    refine scanFraction_eq_nil (h.not_pair ?_ (fun _ => not_isBlank_of_isDigit) hnone)
    rintro c rfl
    decide

theorem steadyPart_scanExponent : SteadyPart scanExponent := by
  intro cs rest' h
  by_cases hpart : ∃ e c rest, cs = e :: c :: rest ∧
      (e = 'e' ∨ e = 'E') ∧ (c.isDigit ∨ c = '+' ∨ c = '-')
  · obtain ⟨e, c, rest, rfl, hec⟩ := hpart
    rw [scanExponent, if_pos hec] at h ⊢
    rw [List.cons_append, List.cons_append, scanExponent, if_pos hec,
      takeWhile_run (fun _ => not_isBlank_of_isDigit) h,
      dropWhile_run (fun _ => not_isBlank_of_isDigit) h]
  · have hnone : ∀ e c rest, cs = e :: c :: rest →
        ¬ ((e = 'e' ∨ e = 'E') ∧ (c.isDigit ∨ c = '+' ∨ c = '-')) :=
      fun e c rest hcs hec => hpart ⟨e, c, rest, hcs, hec⟩
    rw [scanExponent_eq_nil hnone] at h ⊢
    refine scanExponent_eq_nil (h.not_pair ?_ ?_ hnone)
    · rintro c (rfl | rfl) <;> decide
    · rintro d (hd | rfl | rfl)
      · exact not_isBlank_of_isDigit hd
      · decide
      · decide

theorem fraction_ne_point (cs : List Char) : (scanFraction cs).1 ≠ ['.'] := by
  unfold scanFraction
  split
  · split <;> simp
  · simp

theorem exponent_ne_point (cs : List Char) : (scanExponent cs).1 ≠ ['.'] := by
  unfold scanExponent
  split
  · split <;> simp
  · simp

/-! ## Scanners -/

/-- A scanner that takes a character and some behind it: if these make up a token, it takes the same
ones as the same token whatever comes behind them, as far as that is seen. -/
def Steady (scan : Char → List Char → Scan TokenKind) (c : Char) (cs : List Char) : Prop :=
  ∀ kind rest', (scan c cs).outcome = .ok kind → Shows (scan c cs).rest rest' →
    ∃ tail, (scan c cs).read = c :: tail ∧ scan c (tail ++ rest') = ⟨.ok kind, c :: tail, rest'⟩

/-- What a decimal literal makes. -/
def numeralOutcome (literal : List Char) : Except LexicalCause TokenKind :=
  match Number.ofNumeral? literal with
  | some n => .ok (.number n)
  | none => .error (.number (.ofList literal))

/-- The fraction of a number that starts with the given character. Its first point is the only
one. -/
def fractionBehind (first : Char) (cs : List Char) : List Char × List Char :=
  if first = '.' then ([], cs) else scanFraction cs

theorem scanDecimal_eq (first : Char) (cs : List Char) :
    scanNumber.scanDecimal first cs =
      let fraction := fractionBehind first (cs.dropWhile Char.isDigit)
      let exponent := scanExponent fraction.2
      let literal := first :: (cs.takeWhile Char.isDigit ++ fraction.1 ++ exponent.1)
      ⟨numeralOutcome literal, literal, exponent.2⟩ := rfl

theorem steadyPart_fractionBehind (first : Char) : SteadyPart (fractionBehind first) := by
  intro cs rest' h
  by_cases hfirst : first = '.'
  · simp only [fractionBehind, hfirst, if_true, List.nil_append]
  · simp only [fractionBehind, hfirst, if_false] at h ⊢
    exact steadyPart_scanFraction cs rest' h

theorem fractionBehind_append (first : Char) (cs : List Char) :
    (fractionBehind first cs).1 ++ (fractionBehind first cs).2 = cs := by
  unfold fractionBehind
  split
  · rfl
  · exact scanFraction_append cs

theorem fractionBehind_ne_point (first : Char) (cs : List Char) :
    (fractionBehind first cs).1 ≠ ['.'] := by
  unfold fractionBehind
  split
  · simp
  · exact fraction_ne_point cs

theorem steady_scanDecimal (c : Char) (cs : List Char) : Steady scanNumber.scanDecimal c cs := by
  intro kind rest' hkind h
  simp only [scanDecimal_eq, List.append_assoc] at hkind h ⊢
  have hbehind := h.append_left fun hpoint =>
    absurd hpoint (exponent_ne_point (fractionBehind c (cs.dropWhile Char.isDigit)).2)
  rw [scanExponent_append] at hbehind
  have hwhole := hbehind.append_left fun hpoint =>
    absurd hpoint (fractionBehind_ne_point c (cs.dropWhile Char.isDigit))
  rw [fractionBehind_append] at hwhole
  refine ⟨_, rfl, ?_⟩
  simp only [List.append_assoc]
  rw [takeWhile_run (fun _ => not_isBlank_of_isDigit) hwhole,
    dropWhile_run (fun _ => not_isBlank_of_isDigit) hwhole,
    steadyPart_fractionBehind c _ _ hbehind, steadyPart_scanExponent _ _ h, hkind]

theorem scanNumber_eq_scanDecimal {first : Char} {cs : List Char}
    (h : first = '0' → ∀ x ∈ cs.head?, ¬ (x = 'x' ∨ x = 'X')) :
    scanNumber first cs = scanNumber.scanDecimal first cs := by
  unfold scanNumber
  split
  · rw [if_neg (h rfl _ rfl)]
  · rfl

theorem steady_scanNumber (c : Char) (cs : List Char) : Steady scanNumber c cs := by
  by_cases hhex : c = '0' ∧ ∃ x rest, cs = x :: rest ∧ (x = 'x' ∨ x = 'X')
  · obtain ⟨rfl, x, rest, rfl, hx⟩ := hhex
    intro kind rest' hkind h
    rw [scanNumber, if_pos hx] at hkind h ⊢
    refine ⟨_, rfl, ?_⟩
    rw [List.cons_append, scanNumber, if_pos hx]
    simp only at hkind h ⊢
    rw [takeWhile_run (fun _ => not_isBlank_of_isHexDigit) h,
      dropWhile_run (fun _ => not_isBlank_of_isHexDigit) h, hkind]
  · have hdecimal : c = '0' → ∀ x ∈ cs.head?, ¬ (x = 'x' ∨ x = 'X') := by
      rintro rfl x hx hor
      cases cs with
      | nil => cases hx
      | cons y rest =>
        cases hx
        exact hhex ⟨rfl, _, _, rfl, hor⟩
    intro kind rest' hkind h
    rw [scanNumber_eq_scanDecimal hdecimal] at hkind h ⊢
    obtain ⟨tail, hread, hscan⟩ := steady_scanDecimal c cs kind rest' hkind h
    refine ⟨tail, hread, ?_⟩
    have hcs := splits_scanDecimal c cs
    rw [Scan.Splits, hread, List.cons_append, List.cons.injEq] at hcs
    rw [scanNumber_eq_scanDecimal fun hc => h.not_head_append ?_ ?_, hscan]
    · rintro x (rfl | rfl) <;> decide
    · rw [hcs.2]
      exact hdecimal hc

theorem steady_scanWord (c : Char) (cs : List Char) : Steady scanWord c cs := by
  intro kind rest' hkind h
  refine ⟨cs.takeWhile continuesWord, rfl, ?_⟩
  simp only [scanWord] at hkind h ⊢
  rw [takeWhile_run (fun _ => not_isBlank_of_continuesWord) h,
    dropWhile_run (fun _ => not_isBlank_of_continuesWord) h, hkind]

theorem startsWithDigit_iff {cs : List Char} :
    scanSymbol.startsWithDigit cs ↔ ∃ c ∈ cs.head?, c.isDigit := by
  cases cs <;> simp [scanSymbol.startsWithDigit]

/-- Most symbols are what they are whatever comes behind them. The cases of the others are those of
the symbols that longer ones start with. -/
theorem steady_scanSymbol (c : Char) (cs : List Char) : Steady scanSymbol c cs := by
  unfold Steady
  fun_cases scanSymbol c cs <;> intro kind rest' hkind h <;> cases hkind
  -- `*`, `==`, `!=`, `!`, `<` and `>`: what would make a longer one is not behind them
  case case4 hlonger | case14 hlonger | case16 hlonger =>
    refine ⟨[], rfl, ?_⟩
    rw [List.nil_append, scanSymbol]
    · rfl
    · exact h.not_cons (by decide) hlonger
  case case8 hlonger | case11 hlonger =>
    refine ⟨['='], rfl, ?_⟩
    rw [List.singleton_append, scanSymbol]
    · rfl
    · exact h.not_cons (by decide) hlonger
  case case12 _ hlonger =>
    have hnone := h.not_cons (by decide) hlonger
    refine ⟨[], rfl, ?_⟩
    rw [List.nil_append, scanSymbol]
    · rfl
    · exact fun rest => hnone ('=' :: rest)
    · exact hnone
  -- `?` before a fraction, `?.` and `?`
  case case20 hdigit =>
    refine ⟨[], rfl, ?_⟩
    cases h with
    | breaks hblank =>
      rw [List.nil_append, scanSymbol]
      · rfl
      · exact ne_cons_of_blank hblank (by decide)
      · exact ne_cons_of_blank hblank (by decide)
    | one _ hpoint =>
      obtain ⟨d, hd, hdigit⟩ := startsWithDigit_iff.mp hdigit
      exact absurd hdigit (hpoint rfl d hd)
    | two => exact if_pos hdigit
  case case21 hdigit =>
    refine ⟨['.'], rfl, ?_⟩
    rw [List.singleton_append, scanSymbol, if_neg, found]
    rw [startsWithDigit_iff] at hdigit ⊢
    rintro ⟨d, hd, hd'⟩
    exact h.not_head (fun _ => not_isBlank_of_isDigit) (fun c hc hc' => hdigit ⟨c, hc, hc'⟩) d hd hd'
  case case22 hnullish hpoint =>
    refine ⟨[], rfl, ?_⟩
    rw [List.nil_append, scanSymbol]
    · rfl
    · exact h.not_cons (by decide) hnullish
    · exact h.not_cons (by decide) hpoint
  all_goals exact ⟨_, rfl, rfl⟩

/-! ## Strings -/

theorem prepend_outcome_eq_ok {c : Char} {source value : List Char} {scan : Scan (List Char)}
    (h : (prepend c source scan).outcome = .ok value) :
    ∃ behind, scan.outcome = .ok behind ∧ value = c :: behind := by
  cases hscan : scan.outcome with
  | error cause => simp [prepend, hscan, Except.map] at h
  | ok behind =>
    simp only [prepend, hscan, Except.map, Except.ok.injEq] at h
    exact ⟨behind, rfl, h.symm⟩

theorem ne_backslash {c : Char} {cs : List Char} (hnil : c = '\\' → cs = [] → False)
    (hcons : ∀ d rest, c = '\\' → cs = d :: rest → False) : c ≠ '\\' := by
  rintro rfl
  cases cs with
  | nil => exact hnil rfl rfl
  | cons d rest => exact hcons d rest rfl rfl

theorem scanString_cons {quote c : Char} (hc : c ≠ '\\') (cs : List Char) :
    scanString quote (c :: cs) =
      if c = quote then ⟨.ok [], [c], cs⟩ else prepend c [c] (scanString quote cs) := by
  rw [scanString] <;> simp [hc]

/-- A literal ends at its quote, so what comes behind it does not matter. -/
theorem scanString_append (quote : Char) (cs rest' : List Char) :
    ∀ value, (scanString quote cs).outcome = .ok value →
      scanString quote ((scanString quote cs).read ++ rest') =
        ⟨.ok value, (scanString quote cs).read, rest'⟩ := by
  fun_induction scanString quote cs with
  | case1 | case2 | case4 | case5 | case6 =>
    intro _ h
    cases h
  | case3 a b c d rest digits hdigits escape hescape ih =>
    intro value h
    obtain ⟨behind, hbehind, rfl⟩ := prepend_outcome_eq_ok h
    change scanString quote ('\\' :: 'u' :: a :: b :: c :: d ::
      ((scanString quote rest).read ++ rest')) = _
    simp only [scanString, hdigits, hescape, if_true, ih behind hbehind, digits]
    rfl
  | case7 c cs hc ih =>
    intro value h
    obtain ⟨behind, hbehind, rfl⟩ := prepend_outcome_eq_ok h
    change scanString quote ('\\' :: c :: ((scanString quote cs).read ++ rest')) = _
    rw [scanString, ih behind hbehind]
    · rfl
    · exact hc
  | case8 cs hnil _ hescape =>
    intro value h
    cases h
    exact (scanString_cons (ne_backslash hnil hescape) rest').trans (if_pos rfl)
  | case9 c cs hnil _ hescape hquote ih =>
    intro value h
    obtain ⟨behind, hbehind, rfl⟩ := prepend_outcome_eq_ok h
    change scanString quote (c :: ((scanString quote cs).read ++ rest')) = _
    rw [scanString_cons (ne_backslash hnil hescape), if_neg hquote, ih behind hbehind]
    rfl

/-! ## Tokens -/

/-- What the first character calls for, when it starts neither a string nor a number. -/
def scanOther (c : Char) (cs : List Char) : Scan TokenKind :=
  if startsWord c then scanWord c cs else scanSymbol c cs

theorem scanToken_eq (c : Char) (cs : List Char) :
    scanToken c cs =
      if c = '"' ∨ c = '\'' then
        ⟨(scanString c cs).outcome.map (.string <| .ofList ·), c :: (scanString c cs).read,
          (scanString c cs).rest⟩
      else if c.isDigit ∨ (c = '.' ∧ scanSymbol.startsWithDigit cs) then scanNumber c cs
      else scanOther c cs := rfl

theorem splits_scanOther (c : Char) (cs : List Char) : (scanOther c cs).Splits (c :: cs) := by
  unfold scanOther
  split
  · exact splits_scanWord c cs
  · exact splits_scanSymbol c cs

theorem steady_scanOther (c : Char) (cs : List Char) : Steady scanOther c cs := by
  by_cases hword : startsWord c
  · simpa only [Steady, scanOther, if_pos hword] using steady_scanWord c cs
  · simpa only [Steady, scanOther, if_neg hword] using steady_scanSymbol c cs

/-- The digit behind a leading point belongs to the number. -/
theorem startsWithDigit_of_read_scanNumber {cs tail : List Char}
    (hdigit : scanSymbol.startsWithDigit cs) (hread : (scanNumber '.' cs).read = '.' :: tail)
    (rest' : List Char) : scanSymbol.startsWithDigit (tail ++ rest') := by
  cases cs with
  | nil => cases hdigit
  | cons d cs =>
    rw [scanNumber_eq_scanDecimal fun hzero => absurd hzero (by decide), scanDecimal_eq,
      List.takeWhile_cons_of_pos (p := Char.isDigit) hdigit] at hread
    cases hread
    exact hdigit

theorem steady_scanToken (c : Char) (cs : List Char) : Steady scanToken c cs := by
  intro kind rest' hkind h
  by_cases hquote : c = '"' ∨ c = '\''
  · simp only [scanToken_eq, if_pos hquote] at hkind h ⊢
    cases hvalue : (scanString c cs).outcome with
    | error cause => simp [hvalue, Except.map] at hkind
    | ok value =>
      rw [hvalue] at hkind
      exact ⟨_, rfl, by rw [scanString_append c cs rest' value hvalue, ← hkind]⟩
  by_cases hnumber : c.isDigit ∨ (c = '.' ∧ scanSymbol.startsWithDigit cs)
  · simp only [scanToken_eq, if_neg hquote, if_pos hnumber] at hkind h ⊢
    obtain ⟨tail, hread, hscan⟩ := steady_scanNumber c cs kind rest' hkind h
    have hnumber' : c.isDigit ∨ (c = '.' ∧ scanSymbol.startsWithDigit (tail ++ rest')) := by
      refine hnumber.imp_right ?_
      rintro ⟨rfl, hdigit⟩
      exact ⟨rfl, startsWithDigit_of_read_scanNumber hdigit hread rest'⟩
    exact ⟨tail, hread, by rw [if_pos hnumber', hscan]⟩
  · simp only [scanToken_eq, if_neg hquote, if_neg hnumber] at hkind h ⊢
    obtain ⟨tail, hread, hscan⟩ := steady_scanOther c cs kind rest' hkind h
    have hcs := splits_scanOther c cs
    rw [Scan.Splits, hread, List.cons_append, List.cons.injEq] at hcs
    have hnumber' : ¬ (c.isDigit ∨ (c = '.' ∧ scanSymbol.startsWithDigit (tail ++ rest'))) := by
      rw [startsWithDigit_iff] at hnumber ⊢
      rintro (hdigit | ⟨hc, d, hd, hdigit⟩)
      · exact hnumber (.inl hdigit)
      · refine h.not_head_append (fun _ => not_isBlank_of_isDigit) ?_ d hd hdigit
        rw [hcs.2]
        exact fun d hd hdigit => hnumber (.inr ⟨hc, d, hd, hdigit⟩)
    exact ⟨tail, hread, by rw [if_neg hnumber', hscan]⟩

end Lexer

end TemplateExpr
