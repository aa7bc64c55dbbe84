import TemplateExpr.Proofs.Config.Strings
import TemplateExpr.Proofs.Number.Written

/-!
# A configuration survives being written and read

Each kind of value that a configuration has is read at the end of its line as what was written
(`Setting.Writes`), and so the lines of a document give back its settings
(`settingsWithin_lines`). With limits that are integers of a document, at least one, a
configuration comes back as it was (`ofText_toText`); and what is read from any text has such limits
(`limits_of_ofText`).
-/

namespace TemplateExpr.Config

/-! ## Values -/

/-- What is written for a value is read as it at the end of its line. -/
def Setting.Writes (written : List Char) (value : Setting) : Prop :=
  ∀ rest, value? (skipBlanks (written ++ '\n' :: rest)) = some (value, '\n' :: rest)

theorem writes_flag (b : Bool) : Setting.Writes (toString b).toList (.flag b) := by
  intro rest
  cases b <;> rfl

theorem writes_text (s : String) : Setting.Writes (quoted s).toList (.text s) := by
  intro rest
  have hrest : ('\n' :: rest).head? ≠ some (quotingFor s.toList).quote := by
    cases quotingFor s.toList <;> simp [Quoting.quote]
  have hholds := quotingFor_holds s.toList
  have hblank : skipBlanks (quotedIn (quotingFor s.toList) s.toList ++ '\n' :: rest)
      = quotedIn (quotingFor s.toList) s.toList ++ '\n' :: rest := by
    cases quotingFor s.toList <;> rfl
  rw [quoted, String.toList_ofList, hblank, value?, quotingOf?_quotedIn hholds hrest]
  simp only
  rw [quoted?_quotedIn hholds hrest, String.ofList_toList]
  rfl

/-- The digits of a number that is not zero start with another digit. -/
theorem exists_toDigits_eq {n : Nat} (hn : n ≠ 0) :
    ∃ c cs, Nat.toDigits 10 n = c :: cs ∧ c ≠ '0' ∧ c.isDigit ∧ ∀ d ∈ cs, d.isDigit := by
  obtain ⟨c, cs, hcs⟩ := List.exists_cons_of_ne_nil (Nat.toDigits_ne_nil (n := n) (b := 10))
  obtain ⟨hc, hdigits⟩ := List.forall_mem_cons.mp (hcs ▸ Number.isDigits_toDigits n)
  refine ⟨c, cs, hcs, ?_, hc, hdigits⟩
  rintro rfl
  -- Behind a zero, the other digits denote all of the number, so that fewer were enough.
  have hvalue : Nat.ofDigitChars 10 cs 0 = n := by
    rw [← Nat.ofDigitChars_ten_toDigits (n := n), hcs, Nat.ofDigitChars_cons]
    rfl
  have hlt := hvalue ▸ ofDigitChars_lt hdigits
  have hlength : 0 < cs.length := by
    cases cs with
    | nil => exact absurd hvalue hn.symm
    | cons => exact Nat.zero_lt_succ _
  have hle := (Nat.length_toDigits_le_iff (b := 10) (by decide) hlength).mpr hlt
  rw [hcs, List.length_cons] at hle
  omega

theorem moreDigits?_append {digits : List Char} (h : ∀ c ∈ digits, c.isDigit) (rest : List Char) :
    moreDigits? Char.isDigit (digits ++ '\n' :: rest) = some (digits, '\n' :: rest) := by
  induction digits with
  | nil => rfl
  | cons c digits ih =>
    obtain ⟨hc, hdigits⟩ := List.forall_mem_cons.mp h
    have hne : c ≠ '_' := by
      rintro rfl
      contradiction
    have hmore := ih hdigits
    rw [List.cons_append]
    unfold moreDigits?
    split
    next heq => exact absurd (List.cons.inj heq).1 hne
    next heq => exact absurd (List.cons.inj heq).1 hne
    next heq =>
      obtain ⟨rfl, rfl⟩ := List.cons.inj heq
      rw [if_pos hc, hmore]
      rfl
    next heq => cases heq

theorem foldl_digits {digits : List Char} (h : ∀ c ∈ digits, c.isDigit) (n : Nat) :
    digits.foldl (fun n c => 10 * n + (Number.hexDigit? c).getD 0) n
      = Nat.ofDigitChars 10 digits n := by
  induction digits generalizing n with
  | nil => rfl
  | cons c digits ih =>
    obtain ⟨hc, hdigits⟩ := List.forall_mem_cons.mp h
    have hvalue : Number.hexDigit? c = some (c.toNat - '0'.toNat) :=
      if_pos (toNat_of_isDigit hc)
    rw [List.foldl_cons, hvalue, ih hdigits, Nat.ofDigitChars_cons]
    rfl

theorem based?_toDigits {n : Nat} {c : Char} {cs : List Char} (h : Nat.toDigits 10 n = c :: cs)
    (rest : List Char) :
    based? 10 Char.isDigit (c :: (cs ++ '\n' :: rest)) = some (n, '\n' :: rest) := by
  have hdigits : ∀ d ∈ c :: cs, d.isDigit := h ▸ Number.isDigits_toDigits n
  obtain ⟨hc, hcs⟩ := List.forall_mem_cons.mp hdigits
  have hvalue : Nat.ofDigitChars 10 (c :: cs) 0 = n := h ▸ Nat.ofDigitChars_ten_toDigits
  rw [based?, if_pos hc, moreDigits?_append hcs, Option.map_some]
  simp only [foldl_digits hdigits, hvalue]

/-- Characters differ if one is in a class and the other is not. -/
theorem ne_of_class {p : Char → Bool} {c : Char} (hc : p c) (d : Char) (hd : ¬ p d) : c ≠ d :=
  fun h => hd (h ▸ hc)

theorem integer?_toDigits (n : Nat) (rest : List Char) :
    integer? (Nat.toDigits 10 n ++ '\n' :: rest) = some ((n : Int), '\n' :: rest) := by
  by_cases hn : n = 0
  · subst hn
    rfl
  · obtain ⟨c, cs, hcs, hzero, hc, -⟩ := exists_toDigits_eq hn
    have hdecimal : decimal? (c :: (cs ++ '\n' :: rest)) = some (n, '\n' :: rest) := by
      unfold decimal?
      split
      next heq => exact absurd (List.cons.inj heq).1 hzero
      next => exact based?_toDigits hcs rest
    rw [hcs, List.cons_append]
    unfold integer?
    split
    next heq => exact absurd (List.cons.inj heq).1 hzero
    next heq => exact absurd (List.cons.inj heq).1 hzero
    next heq => exact absurd (List.cons.inj heq).1 hzero
    next heq => exact absurd (List.cons.inj heq).1 (ne_of_class hc _ (by decide))
    next heq => exact absurd (List.cons.inj heq).1 (ne_of_class hc _ (by decide))
    next => exact congrArg _ hdecimal

/-- An integer that starts with a digit is a value if a document can hold it. -/
theorem value?_of_integer? {c : Char} (hc : c.isDigit) {cs rest : List Char} {n : Int}
    (hread : integer? (c :: cs) = some (n, rest)) (hfits : fits n) :
    value? (skipBlanks (c :: cs)) = some (.integer n, rest) := by
  have hne := ne_of_class hc
  have hblank : isBlank c = false := by
    simp [isBlank, hne ' ' (by decide), hne '\t' (by decide)]
  have hquoting : quotingOf? (c :: cs) = none := by
    simp [quotingOf?, Quoting.delimiter, Quoting.isMultiline, Quoting.quote,
      (hne '"' (by decide)).symm, (hne '\'' (by decide)).symm]
  have hflag : flag? (c :: cs) = none := by
    simp [flag?, (hne 't' (by decide)).symm, (hne 'f' (by decide)).symm]
  rw [skipBlanks, List.dropWhile_cons_of_neg (by simp [hblank]), value?, hquoting]
  simp only [hflag, hread, Option.bind_eq_bind]
  rw [Option.bind_some, if_pos hfits]

theorem fits_iff {n : Int} : fits n ↔ -(integerEnd : Int) ≤ n ∧ n < integerEnd := by
  rw [fits, Bool.and_eq_true, decide_eq_true_iff, decide_eq_true_iff]

theorem writes_integer {n : Nat} (h : n < integerEnd) :
    Setting.Writes (toString n).toList (.integer n) := by
  intro rest
  have hread := integer?_toDigits n rest
  obtain ⟨c, cs, hcs⟩ := List.exists_cons_of_ne_nil (Nat.toDigits_ne_nil (n := n) (b := 10))
  have hc : c.isDigit := Number.isDigits_toDigits n c (hcs ▸ List.mem_cons_self)
  rw [Nat.toString_eq_ofList_toDigits, String.toList_ofList]
  rw [hcs, List.cons_append] at hread ⊢
  exact value?_of_integer? hc hread (fits_iff.mpr ⟨by omega, Int.ofNat_lt.mpr h⟩)

/-! ## Lines -/

/-- A setting on a line of its own. -/
def line (key : String) (written : List Char) : List Char :=
  key.toList ++ (" = ".toList ++ (written ++ ['\n']))

theorem line_append (key : String) (written rest : List Char) :
    line key written ++ rest = key.toList ++ (" = ".toList ++ (written ++ '\n' :: rest)) := by
  simp [line]

/-- A key that is written without quotes. -/
def IsBare (key : String) : Prop := key.toList ≠ [] ∧ key.toList.all isKeyChar

theorem key?_line {key : String} (hkey : IsBare key) (written rest : List Char) :
    key? (line key written ++ rest) = some (key, " = ".toList ++ (written ++ '\n' :: rest)) := by
  obtain ⟨hne, hall⟩ := hkey
  have hchars := List.all_eq_true.mp hall
  obtain ⟨c, cs, hcs⟩ := List.exists_cons_of_ne_nil hne
  have hc := ne_of_class (hchars c (hcs ▸ List.mem_cons_self))
  have hword : (line key written ++ rest).takeWhile isKeyChar = key.toList := by
    rw [line_append, List.takeWhile_append_of_pos hchars]
    exact List.append_nil _
  have hbehind : (line key written ++ rest).dropWhile isKeyChar =
      " = ".toList ++ (written ++ '\n' :: rest) := by
    rw [line_append, List.dropWhile_append_of_pos hchars]
    rfl
  have htext : line key written ++ rest =
      c :: (cs ++ (" = ".toList ++ (written ++ '\n' :: rest))) := by
    rw [line_append, hcs, List.cons_append]
  unfold key?
  split
  next heq => exact absurd (List.cons.inj (htext.symm.trans heq)).1 (hc _ (by decide))
  next heq => exact absurd (List.cons.inj (htext.symm.trans heq)).1 (hc _ (by decide))
  next =>
    simp only [hword, hbehind]
    simp [hne]

theorem setting?_line {key : String} (hkey : IsBare key) {written : List Char} {value : Setting}
    (h : value.Writes written) (rest : List Char) :
    setting? (line key written ++ rest) = some ((key, value), rest) := by
  have hblank : skipBlanks (" = ".toList ++ (written ++ '\n' :: rest)) =
      '=' :: ' ' :: (written ++ '\n' :: rest) := rfl
  have hvalue : value? (skipBlanks (' ' :: (written ++ '\n' :: rest))) =
      some (value, '\n' :: rest) := h rest
  rw [setting?, key?_line hkey]
  simp only [Option.bind_eq_bind, Option.bind_some, hblank, hvalue]
  rfl

theorem isPlain_of_isKeyChar {c : Char} (h : isKeyChar c) : isPlain c := by
  by_cases hc : c.toNat < 0x80
  · have hall : ∀ n < 0x80, isKeyChar (Char.ofNat n) → isPlain (Char.ofNat n) := by decide
    exact Char.ofNat_toNat c ▸ hall c.toNat hc (by rwa [Char.ofNat_toNat])
  · have hcode : 0x20 ≤ c.toNat ∧ c.toNat ≠ 0x7F := by omega
    simp [isPlain, hcode]

/-- A line with a setting starts with its key, so it is neither blank nor a comment. -/
theorem afterLine?_line {key : String} (hkey : IsBare key) (written rest : List Char) :
    skipBlanks (line key written ++ rest) = line key written ++ rest ∧
      afterLine? (line key written ++ rest) = none := by
  obtain ⟨hne, hall⟩ := hkey
  have hchars := List.all_eq_true.mp hall
  obtain ⟨c, cs, hcs⟩ := List.exists_cons_of_ne_nil hne
  have hkeyChar : isKeyChar c := hchars c (hcs ▸ List.mem_cons_self)
  have hc := ne_of_class hkeyChar
  have hplain : isPlain c := isPlain_of_isKeyChar hkeyChar
  have hskip (cs : List Char) : skipBlanks (c :: cs) = c :: cs :=
    List.dropWhile_cons_of_neg (by simp [isBlank, hc ' ' (by decide), hc '\t' (by decide)])
  rw [line_append, hcs, List.cons_append, hskip]
  refine ⟨rfl, ?_⟩
  unfold afterLine?
  rw [hskip]
  split
  next heq => exact absurd (List.cons.inj heq).1 (hc _ (by decide))
  next => exact afterNewline?_of_isPlain hplain _

/-- The settings on the lines of a document are read back in their order. -/
theorem settingsWithin_lines {lines : List (String × List Char × Setting)}
    (h : ∀ l ∈ lines, IsBare l.1 ∧ l.2.2.Writes l.2.1) {count : Nat}
    (hcount : lines.length ≤ count) :
    settingsWithin count (lines.flatMap fun l => line l.1 l.2.1)
      = some (lines.map fun l => (l.1, l.2.2)) := by
  induction lines generalizing count with
  | nil => cases count <;> rfl
  | cons l lines ih =>
    obtain ⟨⟨hkey, hwrites⟩, hlines⟩ := List.forall_mem_cons.mp h
    obtain ⟨count, rfl⟩ := Nat.exists_eq_succ_of_ne_zero (Nat.ne_zero_of_lt hcount)
    have hrest := ih hlines (Nat.le_of_succ_le_succ hcount)
    obtain ⟨hskip, hline⟩ := afterLine?_line hkey l.2.1 (lines.flatMap fun l => line l.1 l.2.1)
    have hne : line l.1 l.2.1 ++ (lines.flatMap fun l => line l.1 l.2.1) ≠ [] := by
      simp [line]
    rw [List.flatMap_cons, settingsWithin, hline]
    · simp only [hskip, setting?_line hkey hwrites, hrest, Option.bind_eq_bind, Option.bind_some]
      rfl
    · exact hne

/-! ## Documents -/

/-- The keys of a configuration, what is written behind each and the setting that it is. -/
def lines (config : Config) : List (String × List Char × Setting) :=
  [("max_steps", (toString config.maxSteps).toList, .integer config.maxSteps),
    ("max_depth", (toString config.maxDepth).toList, .integer config.maxDepth),
    ("sanitize", (toString config.sanitize).toList, .flag config.sanitize),
    ("log_level", (quoted config.logLevel).toList, .text config.logLevel)]

/-- The limits are integers of a document. -/
def Writable (config : Config) : Prop :=
  config.maxSteps < integerEnd ∧ config.maxDepth < integerEnd

variable {config : Config}

theorem toText_eq (h : config.Writable) :
    config.toText = .ok (.ofList (config.lines.flatMap fun l => line l.1 l.2.1)) := by
  refine (if_pos h).trans (congrArg _ (String.toList_inj.mp ?_))
  simp [lines, line]

theorem settings?_ofList {cs : List Char} (h : cs.head? ≠ some '\uFEFF') :
    settings? (.ofList cs) = settingsWithin cs.length cs := by
  unfold settings?
  rw [String.toList_ofList]
  dsimp only
  split
  next => exact absurd rfl h
  next => rfl

theorem settings?_lines (h : config.Writable) :
    settings? (.ofList (config.lines.flatMap fun l => line l.1 l.2.1)) =
      some (config.lines.map fun l => (l.1, l.2.2)) := by
  have hkeys : ∀ key ∈ ["max_steps", "max_depth", "sanitize", "log_level"],
      key.toList ≠ [] ∧ key.toList.all isKeyChar := by decide +kernel
  have hlines : ∀ l ∈ config.lines, IsBare l.1 ∧ l.2.2.Writes l.2.1 := by
    simp only [lines, List.forall_mem_cons] at hkeys ⊢
    obtain ⟨hsteps, hdepth, hsanitize, hlevel, -⟩ := hkeys
    exact ⟨⟨hsteps, writes_integer h.1⟩, ⟨hdepth, writes_integer h.2⟩,
      ⟨hsanitize, writes_flag _⟩, ⟨hlevel, writes_text _⟩, nofun⟩
  rw [settings?_ofList (by simp [lines, line])]
  exact settingsWithin_lines hlines (by simp [lines, line])

theorem ofSettings?_lines (config : Config) :
    ofSettings? (config.lines.map fun l => (l.1, l.2.2)) = some config := by
  have hkeys : ((config.lines.map fun l => (l.1, l.2.2)).map (·.1)).Nodup := by
    simp [lines]
  rw [ofSettings?, if_pos hkeys]
  simp [lines, set?]

/-- A configuration that can be in use comes back from its text. -/
theorem ofText_toText (h : config.Writable) (hsteps : config.maxSteps ≠ 0)
    (hdepth : config.maxDepth ≠ 0) :
    ∃ text, config.toText = .ok text ∧ ofText text = .ok config := by
  refine ⟨_, toText_eq h, ?_⟩
  rw [ofText, settings?_lines h, Option.bind_some, ofSettings?_lines]
  simp only [check, hsteps, hdepth, if_false]

/-! ## Limits that are read -/

/-- An integer among the settings is an integer of a document. -/
def Setting.Fits (value : Setting) : Prop := ∀ n, value = .integer n → n < integerEnd

theorem fits_of_value? {cs rest : List Char} {value : Setting}
    (h : value? cs = some (value, rest)) : value.Fits := by
  rintro n rfl
  unfold value? at h
  split at h
  next =>
    obtain ⟨_, -, heq⟩ := Option.map_eq_some_iff.mp h
    cases heq
  next =>
    split at h
    next => cases h
    next =>
      obtain ⟨⟨m, _⟩, -, heq⟩ := Option.bind_eq_some_iff.mp h
      dsimp only at heq
      split at heq
      next hfits =>
        cases heq
        exact (fits_iff.mp hfits).2
      next => cases heq

theorem fits_of_setting? {cs rest : List Char} {key : String} {value : Setting}
    (h : setting? cs = some ((key, value), rest)) : value.Fits := by
  obtain ⟨⟨_, _⟩, -, h⟩ := Option.bind_eq_some_iff.mp h
  dsimp only at h
  split at h
  next =>
    obtain ⟨⟨_, _⟩, hvalue, h⟩ := Option.bind_eq_some_iff.mp h
    obtain ⟨_, -, heq⟩ := Option.bind_eq_some_iff.mp h
    cases heq
    exact fits_of_value? hvalue
  next => cases h

theorem fits_of_settingsWithin {count : Nat} {cs : List Char} {settings : List (String × Setting)}
    (h : settingsWithin count cs = some settings) : ∀ s ∈ settings, s.2.Fits := by
  fun_induction settingsWithin count cs generalizing settings with
  | case1 => simp_all
  | case2 => cases h
  | case3 count cs hcs rest hrest ih => exact ih h
  | case4 count cs hcs hline ih =>
    obtain ⟨⟨⟨key, value⟩, rest⟩, hsetting, h⟩ := Option.bind_eq_some_iff.mp h
    obtain ⟨others, hothers, heq⟩ := Option.bind_eq_some_iff.mp h
    cases heq
    exact List.forall_mem_cons.mpr ⟨fits_of_setting? hsetting, ih _ hothers⟩

theorem writable_of_set? {config' : Config} {key : String} {value : Setting}
    (h : config.set? key value = some config') (hvalue : value.Fits) (hwritable : config.Writable) :
    config'.Writable := by
  have hinteger (n : Int) (heq : value = .integer n) : n.toNat < integerEnd :=
    (Int.toNat_lt' (by decide)).mpr (hvalue n heq)
  unfold set? at h
  split at h
  next n =>
    obtain ⟨-, heq⟩ := Option.ite_none_right_eq_some.mp h
    cases heq
    exact ⟨hinteger n rfl, hwritable.2⟩
  next n =>
    obtain ⟨-, heq⟩ := Option.ite_none_right_eq_some.mp h
    cases heq
    exact ⟨hwritable.1, hinteger n rfl⟩
  next => cases h; exact hwritable
  next => cases h; exact hwritable
  next => cases h

theorem writable_of_foldlM {settings : List (String × Setting)} {config' : Config}
    (h : settings.foldlM (fun config (key, value) => config.set? key value) config = some config')
    (hfits : ∀ s ∈ settings, s.2.Fits) (hwritable : config.Writable) : config'.Writable := by
  induction settings generalizing config with
  | nil =>
    cases h
    exact hwritable
  | cons s settings ih =>
    obtain ⟨hs, hsettings⟩ := List.forall_mem_cons.mp hfits
    rw [List.foldlM_cons] at h
    obtain ⟨next, hset, hrest⟩ := Option.bind_eq_some_iff.mp h
    exact ih hrest hsettings (writable_of_set? hset hs hwritable)

theorem writable_default : Writable {} := ⟨by decide, by decide⟩

/-- The limits of a configuration that is read can be in use and can be written. -/
theorem limits_of_ofText {text : String} (h : ofText text = .ok config) :
    config.Writable ∧ config.maxSteps ≠ 0 ∧ config.maxDepth ≠ 0 := by
  unfold ofText at h
  split at h
  next read hread =>
    obtain ⟨settings, hsettings, hread⟩ := Option.bind_eq_some_iff.mp hread
    have hwritable : read.Writable := by
      unfold ofSettings? at hread
      split at hread
      next => exact writable_of_foldlM hread (fits_of_settingsWithin hsettings) writable_default
      next => cases hread
    unfold check at h
    split at h
    next => cases h
    next hsteps =>
      split at h
      next => cases h
      next hdepth =>
        cases h
        exact ⟨hwritable, hsteps, hdepth⟩
  next => cases h

/-- **An accepted configuration survives being written and read.** Its limits are at least one and
below `2^63`, so it can be written, and what is written is read as the same configuration. Any
other text may stand in place of its log level. -/
theorem accepted_survives {text : String} (h : ofText text = .ok config) :
    (1 ≤ config.maxSteps ∧ config.maxSteps < 2 ^ 63) ∧
      (1 ≤ config.maxDepth ∧ config.maxDepth < 2 ^ 63) ∧
      (∃ written, config.toText = .ok written ∧ ofText written = .ok config) ∧
      ∀ level : String, ∃ written, { config with logLevel := level }.toText = .ok written ∧
        ofText written = .ok { config with logLevel := level } := by
  obtain ⟨hwritable, hsteps, hdepth⟩ := limits_of_ofText h
  exact ⟨⟨Nat.pos_of_ne_zero hsteps, hwritable.1⟩, ⟨Nat.pos_of_ne_zero hdepth, hwritable.2⟩,
    ofText_toText hwritable hsteps hdepth,
    fun _ => ofText_toText hwritable hsteps hdepth⟩

/-- The largest limit, and a log level with both quotes, a backslash, a line break, a control and a
letter beyond ASCII. -/
theorem accepted_survives_of_escapes :
    let text := "max_steps = +9_223_372_036_854_775_807\n" ++
      "log_level = \"'\\\"\\\\\\n\\u0001\\u00e9\""
    let config : Config := { maxSteps := 2 ^ 63 - 1, logLevel := "'\"\\\n\x01é" }
    ofText text = .ok config ∧ config.maxSteps < 2 ^ 63 ∧
      ∃ written, config.toText = .ok written ∧ ofText written = .ok config := by
  intro text config
  have hread : ofText text = .ok config := by decide +kernel
  obtain ⟨⟨-, hsteps⟩, -, hwritten, -⟩ := accepted_survives hread
  exact ⟨hread, hsteps, hwritten⟩

end TemplateExpr.Config
