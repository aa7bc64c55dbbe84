import TemplateExpr.Error
import TemplateExpr.Number.Numeral
import TemplateExpr.Syntax.Token
import TemplateExpr.Text.Blank
import TemplateExpr.Text.Numeric

/-!
# From characters to tokens

A scanner takes the characters of one token off the front of a text. Its answer is a `Scan`: what
it made of them, the characters it took, and the characters it left. It answers in this way for a
malformed token as well, so that the scan can go on behind it. `lex` lists everything that
scanners find in a text, `tokenize` stops at the first malformed token.

The characters taken and left make up the text (`splits_scanToken`), and at least one is taken
(`read_scanToken_ne_nil`): positions add up, and every scan ends.
-/

namespace TemplateExpr

/-- What a scanner found at the front of a text. -/
structure Scan (α : Type) where
  outcome : Except LexicalCause α
  /-- The characters taken. -/
  read : List Char
  /-- The characters left. -/
  rest : List Char

/-- The characters taken and left are those of the text. -/
def Scan.Splits {α : Type} (scan : Scan α) (cs : List Char) : Prop := scan.read ++ scan.rest = cs

namespace Lexer

/-! ## String literals -/

/-- The character that a backslash and this character stand for. -/
def escaped : Char → Char
  | 'n' => '\n'
  | 't' => '\t'
  | 'r' => '\r'
  | '0' => '\x00'
  | c => c

/-- The character with the code point that the digits denote; surrogates are no characters. -/
def charOfHex? (digits : List Char) : Option Char :=
  let n := Number.ofHexDigits digits
  if n < 0xD800 ∨ 0xE000 ≤ n then some (Char.ofNat n) else none

/-- A `\u` without four digits takes the characters up to the one that is no digit. -/
def incompleteEscape (cs : List Char) : Scan (List Char) :=
  let taken := (cs.takeWhile Number.isHexDigit).length + 1
  ⟨.error .incompleteEscape, '\\' :: 'u' :: cs.take taken, cs.drop taken⟩

/-- Puts one character of a literal, and the characters it is written with, before a scan. -/
def prepend (value : Char) (source : List Char) (scan : Scan (List Char)) : Scan (List Char) :=
  ⟨scan.outcome.map (value :: ·), source ++ scan.read, scan.rest⟩

/-- A string literal behind its opening quote. -/
def scanString (quote : Char) : List Char → Scan (List Char)
  | [] => ⟨.error .unterminatedString, [], []⟩
  | '\\' :: [] => ⟨.error .unterminatedString, ['\\'], []⟩
  | '\\' :: 'u' :: cs =>
    match cs with
    | a :: b :: c :: d :: rest =>
      let digits := [a, b, c, d]
      if digits.all Number.isHexDigit then
        match charOfHex? digits with
        | some value => prepend value ('\\' :: 'u' :: digits) (scanString quote rest)
        | none => ⟨.error (.surrogateEscape (.ofList digits)), '\\' :: 'u' :: digits, rest⟩
      else incompleteEscape (a :: b :: c :: d :: rest)
    | cs => incompleteEscape cs
  | '\\' :: c :: cs => prepend (escaped c) ['\\', c] (scanString quote cs)
  | c :: cs => if c = quote then ⟨.ok [], [c], cs⟩ else prepend c [c] (scanString quote cs)

theorem splits_incompleteEscape (cs : List Char) :
    (incompleteEscape cs).Splits ('\\' :: 'u' :: cs) := by
  simp [incompleteEscape, Scan.Splits]

theorem splits_prepend {scan : Scan (List Char)} {cs : List Char} (h : scan.Splits cs)
    (value : Char) (source : List Char) : (prepend value source scan).Splits (source ++ cs) := by
  simp only [prepend, Scan.Splits, List.append_assoc] at h ⊢
  rw [h]

theorem splits_scanString (quote : Char) (cs : List Char) : (scanString quote cs).Splits cs := by
  fun_induction scanString quote cs with
  | case1 => rfl
  | case2 => rfl
  | case3 a b c d rest digits _ value _ ih => exact splits_prepend ih value _
  | case4 => rfl
  | case5 => exact splits_incompleteEscape _
  | case6 => exact splits_incompleteEscape _
  | case7 c cs _ ih => exact splits_prepend ih _ _
  | case8 => rfl
  | case9 c cs _ _ _ _ ih => exact splits_prepend ih _ _

/-! ## Numbers and words -/

/-- The fraction of a number: a point counts only with a digit behind it. -/
def scanFraction : List Char → List Char × List Char
  | '.' :: d :: cs =>
    if d.isDigit then ('.' :: d :: cs.takeWhile Char.isDigit, cs.dropWhile Char.isDigit)
    else ([], '.' :: d :: cs)
  | cs => ([], cs)

/-- The exponent of a number: an `e` counts only with a digit or a sign behind it. -/
def scanExponent : List Char → List Char × List Char
  | e :: c :: cs =>
    if (e = 'e' ∨ e = 'E') ∧ (c.isDigit ∨ c = '+' ∨ c = '-') then
      (e :: c :: cs.takeWhile Char.isDigit, cs.dropWhile Char.isDigit)
    else ([], e :: c :: cs)
  | cs => ([], cs)

theorem scanFraction_append (cs : List Char) : (scanFraction cs).1 ++ (scanFraction cs).2 = cs := by
  unfold scanFraction
  split
  · split
    · simp [List.takeWhile_append_dropWhile]
    · rfl
  · rfl

theorem scanExponent_append (cs : List Char) : (scanExponent cs).1 ++ (scanExponent cs).2 = cs := by
  unfold scanExponent
  split
  · split
    · simp [List.takeWhile_append_dropWhile]
    · rfl
  · rfl

/-- A number that starts with the character `first`, a digit or the point of a fraction. -/
def scanNumber (first : Char) (cs : List Char) : Scan TokenKind :=
  match first, cs with
  | '0', x :: rest =>
    if x = 'x' ∨ x = 'X' then
      let digits := rest.takeWhile Number.isHexDigit
      let outcome :=
        match Number.hexInteger? digits with
        | some i => .ok (.number (.ofInt i))
        | none => .error .hexadecimal
      ⟨outcome, '0' :: x :: digits, rest.dropWhile Number.isHexDigit⟩
    else scanDecimal '0' (x :: rest)
  | first, cs => scanDecimal first cs
where
  /-- A number in decimal. -/
  scanDecimal (first : Char) (cs : List Char) : Scan TokenKind :=
    let whole := cs.takeWhile Char.isDigit
    let rest := cs.dropWhile Char.isDigit
    let (fraction, rest) := if first = '.' then ([], rest) else scanFraction rest
    let (exponent, rest) := scanExponent rest
    let literal := first :: (whole ++ fraction ++ exponent)
    let outcome :=
      match Number.ofNumeral? literal with
      | some n => .ok (.number n)
      | none => .error (.number (.ofList literal))
    ⟨outcome, literal, rest⟩

theorem splits_scanDecimal (first : Char) (cs : List Char) :
    (scanNumber.scanDecimal first cs).Splits (first :: cs) := by
  have hw := List.takeWhile_append_dropWhile (p := Char.isDigit) (l := cs)
  have he := scanExponent_append
  have hf := scanFraction_append (cs.dropWhile Char.isDigit)
  unfold scanNumber.scanDecimal
  by_cases h : first = '.'
  · simp only [Scan.Splits, h, if_true, List.append_nil, List.cons_append, List.append_assoc, he, hw]
  · simp only [Scan.Splits, h, if_false, List.cons_append, List.append_assoc, he, hf, hw]

theorem splits_scanNumber (first : Char) (cs : List Char) :
    (scanNumber first cs).Splits (first :: cs) := by
  unfold scanNumber
  split
  · split
    · simp [Scan.Splits, List.takeWhile_append_dropWhile]
    · exact splits_scanDecimal _ _
  · exact splits_scanDecimal _ _

/-- The characters that a word may start with. -/
def startsWord (c : Char) : Bool := Text.isAlphabetic c || c == '_' || c == '$'

/-- The characters that a word may go on with. -/
def continuesWord (c : Char) : Bool := Text.isAlphanumeric c || c == '_' || c == '$'

/-- A name or a keyword. -/
def scanWord (first : Char) (cs : List Char) : Scan TokenKind :=
  let word := first :: cs.takeWhile continuesWord
  let kind :=
    match Keyword.ofText? (.ofList word) with
    | some keyword => .keyword keyword
    | none => .name (.ofList word)
  ⟨.ok kind, word, cs.dropWhile continuesWord⟩

theorem splits_scanWord (first : Char) (cs : List Char) :
    (scanWord first cs).Splits (first :: cs) := by
  simp [scanWord, Scan.Splits, List.takeWhile_append_dropWhile]

/-! ## Symbols -/

/-- A symbol with its spelling. -/
def found (symbol : Symbol) (read rest : List Char) : Scan TokenKind :=
  ⟨.ok (.symbol symbol), read, rest⟩

/-- The longest symbol at the front. A question mark and a point are one symbol unless a digit
follows, which makes the point that of a fraction. -/
def scanSymbol (c : Char) (cs : List Char) : Scan TokenKind :=
  match c, cs with
  | '+', cs => found .plus ['+'] cs
  | '-', cs => found .minus ['-'] cs
  | '*', '*' :: cs => found .starStar ['*', '*'] cs
  | '*', cs => found .star ['*'] cs
  | '/', cs => found .slash ['/'] cs
  | '%', cs => found .percent ['%'] cs
  | '=', '=' :: '=' :: cs => found .strictEqual ['=', '=', '='] cs
  | '=', '=' :: cs => found .equal ['=', '='] cs
  | '=', cs => ⟨.error .assignment, ['='], cs⟩
  | '!', '=' :: '=' :: cs => found .strictNotEqual ['!', '=', '='] cs
  | '!', '=' :: cs => found .notEqual ['!', '='] cs
  | '!', cs => found .not ['!'] cs
  | '<', '=' :: cs => found .lessEqual ['<', '='] cs
  | '<', cs => found .less ['<'] cs
  | '>', '=' :: cs => found .greaterEqual ['>', '='] cs
  | '>', cs => found .greater ['>'] cs
  | '&', '&' :: cs => found .and ['&', '&'] cs
  | '|', '|' :: cs => found .or ['|', '|'] cs
  | '?', '?' :: cs => found .nullish ['?', '?'] cs
  | '?', '.' :: cs =>
    if startsWithDigit cs then found .question ['?'] ('.' :: cs)
    else found .questionDot ['?', '.'] cs
  | '?', cs => found .question ['?'] cs
  | '(', cs => found .leftParen ['('] cs
  | ')', cs => found .rightParen [')'] cs
  | '{', cs => found .leftBrace ['{'] cs
  | '}', cs => found .rightBrace ['}'] cs
  | '[', cs => found .leftBracket ['['] cs
  | ']', cs => found .rightBracket [']'] cs
  | ',', cs => found .comma [','] cs
  | '.', cs => found .dot ['.'] cs
  | ':', cs => found .colon [':'] cs
  | c, cs => ⟨.error (.unexpected c), [c], cs⟩
where
  /-- Whether a digit stands in front. -/
  startsWithDigit : List Char → Bool
    | d :: _ => d.isDigit
    | [] => false

theorem splits_scanSymbol (c : Char) (cs : List Char) : (scanSymbol c cs).Splits (c :: cs) := by
  unfold scanSymbol
  split <;> try rfl
  split <;> rfl

/-! ## Tokens -/

/-- The token that starts with the character `c`, which is not blank. -/
def scanToken (c : Char) (cs : List Char) : Scan TokenKind :=
  if c = '"' ∨ c = '\'' then
    let scan := scanString c cs
    ⟨scan.outcome.map (.string <| .ofList ·), c :: scan.read, scan.rest⟩
  else if c.isDigit ∨ (c = '.' ∧ scanSymbol.startsWithDigit cs) then scanNumber c cs
  else if startsWord c then scanWord c cs
  else scanSymbol c cs

theorem splits_scanToken (c : Char) (cs : List Char) : (scanToken c cs).Splits (c :: cs) := by
  unfold scanToken
  split
  · have h := splits_scanString c cs
    simp only [Scan.Splits, List.cons_append] at h ⊢
    rw [h]
  · split
    · exact splits_scanNumber c cs
    · split
      · exact splits_scanWord c cs
      · exact splits_scanSymbol c cs

theorem read_scanToken_ne_nil (c : Char) (cs : List Char) : (scanToken c cs).read ≠ [] := by
  unfold scanToken
  split
  · simp
  · split
    · unfold scanNumber
      split
      · split <;> simp [scanNumber.scanDecimal]
      · simp [scanNumber.scanDecimal]
    · split
      · simp [scanWord]
      · unfold scanSymbol
        split <;> simp [found]
        split <;> simp

/-- Behind a token less is left than before it. -/
theorem length_rest_scanToken_lt (c : Char) (cs : List Char) :
    (scanToken c cs).rest.length < (c :: cs).length := by
  have h := congrArg List.length (splits_scanToken c cs)
  have hr := List.length_pos_iff.mpr (read_scanToken_ne_nil c cs)
  simp only [List.length_append] at h
  omega

/-- The tokens of a text that starts at the given position. Every token takes a character, so the
number of characters bounds the number of tokens. -/
def lexFrom : Nat → Nat → List Char → List (Except ExprError Token)
  | 0, _, _ => []
  | tokens + 1, position, cs =>
    match cs.dropWhile Text.isBlank with
    | [] => []
    | c :: rest =>
      let start := position + (cs.takeWhile Text.isBlank).length
      let scan := scanToken c rest
      let token :=
        match scan.outcome with
        | .ok kind => .ok ⟨kind, start, .ofList scan.read⟩
        | .error cause => .error (.lexical start cause)
      token :: lexFrom tokens (start + scan.read.length) scan.rest

end Lexer

/-- Everything the scanners find in a text, malformed tokens included. -/
def lex (text : String) : List (Except ExprError Token) :=
  Lexer.lexFrom text.toList.length 0 text.toList

/-- The tokens of a text, or its first malformed token. -/
def tokenize (text : String) : Except ExprError (List Token) := (lex text).mapM id

end TemplateExpr
