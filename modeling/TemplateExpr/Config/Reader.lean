import TemplateExpr.Config.Quoting
import TemplateExpr.Number.Numeral

/-!
# Reading configurations

A configuration is written in TOML, one setting a line:

```
max_steps = 10_000   # nodes visited by one evaluation
log_level = "warn"
```

Every setting is optional and none may stand twice. A document with other keys, or with a value of
another type, is no configuration. So what TOML has beyond keys, integers, booleans and strings
(tables, arrays, dates, fractions, keys with points) need not be told apart from what is no TOML.
-/

namespace TemplateExpr.Config

/-- A reader takes something off the front of a text. -/
abbrev Reader (α : Type) := List Char → Option (α × List Char)

/-- What can stand behind the equals sign of a setting. -/
inductive Setting where
  | integer (n : Int)
  | flag (b : Bool)
  | text (s : String)
deriving DecidableEq

/-! ## Lines -/

/-- The blanks within a line. -/
def isBlank (c : Char) : Bool := c == ' ' || c == '\t'

/-- Drops the blanks at the front. -/
def skipBlanks (cs : List Char) : List Char := cs.dropWhile isBlank

/-- What follows a line break. A carriage return alone is none. -/
def afterNewline? : List Char → Option (List Char)
  | '\n' :: cs => some cs
  | '\r' :: '\n' :: cs => some cs
  | _ => none

/-- What follows the end of a line, which the end of the text is too. -/
def afterLineEnd? (cs : List Char) : Option (List Char) :=
  if cs.isEmpty then some [] else afterNewline? cs

/-- What follows a line on which only blanks and a comment are left. -/
def afterLine? (cs : List Char) : Option (List Char) :=
  match skipBlanks cs with
  | '#' :: cs => afterLineEnd? (cs.dropWhile isPlain)
  | cs => afterLineEnd? cs

/-! ## Strings -/

/-- The character whose code point the given number of hexadecimal digits denote. -/
def codePoint? (count : Nat) : Reader Char := fun cs =>
  let digits := cs.take count
  let code := Number.ofHexDigits digits
  if digits.length = count ∧ digits.all Number.isHexDigit ∧ code.isValidChar then
    some (Char.ofNat code, cs.drop count)
  else none

/-- The character behind a backslash. -/
def escape? : Reader Char
  | 'b' :: cs => some ('\x08', cs)
  | 't' :: cs => some ('\t', cs)
  | 'n' :: cs => some ('\n', cs)
  | 'f' :: cs => some ('\x0c', cs)
  | 'r' :: cs => some ('\r', cs)
  | '"' :: cs => some ('"', cs)
  | '\\' :: cs => some ('\\', cs)
  | 'u' :: cs => codePoint? 4 cs
  | 'U' :: cs => codePoint? 8 cs
  | _ => none

/-- Drops blanks and line breaks; at most as many pieces as the given count. -/
def skipLinesWithin : Nat → List Char → List Char
  | 0, cs => cs
  | n + 1, cs =>
    match afterNewline? cs with
    | some rest => skipLinesWithin n rest
    | none =>
      match cs with
      | c :: rest => if isBlank c then skipLinesWithin n rest else c :: rest
      | [] => []

/-- What follows a line break behind a backslash, which joins the lines. -/
def afterJoin? (cs : List Char) : Option (List Char) :=
  (afterNewline? (skipBlanks cs)).map fun rest => skipLinesWithin rest.length rest

/-- What a backslash and the characters behind it contribute to a string. -/
def escaped? (q : Quoting) : Reader (List Char) := fun cs =>
  match if q.isMultiline then afterJoin? cs else none with
  | some rest => some ([], rest)
  | none => (escape? cs).map fun (c, rest) => ([c], rest)

/-- The next piece of a string: an escape, a line break, or a character that stands for itself. -/
def piece? (q : Quoting) : Reader (List Char) := fun cs =>
  match cs with
  | [] => none
  | c :: rest =>
    if q.hasEscapes && c == '\\' then escaped? q rest
    else if isPlain c then some ([c], rest)
    else if q.isMultiline then (afterNewline? cs).map fun rest => (['\n'], rest)
    else none

/-- The end of a string, with the quotes that still belong to the string. -/
def closing? (q : Quoting) : Reader (List Char) := fun cs =>
  if q.delimiter.isPrefixOf cs then
    let rest := cs.drop q.delimiter.length
    let spare := (rest.take q.spareQuotes).takeWhile (· == q.quote)
    some (spare, rest.drop spare.length)
  else none

/-- A string behind its opening delimiter, of fewer pieces than the given count. -/
def bodyWithin (q : Quoting) : Nat → Reader (List Char)
  | 0, _ => none
  | n + 1, cs =>
    match closing? q cs with
    | some (spare, rest) => some (spare, rest)
    | none => do
      let (piece, rest) ← piece? q cs
      let (pieces, rest) ← bodyWithin q n rest
      return (piece ++ pieces, rest)

/-- A string of the given form. A line break right behind the opening delimiter is not part of a
string over several lines. -/
def quoted? (q : Quoting) : Reader String := fun cs =>
  if q.delimiter.isPrefixOf cs then
    let cs := cs.drop q.delimiter.length
    let cs := if q.isMultiline then (afterNewline? cs).getD cs else cs
    (bodyWithin q (cs.length + 1) cs).map fun (s, rest) => (.ofList s, rest)
  else none

/-- The form of the string at the front of a text, if a string stands there. -/
def quotingOf? (cs : List Char) : Option Quoting :=
  [Quoting.multilineBasic, .basic, .multilineLiteral, .literal].find? fun q =>
    q.delimiter.isPrefixOf cs

/-! ## Integers -/

/-- The digits at the front. A single underscore may stand between two of them, and must not stand
elsewhere. -/
def moreDigits? (isDigit : Char → Bool) : Reader (List Char)
  | '_' :: c :: cs =>
    if isDigit c then (moreDigits? isDigit cs).map fun (ds, rest) => (c :: ds, rest) else none
  | ['_'] => none
  | c :: cs =>
    if isDigit c then (moreDigits? isDigit cs).map fun (ds, rest) => (c :: ds, rest)
    else some ([], c :: cs)
  | [] => some ([], [])

/-- A natural number in the given base, of at least one digit. -/
def based? (base : Nat) (isDigit : Char → Bool) : Reader Nat
  | [] => none
  | c :: cs =>
    if isDigit c then
      (moreDigits? isDigit cs).map fun (digits, rest) =>
        ((c :: digits).foldl (fun n c => base * n + (Number.hexDigit? c).getD 0) 0, rest)
    else none

/-- A natural number in decimal. A leading zero stands alone. -/
def decimal? : Reader Nat
  | '0' :: cs => some (0, cs)
  | cs => based? 10 Char.isDigit cs

/-- An integer. Only decimal ones have a sign. -/
def integer? : Reader Int
  | '0' :: 'x' :: cs => (based? 16 Number.isHexDigit cs).map fun (n, rest) => (n, rest)
  | '0' :: 'o' :: cs =>
    (based? 8 (fun c => '0' ≤ c && c ≤ '7') cs).map fun (n, rest) => (n, rest)
  | '0' :: 'b' :: cs =>
    (based? 2 (fun c => c == '0' || c == '1') cs).map fun (n, rest) => (n, rest)
  | '+' :: cs => (decimal? cs).map fun (n, rest) => (n, rest)
  | '-' :: cs => (decimal? cs).map fun (n, rest) => (-n, rest)
  | cs => (decimal? cs).map fun (n, rest) => (n, rest)

/-- Whether an integer has 64 bits, as all in a document must. -/
def fits (n : Int) : Bool := -(integerEnd : Int) ≤ n && n < integerEnd

/-! ## Settings -/

/-- The word for a truth value. -/
def flag? (cs : List Char) : Option (Bool × List Char) :=
  if "true".toList.isPrefixOf cs then some (true, cs.drop 4)
  else if "false".toList.isPrefixOf cs then some (false, cs.drop 5)
  else none

/-- The value of a setting. -/
def value? : Reader Setting := fun cs =>
  match quotingOf? cs with
  | some q => (quoted? q cs).map fun (s, rest) => (.text s, rest)
  | none =>
    match flag? cs with
    | some (b, rest) => some (.flag b, rest)
    | none => do
      let (n, rest) ← integer? cs
      if fits n then some (.integer n, rest) else none

/-- The characters of a key without quotes. -/
def isKeyChar (c : Char) : Bool := c.isAlphanum || c == '_' || c == '-'

/-- A key. In quotes, it stays on its line. -/
def key? : Reader String := fun cs =>
  match cs with
  | '"' :: _ => quoted? .basic cs
  | '\'' :: _ => quoted? .literal cs
  | cs =>
    let word := cs.takeWhile isKeyChar
    if word.isEmpty then none else some (.ofList word, cs.dropWhile isKeyChar)

/-- A key, an equals sign and a value, with nothing else on their line but a comment. -/
def setting? : Reader (String × Setting) := fun cs => do
  let (key, rest) ← key? cs
  match skipBlanks rest with
  | '=' :: rest =>
    let (value, rest) ← value? (skipBlanks rest)
    return ((key, value), ← afterLine? rest)
  | _ => none

/-- The settings of a document that has no more lines than the given count. -/
def settingsWithin : Nat → List Char → Option (List (String × Setting))
  | _, [] => some []
  | 0, _ => none
  | n + 1, cs =>
    match afterLine? cs with
    | some rest => settingsWithin n rest
    | none => do
      let (setting, rest) ← setting? (skipBlanks cs)
      return setting :: (← settingsWithin n rest)

/-- The settings of a document. A byte order mark in front is no part of it. -/
def settings? (text : String) : Option (List (String × Setting)) :=
  let cs :=
    match text.toList with
    | '\uFEFF' :: cs => cs
    | cs => cs
  settingsWithin cs.length cs

/-- A configuration with one setting changed, if there is such a setting and it takes the value. -/
def set? (config : Config) (key : String) (value : Setting) : Option Config :=
  match key, value with
  | "max_steps", .integer n => if 0 ≤ n then some { config with maxSteps := n.toNat } else none
  | "max_depth", .integer n => if 0 ≤ n then some { config with maxDepth := n.toNat } else none
  | "sanitize", .flag b => some { config with sanitize := b }
  | "log_level", .text s => some { config with logLevel := s }
  | _, _ => none

/-- The configuration with the given settings and the defaults of all others. -/
def ofSettings? (settings : List (String × Setting)) : Option Config :=
  if (settings.map (·.1)).Nodup then
    settings.foldlM (fun config (key, value) => config.set? key value) {}
  else none

/-- The configuration that a text is. -/
def ofText (text : String) : Except ExprError Config :=
  match (settings? text).bind ofSettings? with
  | some config => config.check
  | none => .error (.config .malformed)

end TemplateExpr.Config
