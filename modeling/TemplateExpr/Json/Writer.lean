import TemplateExpr.Json.Basic

/-!
# Writing JSON

`compact` leaves no blanks, `pretty` puts each item on a line of its own, indented by two blanks a
level. Strings escape only what JSON requires: quotes, backslashes and control characters.

An integer is written with all its digits, a double with the shortest ones that read back
(`Layout.json`).
-/

namespace TemplateExpr.Json

/-- The digit of a value below 16. -/
def hexDigit (n : Nat) : Char := Nat.digitChar n

/-- A character of a string. -/
def escape (c : Char) : List Char :=
  match c with
  | '"' => ['\\', '"']
  | '\\' => ['\\', '\\']
  | '\x08' => ['\\', 'b']
  | '\x0c' => ['\\', 'f']
  | '\n' => ['\\', 'n']
  | '\r' => ['\\', 'r']
  | '\t' => ['\\', 't']
  | c =>
    if c.toNat < 0x20 then
      ['\\', 'u', '0', '0', hexDigit (c.toNat / 16), hexDigit (c.toNat % 16)]
    else [c]

/-- A string with its quotes. -/
def quoted (s : String) : String := .ofList ('"' :: (s.toList.flatMap escape ++ ['"']))

/-- A number. -/
def numberText : Numeral → String
  | .integer i => toString i
  | .double x => Layout.json.text (.finite x)

mutual

/-- A document without blanks. -/
def compact : Json → String
  | null => "null"
  | bool b => if b then "true" else "false"
  | number n => numberText n
  | string s => quoted s
  | array items => "[" ++ String.intercalate "," (compactItems items) ++ "]"
  | object members => "\x7b" ++ String.intercalate "," (compactMembers members) ++ "\x7d"

/-- The items of an array. -/
def compactItems : List Json → List String
  | [] => []
  | item :: items => compact item :: compactItems items

/-- The members of an object. -/
def compactMembers : List (String × Json) → List String
  | [] => []
  | (key, value) :: members => (quoted key ++ ":" ++ compact value) :: compactMembers members

end

/-- A line break and the indentation of the given level. -/
def lineBreak (level : Nat) : String := .ofList ('\n' :: List.replicate (2 * level) ' ')

/-- Lines between brackets, the lines one level deeper than the brackets. -/
def bracketed (opening closing : String) (level : Nat) (lines : List String) : String :=
  if lines.isEmpty then opening ++ closing
  else
    opening ++ lineBreak (level + 1) ++ String.intercalate ("," ++ lineBreak (level + 1)) lines
      ++ lineBreak level ++ closing

mutual

/-- A document at the given level of indentation. -/
def prettyAt (level : Nat) : Json → String
  | array items => bracketed "[" "]" level (prettyItems (level + 1) items)
  | object members => bracketed "\x7b" "\x7d" level (prettyMembers (level + 1) members)
  | null => "null"
  | bool b => if b then "true" else "false"
  | number n => numberText n
  | string s => quoted s

/-- The items of an array. -/
def prettyItems (level : Nat) : List Json → List String
  | [] => []
  | item :: items => prettyAt level item :: prettyItems level items

/-- The members of an object. -/
def prettyMembers (level : Nat) : List (String × Json) → List String
  | [] => []
  | (key, value) :: members =>
    (quoted key ++ ": " ++ prettyAt level value) :: prettyMembers level members

end

/-- A document on lines of its own. -/
def pretty (json : Json) : String := prettyAt 0 json

end TemplateExpr.Json
