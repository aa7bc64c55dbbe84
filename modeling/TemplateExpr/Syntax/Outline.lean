import TemplateExpr.Json.Writer
import TemplateExpr.Syntax.Expr
import TemplateExpr.Syntax.Token
import TemplateExpr.Text.Printable

/-!
# Listings of tokens and trees

An `Outline` is a tree with the names of its nodes and of their parts spelled out. It is shown in
two ways: as a listing, with every part on a line of its own, and as a JSON document, in which a
node is an object with the one member that its name gives.

In both, numbers show that they are doubles. A listing writes strings with escapes for all that
would not be seen, so that a listing has no line breaks but its own.
-/

namespace TemplateExpr

/-! ## Names -/

/-- The name of a symbol. -/
def Symbol.name : Symbol → String
  | plus => "Plus"
  | minus => "Minus"
  | star => "Star"
  | starStar => "StarStar"
  | slash => "Slash"
  | percent => "Percent"
  | equal => "Equal"
  | notEqual => "NotEqual"
  | strictEqual => "StrictEqual"
  | strictNotEqual => "StrictNotEqual"
  | less => "Less"
  | lessEqual => "LessEqual"
  | greater => "Greater"
  | greaterEqual => "GreaterEqual"
  | and => "And"
  | or => "Or"
  | not => "Not"
  | nullish => "Nullish"
  | leftParen => "LeftParen"
  | rightParen => "RightParen"
  | leftBrace => "LeftBrace"
  | rightBrace => "RightBrace"
  | leftBracket => "LeftBracket"
  | rightBracket => "RightBracket"
  | comma => "Comma"
  | dot => "Dot"
  | questionDot => "QuestionDot"
  | colon => "Colon"
  | question => "Question"

/-- The name of a binary operator. -/
def BinaryOp.name : BinaryOp → String
  | add => "Add"
  | sub => "Sub"
  | mul => "Mul"
  | div => "Div"
  | mod => "Mod"
  | pow => "Pow"
  | eq => "Eq"
  | ne => "Ne"
  | strictEq => "StrictEq"
  | strictNe => "StrictNe"
  | lt => "Lt"
  | le => "Le"
  | gt => "Gt"
  | ge => "Ge"

/-- The name of a logical operator. -/
def LogicalOp.name : LogicalOp → String
  | and => "And"
  | or => "Or"
  | nullish => "Nullish"

/-- The name of a unary operator. -/
def UnaryOp.name : UnaryOp → String
  | not => "Not"
  | neg => "Neg"
  | plus => "Plus"
  | typeof => "Typeof"

/-! ## Strings in listings -/

namespace Text

/-- A character of a string in a listing. -/
def listed (c : Char) : List Char :=
  match c with
  | '\x00' => ['\\', '0']
  | '\t' => ['\\', 't']
  | '\n' => ['\\', 'n']
  | '\r' => ['\\', 'r']
  | '"' => ['\\', '"']
  | '\\' => ['\\', '\\']
  | c =>
    if isPrintable c then [c]
    else '\\' :: 'u' :: '\x7b' :: Nat.toDigits 16 c.toNat ++ ['\x7d']

/-- A string in a listing, with its quotes. -/
def listing (s : String) : String := .ofList ('"' :: (s.toList.flatMap listed ++ ['"']))

end Text

/-- A token in a listing. -/
def TokenKind.listing : TokenKind → String
  | number n => "Number(" ++ Layout.listing.text n ++ ")"
  | string s => "String(" ++ Text.listing s ++ ")"
  | name s => "Identifier(" ++ Text.listing s ++ ")"
  | keyword .true => "Bool(true)"
  | keyword .false => "Bool(false)"
  | keyword .null => "Null"
  | keyword .undefined => "Undefined"
  | keyword .typeof => "Typeof"
  | symbol s => s.name

/-! ## Outlines -/

/-- A tree to be shown. -/
inductive Outline where
  | number (n : Number)
  | string (s : String)
  | bool (b : Bool)
  /-- A node without parts. -/
  | leaf (name : String)
  /-- A node with one part, which has no name. -/
  | wrapper (name : String) (part : Outline)
  | node (name : String) (parts : List (String × Outline))
  | list (items : List Outline)
  /-- A value under a key. -/
  | entry (key : String) (value : Outline)

namespace Outline

/-- The lines between two brackets, indented one level deeper than the brackets, each ending in a
comma. Without lines the brackets stand side by side. -/
def enclosed (opening closing : String) (level : Nat) (lines : List String) : String :=
  if lines.isEmpty then opening ++ closing
  else
    let indent (level : Nat) := String.ofList (List.replicate (4 * level) ' ')
    opening ++ "\n" ++ String.join (lines.map fun line => indent (level + 1) ++ line ++ ",\n")
      ++ indent level ++ closing

mutual

/-- The listing of an outline at the given level of indentation. -/
def listingAt (level : Nat) : Outline → String
  | number n => Layout.listing.text n
  | string s => Text.listing s
  | bool b => toString b
  | leaf name => name
  | wrapper name part => enclosed (name ++ "(") ")" level [listingAt (level + 1) part]
  | node name parts => enclosed (name ++ " \x7b") "\x7d" level (listingOfParts (level + 1) parts)
  | list items => enclosed "[" "]" level (listingOfItems (level + 1) items)
  | entry key value => enclosed "(" ")" level [Text.listing key, listingAt (level + 1) value]

/-- The lines of the parts of a node. -/
def listingOfParts (level : Nat) : List (String × Outline) → List String
  | [] => []
  | (name, part) :: parts =>
    (name ++ ": " ++ listingAt level part) :: listingOfParts level parts

/-- The lines of the items of a list. -/
def listingOfItems (level : Nat) : List Outline → List String
  | [] => []
  | item :: items => listingAt level item :: listingOfItems level items

end

/-- The listing of an outline. -/
def listing (o : Outline) : String := listingAt 0 o

mutual

/-- An outline as a JSON document. A number is a double even where it is whole. -/
def toJson : Outline → Json
  | number (.finite x) => .number (.double x)
  | number _ => .null
  | string s => .string s
  | bool b => .bool b
  | leaf name => .string name
  | wrapper name part => .object [(name, toJson part)]
  | node name parts => .object [(name, .object (toJsonOfParts parts))]
  | list items => .array (toJsonOfItems items)
  | entry key value => .array [.string key, toJson value]

/-- The members for the parts of a node. -/
def toJsonOfParts : List (String × Outline) → List (String × Json)
  | [] => []
  | (name, part) :: parts => (name, toJson part) :: toJsonOfParts parts

/-- The items of a list. -/
def toJsonOfItems : List Outline → List Json
  | [] => []
  | item :: items => toJson item :: toJsonOfItems items

end

/-- An outline as the text of a JSON document. -/
def jsonText (o : Outline) : String := o.toJson.pretty

end Outline

namespace Expr

mutual

/-- The tree of an expression, to be shown. -/
def outline : Expr → Outline
  | number n => .wrapper "Number" (.number n)
  | string s => .wrapper "String" (.string s)
  | bool b => .wrapper "Bool" (.bool b)
  | null => .leaf "Null"
  | undefined => .leaf "Undefined"
  | identifier name => .wrapper "Identifier" (.string name)
  | binary op left right =>
    .node "Binary"
      [("left", outline left), ("operator", .leaf op.name), ("right", outline right)]
  | logical op left right =>
    .node "Logical"
      [("left", outline left), ("operator", .leaf op.name), ("right", outline right)]
  | unary op operand => .node "Unary" [("operator", .leaf op.name), ("operand", outline operand)]
  | conditional condition consequent alternate =>
    .node "Conditional"
      [("condition", outline condition), ("consequent", outline consequent),
        ("alternate", outline alternate)]
  | call callee arguments =>
    .node "Call" [("function", outline callee), ("arguments", .list (outlineOfList arguments))]
  | methodCall receiver method arguments optional =>
    .node "MethodCall"
      [("object", outline receiver), ("method", .string method),
        ("arguments", .list (outlineOfList arguments)), ("optional", .bool optional)]
  | field receiver name optional =>
    .node "FieldAccess"
      [("object", outline receiver), ("field", .string name), ("optional", .bool optional)]
  | index receiver key => .node "Index" [("object", outline receiver), ("index", outline key)]
  | array elements => .wrapper "Array" (.list (outlineOfList elements))
  | object entries => .wrapper "Object" (.list (outlineOfEntries entries))

/-- The trees of a list of expressions. -/
def outlineOfList : List Expr → List Outline
  | [] => []
  | e :: es => outline e :: outlineOfList es

/-- The entries of an object literal. -/
def outlineOfEntries : List (String × Expr) → List Outline
  | [] => []
  | (key, e) :: entries => .entry key (outline e) :: outlineOfEntries entries

end

end Expr

end TemplateExpr
