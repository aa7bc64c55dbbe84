import TemplateExpr.Error
import TemplateExpr.Text.Blank

/-!
# The denylist

Constructs of general-purpose languages that no expression may contain. The grammar gives none of
them a meaning; the check refuses them by the text alone, before it is parsed, wherever they occur.

A pattern is a word and what must follow it. Words are compared without regard to case, as Unicode's
simple folding has it: besides the capital letters, the long s and the Kelvin sign fold to letters
of ASCII.
-/

namespace TemplateExpr

/-- What must follow a word of the denylist. -/
inductive Tail where
  /-- An opening parenthesis, behind any blanks. -/
  | call
  /-- A point. -/
  | member
  | anything
deriving DecidableEq

/-- A construct that is refused. -/
structure Pattern where
  word : String
  tail : Tail
deriving DecidableEq

namespace Pattern

/-- The pattern as a regular expression, which is how it is shown. -/
def source (p : Pattern) : String :=
  p.word ++
    match p.tail with
    | .call => "\\s*\\("
    | .member => "\\."
    | .anything => ""

/-- The letter that a character counts as. -/
def fold (c : Char) : Char :=
  if c = '\u017F' then 's' else if c = '\u212A' then 'k' else c.toLower

/-- Whether a text goes on as the tail asks. -/
def tailFollows : Tail → List Char → Bool
  | .call, cs => (Text.trimStart cs).head? == some '('
  | .member, cs => cs.head? == some '.'
  | .anything, _ => true

/-- Whether the construct stands at the front of a text. -/
def startsText (p : Pattern) (cs : List Char) : Bool :=
  let word := p.word.toList.map fold
  word == (cs.take word.length).map fold && tailFollows p.tail (cs.drop word.length)

/-- Whether the construct stands anywhere in a text. -/
def occursIn (p : Pattern) : List Char → Bool
  | [] => p.startsText []
  | c :: cs => p.startsText (c :: cs) || p.occursIn cs

end Pattern

/-- The constructs that are refused, in the order in which they are looked for. -/
def denylist : List Pattern :=
  [⟨"eval", .call⟩, ⟨"Function", .call⟩, ⟨"setTimeout", .call⟩, ⟨"setInterval", .call⟩,
    ⟨"import", .call⟩, ⟨"require", .call⟩, ⟨"process", .member⟩, ⟨"global", .member⟩,
    ⟨"window", .member⟩, ⟨"document", .member⟩, ⟨"__proto__", .anything⟩, ⟨"constructor", .call⟩,
    ⟨"prototype", .member⟩]

/-- The first construct of the denylist that a text contains. -/
def findDangerous? (text : String) : Option Pattern := denylist.find? (·.occursIn text.toList)

/-- Whether a text contains a construct of the denylist. -/
def isDangerous (text : String) : Bool := (findDangerous? text).isSome

/-- Refuses a text that contains a construct of the denylist. -/
def refuseDangerous (text : String) : Except ExprError Unit :=
  if isDangerous text then .error (.dangerous text) else .ok ()

end TemplateExpr
