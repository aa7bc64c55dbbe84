import TemplateExpr.Library.Arguments
import TemplateExpr.Text.Blank
import TemplateExpr.Text.LowerCase
import TemplateExpr.Text.Search
import TemplateExpr.Text.Units
import TemplateExpr.Text.UpperCase

/-!
# Texts

The text functions read any value as its template form, so that a missing field is an empty text
and none of them fails.
-/

namespace TemplateExpr.Library

/-- The characters of an argument. -/
def chars (arguments : Arguments) (i : Nat) : List Char := (arguments.arg i).templateText.toList

def upper (arguments : Arguments) : String := .ofList (Text.toUpper (chars arguments 0))

def lower (arguments : Arguments) : String := .ofList (Text.toLower (chars arguments 0))

def trim (arguments : Arguments) : String := .ofList (Text.trim (chars arguments 0))

def concat (arguments : Arguments) : String := String.join (List.map Value.templateText arguments)

/-- The number of items of an array, or of code units of a text. -/
def len (arguments : Arguments) : Number :=
  match arguments.arg 0 with
  | .array items => .ofNat items.length
  | _ => .ofNat (Text.unitLength (chars arguments 0))

/-- A number as a position in something of the given length: whole, and between its ends. -/
def clamp (length : Nat) : Number → Nat
  | .nan => 0
  | .infinite negative => if negative then 0 else length
  | .finite x => if x.negative then 0 else min x.whole length

/-- The characters from a position on, as many as asked for. -/
def substring (arguments : Arguments) : String :=
  let text := chars arguments 0
  let start := clamp text.length (arguments.arg 1).toNumber
  let stop :=
    match arguments.arg 2 with
    | .undefined => text.length
    | length => clamp text.length (.ofNat start + length.toNumber)
  .ofList ((text.take stop).drop start)

/-- Whether a text contains another one, both in lower case. -/
def contains (arguments : Arguments) : Bool :=
  Text.contains (Text.toLower (chars arguments 0)) (Text.toLower (chars arguments 1))

end TemplateExpr.Library
