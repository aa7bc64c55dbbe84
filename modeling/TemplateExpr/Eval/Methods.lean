import TemplateExpr.Library.Math
import TemplateExpr.Library.Texts
import TemplateExpr.Value.Equality

/-!
# Methods

The methods that texts, arrays and numbers have. Positions in a text count characters where a part
is cut out and code units where a part is looked for, as its length does.
-/

namespace TemplateExpr.Value

/-- A position in something of the given length, counted from its end if it is negative. -/
def sliceEnd (length fallback : Nat) (v : Value) : Nat :=
  if v.isNullish then fallback
  else
    match v.toNumber with
    | .nan => 0
    | .infinite negative => if negative then 0 else length
    | .finite x => if x.negative ∧ x.whole ≠ 0 then length - x.whole else min x.whole length

/-- Where a slice starts and ends; it never ends before its start. -/
def sliceBounds (length : Nat) (start stop : Value) : Nat × Nat :=
  let start := sliceEnd length 0 start
  (start, max start (sliceEnd length length stop))

/-- The items from a start to an end. -/
def slice {α : Type} (items : List α) (start stop : Value) : List α :=
  let (start, stop) := sliceBounds items.length start stop
  (items.take stop).drop start

/-- The pieces of a text between the occurrences of a separator. An empty separator separates all
characters, a missing one none. -/
def splitText (text : List Char) (separator : Value) : List (List Char) :=
  match separator with
  | undefined => [text]
  | separator =>
    let separator := separator.text.toList
    if separator.isEmpty then text.map ([·]) else Text.split separator text

/-- The position of a text in another one, in code units. -/
def indexOfText (text part : List Char) : Number :=
  match Text.cutAt? part text with
  | some (before, _) => .ofNat (Text.unitLength before)
  | none => .ofInt (-1)

/-- The position of an item in an array. -/
def indexOfItem (items : List Value) (v : Value) : Number :=
  match items.findIdx? (strictEquals · v) with
  | some i => .ofNat i
  | none => .ofInt (-1)

/-- A text with the template forms of items, a separator between them. -/
def joinItems (items : List Value) (separator : Value) : String :=
  let separator :=
    match separator with
    | undefined => ","
    | separator => separator.text
  String.intercalate separator (items.map templateText)

/-- The methods of texts. -/
def textMethod? (s : String) (method : String) (arguments : Arguments) : Option Value :=
  let text := s.toList
  let part := (arguments.arg 0).text.toList
  match method with
  | "toUpperCase" => some (string (.ofList (Text.toUpper text)))
  | "toLowerCase" => some (string (.ofList (Text.toLower text)))
  | "trim" => some (string (.ofList (Text.trim text)))
  | "includes" => some (bool (Text.contains text part))
  | "startsWith" => some (bool (part.isPrefixOf text))
  | "endsWith" => some (bool (part.isSuffixOf text))
  | "indexOf" => some (number (indexOfText text part))
  | "slice" => some (string (.ofList (slice text (arguments.arg 0) (arguments.arg 1))))
  | "split" => some (array ((splitText text (arguments.arg 0)).map (string <| .ofList ·)))
  | _ => none

/-- The methods of arrays. -/
def arrayMethod? (items : List Value) (method : String) (arguments : Arguments) : Option Value :=
  match method with
  | "includes" => some (bool (items.any (sameItem · (arguments.arg 0))))
  | "indexOf" => some (number (indexOfItem items (arguments.arg 0)))
  | "join" => some (string (joinItems items (arguments.arg 0)))
  | "slice" => some (array (slice items (arguments.arg 0) (arguments.arg 1)))
  | _ => none

/-- The number of places that `toFixed` is asked for; none at all if the argument is missing. -/
def placesArgument : Value → Number
  | undefined => 0
  | other => other.toNumber

/-- The value of a method, if the receiver has one of that name. Every receiver has `toString`. -/
def method? (receiver : Value) (method : String) (arguments : Arguments) :
    Option (Except ExprError Value) :=
  let own :=
    match receiver with
    | string s => (textMethod? s method arguments).map .ok
    | array items => (arrayMethod? items method arguments).map .ok
    | number n =>
      if method = "toFixed" then
        some ((Library.withPlaces n (placesArgument (arguments.arg 0))).map string)
      else none
    | _ => none
  own <|> if method = "toString" then some (.ok (string receiver.text)) else none

end TemplateExpr.Value
