import TemplateExpr.Fields
import TemplateExpr.Number.Layout

/-!
# JSON documents

A JSON document with the members of objects in insertion order. A number is an integer or a finite
double, and the two are kept apart: `1` and `1.0` are two documents. The writer is `Json.Writer`, the
reader `Json.Reader`; a written document is `Json.compact` or `Json.pretty`.
-/

namespace TemplateExpr

/-- A number of a JSON document. -/
inductive Json.Numeral where
  | integer (i : Int)
  | double (x : Number.Finite)

/-- The double nearest to the number. -/
def Json.Numeral.toNumber : Json.Numeral → Number
  | integer i => .ofInt i
  | double x => .finite x

/-- A JSON document. -/
inductive Json where
  | null
  | bool (b : Bool)
  | number (n : Json.Numeral)
  | string (s : String)
  | array (items : List Json)
  | object (members : List (String × Json))

namespace Json

instance : Inhabited Json := ⟨null⟩

end Json

end TemplateExpr
