import TemplateExpr.Value.Json

/-!
# Users

The identity that expressions see as `user`. The attributes with a meaning are texts and may be
missing; the roles are always there; any other attribute is kept as it is, in order.

A user is written twice, as a document (`User.toJson`) and as what expressions see (`User.toValue`).
-/

namespace TemplateExpr

/-- An authenticated user. -/
structure User where
  id : Option String
  name : Option String
  email : Option String
  roles : List String
  locale : Option String
  timezone : Option String
  avatar : Option String
  /-- The attributes without a meaning of their own. -/
  others : Fields Json

namespace User

/-- The attributes with a meaning. -/
def attributes : List String := ["id", "name", "email", "roles", "locale", "timezone", "avatar"]

/-- An attribute that is a text, null, or missing. -/
def text? (members : Fields Json) (key : String) : Option (Option String) :=
  match members.get? key with
  | none | some .null => some none
  | some (.string s) => some (some s)
  | some _ => none

/-- A list of texts. -/
def texts? : List Json → Option (List String)
  | [] => some []
  | .string s :: items => (texts? items).map (s :: ·)
  | _ :: _ => none

/-- The roles: a list of texts, or nothing at all. -/
def roles? (members : Fields Json) : Option (List String) :=
  match members.get? "roles" with
  | none => some []
  | some (.array items) => texts? items
  | some _ => none

/-- The user that a document describes. -/
def ofJson? : Json → Option User
  | .object members => do
    return {
      id := ← text? members "id"
      name := ← text? members "name"
      email := ← text? members "email"
      roles := ← roles? members
      locale := ← text? members "locale"
      timezone := ← text? members "timezone"
      avatar := ← text? members "avatar"
      others := members.filter fun (key, _) => !attributes.contains key
    }
  | _ => none

/-- An attribute if it is there. -/
def optional (key : String) (value : Option String) : Fields Json :=
  match value with
  | some s => [(key, .string s)]
  | none => []

/-- The attributes that are there, in a fixed order, and the others behind them. -/
def members (user : User) : Fields Json :=
  optional "id" user.id ++ optional "name" user.name ++ optional "email" user.email
    ++ [("roles", .array (user.roles.map .string))]
    ++ optional "locale" user.locale ++ optional "timezone" user.timezone
    ++ optional "avatar" user.avatar ++ user.others

def toJson (user : User) : Json := .object user.members

/-- Writes the texts that are there under their names. -/
def writeTexts (fields : Fields Value) (texts : List (String × Option String)) : Fields Value :=
  texts.foldl (fun fields (key, text) =>
    match text with
    | some s => fields.insert key (.string s)
    | none => fields) fields

/-- Writes the documents under their names, as far as there is nothing under a name. -/
def writeOthers (fields : Fields Value) (documents : Fields Json) : Fields Value :=
  documents.foldl (fun fields (key, document) =>
    if fields.contains key then fields else fields.insert key (.ofJson document)) fields

/-- The attributes as expressions see them. -/
def fields (user : User) : Fields Value :=
  let fields := writeTexts [] [("id", user.id), ("name", user.name), ("email", user.email)]
  let fields := fields.insert "roles" (.array (user.roles.map .string))
  let fields := writeTexts fields
    [("locale", user.locale), ("timezone", user.timezone), ("avatar", user.avatar)]
  writeOthers fields user.others

/-- A user as expressions see it. -/
def toValue (user : User) : Value := .object user.fields

end User

end TemplateExpr
