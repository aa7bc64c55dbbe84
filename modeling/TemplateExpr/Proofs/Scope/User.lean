import Mathlib.Data.List.Nodup
import TemplateExpr.Proofs.Value.Documents
import TemplateExpr.Scope.User
import TemplateExpr.Value.Access

/-!
# What a user keeps of its document

The list of attributes with a meaning is written out three times: where a document is read
(`User.ofJson?`), where a user becomes a document (`User.toJson`) and where it becomes a value
(`User.toValue`). The three are in step. A user whose other attributes have names of their own
(`User.Separate`, which every user that was read satisfies) has the same members either way
(`User.toValue_eq_ofJson`), and what it is written as reads back (`User.ofJson?_toJson`). So the
value of a user goes through JSON like any value, and only the signs of zeros are lost on the way
(`user_loses_sign_of_zero`).

* `User.get?_members` — under each name, a user has what is to be kept of its document.
* `User.keys_members` — the order of the names.
* `user_keeps_attributes` — both, and that a user is read back from its value.
-/

namespace TemplateExpr

namespace User

/-! ## Names -/

/-- The attributes with a meaning that are there, as members of a document. -/
def named (user : User) : Fields Json :=
  optional "id" user.id ++ optional "name" user.name ++ optional "email" user.email
    ++ [("roles", .array (user.roles.map .string))]
    ++ optional "locale" user.locale ++ optional "timezone" user.timezone
    ++ optional "avatar" user.avatar

/-- The other attributes have distinct names, and none of those with a meaning. -/
structure Separate (user : User) : Prop where
  nodup : user.others.keys.Nodup
  foreign : ∀ key ∈ user.others.keys, key ∉ attributes

variable {user : User}

theorem members_eq (user : User) : user.members = user.named ++ user.others := rfl

theorem keys_optional (key : String) (value : Option String) :
    (optional key value).keys.Sublist [key] := by
  cases value with
  | none => exact List.nil_sublist _
  | some s => exact List.Sublist.refl _

/-- The attributes with a meaning come in their fixed order. -/
theorem keys_named (user : User) : user.named.keys.Sublist attributes := by
  simp only [named, Fields.keys_append]
  have hroles : Fields.keys [("roles", Json.array (user.roles.map .string))] = ["roles"] := rfl
  rw [hroles]
  exact ((((((keys_optional "id" user.id).append (keys_optional "name" user.name)).append
    (keys_optional "email" user.email)).append (List.Sublist.refl ["roles"])).append
    (keys_optional "locale" user.locale)).append (keys_optional "timezone" user.timezone)).append
    (keys_optional "avatar" user.avatar)

theorem nodup_attributes : attributes.Nodup := by decide

theorem nodup_keys_members (h : user.Separate) : user.members.keys.Nodup := by
  rw [members_eq, Fields.keys_append]
  refine List.Nodup.append (nodup_attributes.sublist user.keys_named) h.nodup ?_
  exact fun key hkey hother => h.foreign key hother (user.keys_named.subset hkey)

/-! ## The two ways of writing a user -/

/-- The members of a document as fields of a value. -/
def asFields (members : Fields Json) : Fields Value :=
  members.map fun (key, document) => (key, .ofJson document)

@[simp] theorem asFields_append (a b : Fields Json) : asFields (a ++ b) = asFields a ++ asFields b :=
  List.map_append

@[simp] theorem keys_asFields (members : Fields Json) : (asFields members).keys = members.keys := by
  simp [asFields, Fields.keys, Function.comp_def]

/-- Of distinct names, the next one is new, and behind it the names are still distinct. -/
theorem new_of_nodup {fields : Fields Value} {key : String} {names : List String}
    (h : (fields.keys ++ key :: names).Nodup) (value : Value) :
    key ∉ fields.keys ∧ ((fields ++ [(key, value)]).keys ++ names).Nodup := by
  have hkey := (List.nodup_cons.mp (List.nodup_middle.mp h)).1
  refine ⟨fun hmem => hkey (List.mem_append_left _ hmem), ?_⟩
  rw [Fields.keys_append, List.append_assoc]
  exact h

/-- Texts that are written under new names come last, as far as they are there. -/
theorem writeTexts_eq {fields : Fields Value} {texts : List (String × Option String)}
    (h : (fields.keys ++ texts.map (·.1)).Nodup) :
    writeTexts fields texts =
      fields ++ asFields (texts.flatMap fun (key, text) => optional key text) := by
  induction texts generalizing fields with
  | nil => exact (List.append_nil fields).symm
  | cons pair texts ih =>
    -- The names written so far and those to come are distinct, and stay so.
    obtain ⟨key, text⟩ := pair
    cases text with
    | none => exact ih (List.nodup_cons.mp (List.nodup_middle.mp h)).2
    | some s =>
      obtain ⟨hnew, hkeys⟩ := new_of_nodup h (.string s)
      have hwrite : writeTexts fields ((key, some s) :: texts) =
          writeTexts (fields ++ [(key, .string s)]) texts := by
        rw [← Fields.insert_of_notMem hnew]
        rfl
      rw [hwrite, ih hkeys, List.append_assoc]
      rfl

/-- Documents that are written under new names come last. -/
theorem writeOthers_eq {fields : Fields Value} {documents : Fields Json}
    (h : (fields.keys ++ Fields.keys documents).Nodup) :
    writeOthers fields documents = fields ++ asFields documents := by
  induction documents generalizing fields with
  | nil => exact (List.append_nil fields).symm
  | cons member documents ih =>
    obtain ⟨key, document⟩ := member
    obtain ⟨hnew, hkeys⟩ := new_of_nodup h (.ofJson document)
    have hwrite : writeOthers fields ((key, document) :: documents) =
        writeOthers (fields ++ [(key, .ofJson document)]) documents := by
      rw [← Fields.insert_of_notMem hnew]
      show writeOthers (if fields.contains key then fields else _) documents = _
      rw [Fields.contains, Fields.get?_eq_none_iff.mpr hnew]
      rfl
    rw [hwrite, ih hkeys, List.append_assoc]
    rfl

theorem ofJson_texts (texts : List String) :
    Value.ofJson (.array (texts.map .string)) = .array (texts.map .string) := by
  rw [Value.ofJson_array, List.map_map]
  rfl

/-- The attributes with a meaning are written in the order of the document, those before the roles,
the roles and those behind them. -/
theorem writeTexts_named (user : User) :
    writeTexts
        ((writeTexts [] [("id", user.id), ("name", user.name), ("email", user.email)]).insert "roles"
          (.array (user.roles.map .string)))
        [("locale", user.locale), ("timezone", user.timezone), ("avatar", user.avatar)] =
      asFields user.named := by
  have hbefore : writeTexts [] [("id", user.id), ("name", user.name), ("email", user.email)] =
      asFields (optional "id" user.id ++ optional "name" user.name ++ optional "email" user.email) := by
    rw [writeTexts_eq (by simp [Fields.keys])]
    simp [List.append_assoc]
  have hkeys := ((keys_optional "id" user.id).append (keys_optional "name" user.name)).append
    (keys_optional "email" user.email)
  rw [← Fields.keys_append, ← Fields.keys_append, ← keys_asFields, ← hbefore] at hkeys
  have hroles : "roles" ∉ (writeTexts []
      [("id", user.id), ("name", user.name), ("email", user.email)]).keys :=
    fun hmem => absurd (hkeys.subset hmem) (by decide)
  rw [Fields.insert_of_notMem hroles, writeTexts_eq, hbefore]
  · simp [named, asFields, ofJson_texts, List.append_assoc]
  · rw [Fields.keys_append]
    exact nodup_attributes.sublist ((hkeys.append (.refl ["roles"])).append (.refl _))

/-- **The two ways of writing a user are in step.** -/
theorem fields_eq (h : user.Separate) : user.fields = asFields user.members := by
  have hkeys : ((asFields user.named).keys ++ user.others.keys).Nodup := by
    rw [keys_asFields, ← Fields.keys_append]
    exact nodup_keys_members h
  rw [fields, writeTexts_named, writeOthers_eq hkeys, members_eq, asFields_append]

theorem toValue_eq_ofJson (h : user.Separate) : user.toValue = .ofJson user.toJson := by
  rw [toValue, fields_eq h, toJson, Value.ofJson_object, asFields]

/-! ## Reading a user -/

/-- The attributes that are texts. -/
def texts (user : User) : List (String × Option String) :=
  [("id", user.id), ("name", user.name), ("email", user.email), ("locale", user.locale),
    ("timezone", user.timezone), ("avatar", user.avatar)]

/-- Each part of the user is what the members say of it. -/
structure Reads (members : Fields Json) (user : User) : Prop where
  texts : ∀ pair ∈ user.texts, text? members pair.1 = some pair.2
  roles : roles? members = some user.roles
  others : user.others = members.filter fun (key, _) => !attributes.contains key

variable {members : Fields Json}

theorem ofJson?_eq_some_iff : ofJson? (.object members) = some user ↔ Reads members user := by
  constructor
  · intro h
    obtain ⟨id, hid, h⟩ := Option.bind_eq_some_iff.mp h
    obtain ⟨name, hname, h⟩ := Option.bind_eq_some_iff.mp h
    obtain ⟨email, hemail, h⟩ := Option.bind_eq_some_iff.mp h
    obtain ⟨roles, hroles, h⟩ := Option.bind_eq_some_iff.mp h
    obtain ⟨locale, hlocale, h⟩ := Option.bind_eq_some_iff.mp h
    obtain ⟨timezone, htimezone, h⟩ := Option.bind_eq_some_iff.mp h
    obtain ⟨avatar, havatar, h⟩ := Option.bind_eq_some_iff.mp h
    cases h
    refine ⟨?_, hroles, rfl⟩
    simp [User.texts, hid, hname, hemail, hlocale, htimezone, havatar]
  · rintro ⟨htexts, hroles, hothers⟩
    simp only [User.texts, List.forall_mem_cons] at htexts
    obtain ⟨hid, hname, hemail, hlocale, htimezone, havatar, -⟩ := htexts
    cases user
    cases hothers
    simp_all [ofJson?]

theorem mem_attributes_iff (user : User) {key : String} :
    key ∈ attributes ↔ key = "roles" ∨ ∃ pair ∈ user.texts, pair.1 = key := by
  have hperm : attributes.Perm ("roles" :: user.texts.map (·.1)) := by
    show attributes.Perm ["roles", "id", "name", "email", "locale", "timezone", "avatar"]
    decide
  rw [hperm.mem_iff, List.mem_cons, List.mem_map]

theorem get?_optional (key : String) (value : Option String) (other : String) :
    (optional key value).get? other = if key = other then value.map .string else none := by
  cases value with
  | none => simp [optional]
  | some s => rfl

theorem get?_named_text (user : User) {pair : String × Option String} (h : pair ∈ user.texts) :
    user.named.get? pair.1 = pair.2.map .string := by
  revert pair
  simp [User.texts, named, Fields.get?_append, get?_optional, Fields.get?]

theorem get?_named_roles (user : User) :
    user.named.get? "roles" = some (.array (user.roles.map .string)) := by
  simp [named, Fields.get?_append, get?_optional, Fields.get?]

theorem text?_of_get? {key : String} {value : Option String}
    (h : members.get? key = value.map .string) : text? members key = some value := by
  cases value <;> simp_all [text?]

theorem texts?_map_string (texts : List String) : texts? (texts.map .string) = some texts := by
  induction texts with
  | nil => rfl
  | cons s texts ih => simp [texts?, ih]

theorem roles?_of_get? {roles : List String}
    (h : members.get? "roles" = some (.array (roles.map .string))) : roles? members = some roles := by
  rw [roles?, h]
  exact texts?_map_string roles

/-- **A user that is written as a document reads back.** -/
theorem ofJson?_toJson (h : user.Separate) : ofJson? user.toJson = some user := by
  have hnone : ∀ key ∈ attributes, user.others.get? key = none := fun key hkey =>
    Fields.get?_eq_none_iff.mpr fun hother => h.foreign key hother hkey
  have hget : ∀ key ∈ attributes, user.members.get? key = user.named.get? key := fun key hkey => by
    rw [members_eq, Fields.get?_append, hnone key hkey, Option.or_none]
  refine ofJson?_eq_some_iff.mpr ⟨fun pair hpair => text?_of_get? ?_, roles?_of_get? ?_, ?_⟩
  · rw [hget _ ((mem_attributes_iff user).mpr (.inr ⟨pair, hpair, rfl⟩)), get?_named_text user hpair]
  · rw [hget _ (by decide), get?_named_roles]
  · have hnamed : user.named.filter (fun (key, _) => !attributes.contains key) = [] := by
      refine List.filter_eq_nil_iff.mpr fun member hmember => ?_
      have hkey := user.keys_named.subset (List.mem_map.mpr ⟨member, hmember, rfl⟩)
      simp [hkey]
    have hothers : user.others.filter (fun (key, _) => !attributes.contains key) = user.others := by
      refine List.filter_eq_self.mpr fun member hmember => ?_
      have hkey := h.foreign _ (List.mem_map.mpr ⟨member, hmember, rfl⟩)
      simp [hkey]
    rw [members_eq, List.filter_append, hnamed, hothers, List.nil_append]

/-! ## What is kept -/

/-- What a user keeps under a name of the members of a document: what they have there, but no null
in the place of an attribute with a meaning, and no roles in the place of missing ones. -/
def kept (members : Fields Json) (key : String) : Option Json :=
  match members.get? key with
  | some .null => if key ∈ attributes then none else some .null
  | some document => some document
  | none => if key = "roles" then some (.array []) else none

theorem kept_eq_some_iff {key : String} {document : Json} :
    kept members key = some document ↔
      members.get? key = some document ∧ ¬ (key ∈ attributes ∧ document = .null) ∨
        key = "roles" ∧ key ∉ members.keys ∧ document = .array [] := by
  unfold kept
  cases hget : members.get? key with
  | none =>
    have hmem : key ∉ members.keys := Fields.get?_eq_none_iff.mp hget
    simp [hmem, eq_comm]
  | some found =>
    have hmem : key ∈ members.keys := Fields.mem_keys_of_mem (Fields.mem_of_get? hget)
    simp only [hmem, not_true, false_and, and_false, or_false]
    cases found with
    | null => by_cases hkey : key ∈ attributes <;> simp [hkey, eq_comm]
    | _ =>
      refine ⟨fun h => ⟨h, fun hnull => ?_⟩, And.left⟩
      cases h
      cases hnull.2

theorem map_kept_eq_some_iff {key : String} {value : Value} :
    (kept members key).map .ofJson = some value ↔
      (∃ document, members.get? key = some document ∧ value = .ofJson document ∧
        ¬ (key ∈ attributes ∧ document = .null)) ∨
      key = "roles" ∧ key ∉ members.keys ∧ value = .array [] := by
  rw [Option.map_eq_some_iff]
  constructor
  · rintro ⟨document, hkept, rfl⟩
    rcases kept_eq_some_iff.mp hkept with ⟨hget, hnull⟩ | ⟨hroles, hmissing, rfl⟩
    · exact .inl ⟨document, hget, rfl, hnull⟩
    · exact .inr ⟨hroles, hmissing, Value.ofJson_array []⟩
  · rintro (⟨document, hget, rfl, hnull⟩ | ⟨hroles, hmissing, rfl⟩)
    · exact ⟨document, kept_eq_some_iff.mpr (.inl ⟨hget, hnull⟩), rfl⟩
    · exact ⟨.array [], kept_eq_some_iff.mpr (.inr ⟨hroles, hmissing, rfl⟩), Value.ofJson_array []⟩

theorem kept_of_text? {key : String} {value : Option String} (hkey : key ∈ attributes)
    (hroles : key ≠ "roles") (h : text? members key = some value) :
    kept members key = value.map .string := by
  unfold text? at h
  split at h <;> simp_all [kept]

theorem eq_map_of_texts? {items : List Json} {texts : List String} (h : texts? items = some texts) :
    items = texts.map .string := by
  induction items generalizing texts with
  | nil =>
    cases h
    rfl
  | cons item items ih =>
    cases item with
    | string s =>
      obtain ⟨texts, htexts, rfl⟩ := Option.map_eq_some_iff.mp h
      rw [List.map_cons, ih htexts]
    | _ => cases h

theorem kept_of_roles? {roles : List String} (h : roles? members = some roles) :
    kept members "roles" = some (.array (roles.map .string)) := by
  unfold roles? at h
  split at h
  next hget =>
    cases h
    rw [kept, hget]
    rfl
  next items hget =>
    rw [kept, hget, eq_map_of_texts? h]
  next => cases h

theorem get?_others (h : Reads members user) (key : String) :
    user.others.get? key = if key ∈ attributes then none else members.get? key := by
  have hget := Fields.get?_filter (fun key => !attributes.contains key) members key
  rw [h.others, hget]
  by_cases hkey : key ∈ attributes <;> simp [hkey]

/-- **A user has under each name what is to be kept of its document.** -/
theorem get?_members (h : Reads members user) (key : String) :
    user.members.get? key = kept members key := by
  rw [members_eq, Fields.get?_append, get?_others h]
  by_cases hkey : key ∈ attributes
  · rw [if_pos hkey, Option.or_none]
    by_cases hroles : key = "roles"
    · rw [hroles, get?_named_roles, kept_of_roles? h.roles]
    · obtain ⟨pair, hpair, rfl⟩ := ((mem_attributes_iff user).mp hkey).resolve_left hroles
      rw [get?_named_text user hpair, kept_of_text? hkey hroles (h.texts pair hpair)]
  · have hnamed : user.named.get? key = none :=
      Fields.get?_eq_none_iff.mpr fun hmem => hkey (user.keys_named.subset hmem)
    have hroles : key ≠ "roles" := by
      rintro rfl
      exact hkey (by decide)
    rw [if_neg hkey, hnamed, Option.none_or, kept]
    split <;> simp_all

theorem keys_others (h : Reads members user) :
    user.others.keys = members.keys.filter fun key => !attributes.contains key := by
  rw [h.others, Fields.keys, Fields.keys, List.filter_map]
  rfl

theorem separate_of_reads (hkeys : members.keys.Nodup) (h : Reads members user) : user.Separate := by
  constructor
  · rw [keys_others h]
    exact hkeys.filter _
  · intro key hkey
    rw [keys_others h, List.mem_filter] at hkey
    simpa using hkey.2

theorem get?_asFields (members : Fields Json) (key : String) :
    (asFields members).get? key = (members.get? key).map .ofJson := by
  induction members with
  | nil => rfl
  | cons member members ih =>
    obtain ⟨k, document⟩ := member
    rw [asFields, List.map_cons, Fields.get?, Fields.get?]
    split
    · rfl
    · exact ih

theorem filter_mem_of_sublist {names names' : List String} (h : names.Sublist names')
    (hnodup : names'.Nodup) : names'.filter (· ∈ names) = names := by
  induction h with
  | slnil => rfl
  | @cons names names' name h ih =>
    obtain ⟨hname, hnodup⟩ := List.nodup_cons.mp hnodup
    have hnew : name ∉ names := fun hmem => hname (h.subset hmem)
    rw [List.filter_cons_of_neg (by simpa using hnew), ih hnodup]
  | @cons_cons names names' name h ih =>
    obtain ⟨hname, hnodup⟩ := List.nodup_cons.mp hnodup
    have hfilter : names'.filter (· ∈ name :: names) = names'.filter (· ∈ names) :=
      List.filter_congr fun other hother => by simp [ne_of_mem_of_not_mem hother hname]
    rw [List.filter_cons_of_pos (by simp), hfilter, ih hnodup]

/-- The attributes with a meaning come in their fixed order, and the others behind them in the order
of the document. -/
theorem keys_members (h : Reads members user) :
    user.members.keys = attributes.filter (· ∈ user.members.keys) ++
      members.keys.filter fun key => !attributes.contains key := by
  have hnamed : attributes.filter (· ∈ user.members.keys) = user.named.keys := by
    rw [← filter_mem_of_sublist user.keys_named nodup_attributes]
    refine List.filter_congr fun key hkey => ?_
    rw [members_eq, Fields.keys_append, keys_others h]
    simp [hkey]
  rw [hnamed, ← keys_others h, ← Fields.keys_append, members_eq]

/-! ## Reading a user again -/

/-- The members of a document as they come back from a value. -/
def carried (members : Fields Json) : Fields Json :=
  members.map fun (key, document) => (key, (Value.ofJson document).toJson)

/-- The user with its other attributes as they come back from a value. -/
def reread (user : User) : User := { user with others := carried user.others }

theorem keys_others_reread (user : User) : user.reread.others.keys = user.others.keys := by
  simp [reread, carried, Fields.keys, Function.comp_def]

theorem keys_reread (user : User) : user.reread.members.keys = user.members.keys := by
  rw [members_eq, members_eq, Fields.keys_append, Fields.keys_append, keys_others_reread]
  rfl

theorem separate_reread (h : user.Separate) : user.reread.Separate := by
  constructor
  · rw [keys_others_reread]
    exact h.nodup
  · rw [keys_others_reread]
    exact h.foreign

@[simp] theorem carried_append (a b : Fields Json) : carried (a ++ b) = carried a ++ carried b :=
  List.map_append

/-- Texts come back as they were. -/
theorem carried_named (user : User) : carried user.named = user.named := by
  have hoptional (key : String) (value : Option String) :
      carried (optional key value) = optional key value := by
    cases value <;> rfl
  have hroles : (Value.ofJson (.array (user.roles.map .string))).toJson =
      .array (user.roles.map .string) := by
    rw [ofJson_texts, Value.toJson_array, List.map_map]
    rfl
  have hmember : carried [("roles", .array (user.roles.map .string))] =
      [("roles", .array (user.roles.map .string))] := by
    simp [carried, hroles]
  simp only [named, carried_append, hoptional, hmember]

theorem toJson_toValue (h : user.Separate) : user.toValue.toJson = user.reread.toJson := by
  have hcarried : user.toValue.toJson = .object (carried user.members) := by
    rw [toValue_eq_ofJson h, toJson, Value.ofJson_object, Value.toJson_object, List.map_map]
    rfl
  rw [hcarried, members_eq, carried_append, carried_named]
  rfl

theorem wellFormed_named (user : User) : ∀ member ∈ user.named, member.2.WellFormed := by
  have hoptional (key : String) (value : Option String) :
      ∀ member ∈ optional key value, member.2.WellFormed := by
    cases value with
    | none => simp [optional]
    | some s => simpa [optional] using Json.WellFormed.string s
  have hroles : (Json.array (user.roles.map .string)).WellFormed :=
    .array (List.forall_mem_map.mpr fun s _ => .string s)
  simp only [named, List.forall_mem_append, List.forall_mem_singleton]
  exact ⟨⟨⟨⟨⟨⟨hoptional _ _, hoptional _ _⟩, hoptional _ _⟩, hroles⟩, hoptional _ _⟩,
    hoptional _ _⟩, hoptional _ _⟩

/-- A user of a well-formed document is written as one. -/
theorem wellFormed_toJson (hmembers : (Json.object members).WellFormed) (h : Reads members user) :
    user.toJson.WellFormed := by
  cases hmembers with
  | object hkeys hmembers =>
    refine .object (nodup_keys_members (separate_of_reads hkeys h)) ?_
    rw [members_eq]
    refine List.forall_mem_append.mpr ⟨wellFormed_named user, fun member hmember => ?_⟩
    rw [h.others] at hmember
    exact hmembers member (List.mem_of_mem_filter hmember)

/-- What comes back is the value of the user without the signs of its zeros. -/
theorem toValue_reread (h : user.Separate) (hwritten : user.toJson.WellFormed) :
    user.reread.toValue = user.toValue.mapLeaves Value.unsignedZero := by
  rw [toValue_eq_ofJson (separate_reread h), ← toJson_toValue h, Value.ofJson_toJson,
    toValue_eq_ofJson h, hwritten.mapLeaves_carried]

end User

/-- **A user keeps the attributes of its document.** Under each name its value has what the document
has there, but a null in the place of a text that may be missing counts as missing, and missing roles
are no roles; it has no other names. The attributes with a meaning come first, in their fixed order,
and the others behind them in the order of the document.

The value of a user can always be read as a user again, with the same names in the same order. What
is read has the value with the zeros at every depth freed of their signs, for JSON writes a negative
zero as zero. That value is equal to the first one, and is the first one if there is no negative
zero in it. -/
theorem user_keeps_attributes {members : Fields Json} {user : User}
    (hmembers : (Json.object members).WellFormed)
    (huser : User.ofJson? (.object members) = some user) :
    user.fields.keys.Nodup ∧
      (∀ key value, user.fields.get? key = some value ↔
        (∃ document, members.get? key = some document ∧ value = .ofJson document ∧
          ¬ (key ∈ User.attributes ∧ document = .null)) ∨
        key = "roles" ∧ key ∉ members.keys ∧ value = .array []) ∧
      user.fields.keys = User.attributes.filter (· ∈ user.fields.keys) ++
        members.keys.filter (· ∉ User.attributes) ∧
      ∃ again, User.ofJson? user.toValue.toJson = some again ∧
        again.toValue = user.toValue.mapLeaves Value.unsignedZero ∧
        again.fields.keys = user.fields.keys ∧ again.toValue.strictEquals user.toValue ∧
        (¬ Value.Occurs (.number (.zero true)) user.toValue → again.toValue = user.toValue) := by
  have hread : User.Reads members user := User.ofJson?_eq_some_iff.mp huser
  have hseparate : user.Separate := by
    cases hmembers with
    | object hkeys => exact User.separate_of_reads hkeys hread
  have hagain := User.separate_reread hseparate
  have hwritten := User.wellFormed_toJson hmembers hread
  have hvalue := User.toValue_reread hseparate hwritten
  have hequal : user.reread.toValue.strictEquals user.toValue := by
    rw [hvalue, User.toValue_eq_ofJson hseparate]
    exact Value.strictEquals_unsignedZeros hwritten.hasDistinctKeys hwritten.not_occurs_nan
  rw [User.fields_eq hseparate, User.keys_asFields]
  refine ⟨User.nodup_keys_members hseparate, fun key value => ?_, ?_, user.reread, ?_, hvalue, ?_,
    hequal, fun hzero => hvalue.trans (Value.mapLeaves_unsignedZero_eq_self hzero)⟩
  · rw [User.get?_asFields, User.get?_members hread]
    exact User.map_kept_eq_some_iff
  · simpa using User.keys_members hread
  · rw [User.toJson_toValue hseparate]
    exact User.ofJson?_toJson hagain
  · rw [User.fields_eq hagain, User.keys_asFields, User.keys_reread]

theorem user_keeps_attributes_of_manager :
    let members : Fields Json := [("active", .bool true), ("id", .string "u1"), ("email", .null),
      ("manager", .object [("id", .string "u0"), ("email", .null)])]
    (Json.object members).WellFormed ∧ ∃ user, User.ofJson? (.object members) = some user ∧
      user.fields.keys = ["id", "roles", "active", "manager"] ∧
      user.fields.get? "manager" = some (.object [("id", .string "u0"), ("email", .null)]) ∧
      user.fields.get? "roles" = some (.array []) ∧
      ∃ again, User.ofJson? user.toValue.toJson = some again ∧ again.toValue = user.toValue := by
  intro members
  have hread : Json.ofText? ("\x7b\"active\":true,\"id\":\"u1\",\"email\":null,\"manager\":" ++
      "\x7b\"id\":\"u0\",\"email\":null\x7d\x7d") = some (.object members) := rfl
  have hmembers : (Json.object members).WellFormed := Json.wellFormed_of_ofText? hread
  obtain ⟨-, hget, -, again, hagain, -, -, -, hsame⟩ := user_keeps_attributes hmembers rfl
  refine ⟨hmembers, _, rfl, by decide, (hget _ _).mpr (.inl ⟨_, rfl, rfl, by simp⟩),
    (hget _ _).mpr (.inr ⟨rfl, by decide, rfl⟩), again, hagain, hsame ?_⟩
  show ¬ Value.Occurs _ (.object [("id", .string "u1"), ("roles", .array []), ("active", .bool true),
    ("manager", .object [("id", .string "u0"), ("email", .null)])])
  simp [Value.occurs_object_iff, Value.occurs_array_iff, Value.occurs_plain_iff]

/-- The sign of a zero does not come back, so a user need not have the very value that it had. -/
theorem user_loses_sign_of_zero :
    let members : Fields Json := [("z", .number (.double (.zero true)))]
    (Json.object members).WellFormed ∧ ∃ user again, User.ofJson? (.object members) = some user ∧
      User.ofJson? user.toValue.toJson = some again ∧ again.toValue ≠ user.toValue := by
  intro members
  have hmembers : (Json.object members).WellFormed :=
    .object (by decide) (List.forall_mem_singleton.mpr (.number trivial))
  refine ⟨hmembers, _, _, rfl, rfl, fun h => ?_⟩
  have hz : Value.number (.ofInt 0) = .number (.zero true) := congrArg (Value.property · "z") h
  rw [Number.ofInt_zero] at hz
  cases hz

end TemplateExpr
