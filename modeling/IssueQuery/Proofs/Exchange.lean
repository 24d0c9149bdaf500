import IssueQuery.Json.Draft

namespace IssueQuery

namespace Json

/-- Members with their keys as text. -/
def keyed (members : List (String × Json)) : List (Text × Json) :=
  members.map fun (key, value) => (key.toList, value)

theorem ofMembers_eq (members : List (String × Json)) : ofMembers members = .object (keyed members) := rfl

@[simp] theorem lookup?_nil (key : Text) : lookup? key (keyed []) = none := rfl

@[simp] theorem lookup?_cons (key : Text) (k : String) (value : Json) (members : List (String × Json)) :
    lookup? key (keyed ((k, value) :: members)) =
      if k.toList = key then some value else lookup? key (keyed members) := rfl

@[simp] theorem lookup?_append (key : Text) (before after : List (String × Json)) :
    lookup? key (keyed (before ++ after)) = (lookup? key (keyed before)).or (lookup? key (keyed after)) := by
  induction before with
  | nil => rfl
  | cons first before ih =>
    rw [List.cons_append, lookup?_cons, lookup?_cons]
    split
    · rfl
    · exact ih

/-- An optional member is found under its own key alone. -/
@[simp] theorem lookup?_member? {α : Type} (key : Text) (k : String) (encode : α → Json) (a : Option α) :
    lookup? key (keyed (member? k encode a)) = if k.toList = key then a.map encode else none := by
  cases a <;> simp [member?]

@[simp] theorem members?_object (keys : List String) (members : List (Text × Json)) :
    members? keys (.object members) = some members := rfl

theorem withDefault?_some {α : Type} {decode : Json → Option α} {j : Json} {a : α} (read : decode j = some a)
    (default : α) : withDefault? default decode (some j) = some a := read

/-- Whatever is written is read back. It is not written as null, so a member that is there is told from one
that is left out. -/
structure ReadsBack {α : Type} (encode : α → Json) (decode : Json → Option α) : Prop where
  decode_encode : ∀ a, decode (encode a) = some a
  ne_null : ∀ a, encode a ≠ .null

namespace ReadsBack

variable {α : Type} {encode : α → Json} {decode : Json → Option α}

theorem optional? (back : ReadsBack encode decode) (a : Option α) :
    Json.optional? decode (a.map encode) = some a := by
  cases a with
  | none => rfl
  | some a =>
    rw [Option.map_some, Json.optional?]
    · rw [back.decode_encode, Option.map_some]
    · exact back.ne_null a

theorem mapM (back : ReadsBack encode decode) (as : List α) : (as.map encode).mapM decode = some as := by
  induction as with
  | nil => rfl
  | cons a as ih =>
    rw [List.map_cons, List.mapM_cons, back.decode_encode, ih]
    rfl

theorem list? (back : ReadsBack encode decode) (as : List α) : Json.list? decode (.array (as.map encode)) = some as :=
  back.mapM as

end ReadsBack

theorem readsBack_text : ReadsBack .string text? := ⟨fun _ => rfl, nofun⟩

end Json

open Json

theorem Operator.readsBack : ReadsBack toJson ofJson? where
  decode_encode op := by cases op <;> rfl
  ne_null := nofun

theorem Direction.readsBack : ReadsBack toJson ofJson? where
  decode_encode d := by cases d <;> rfl
  ne_null := nofun

/-- A type is written neither as null nor as an array, which tells the keys of lists and of objects apart. -/
theorem FieldType.toJson_ne (type : FieldType) : type.toJson ≠ .null ∧ ∀ items, type.toJson ≠ .array items := by
  cases type <;> exact ⟨nofun, nofun⟩

theorem typeMember?_eq (members : List (Text × Json)) :
    typeMember? members = lookup? "type".toList members >>= FieldType.ofJson? := by
  induction members with
  | nil => rfl
  | cons first members ih =>
    rw [typeMember?, lookup?]
    split
    · rfl
    · exact ih

theorem typeItem?_eq (items : List Json) :
    typeItem? items = lookup? "type".toList ((FieldDef.keys.map String.toList).zip items) >>= FieldType.ofJson? := by
  match items with
  | [] | [_] | _ :: _ :: _ => rfl

/-- A field is read like the other records, whichever way its type has been reached. -/
theorem FieldDef.ofJson?_eq (j : Json) :
    FieldDef.ofJson? j = j.members? FieldDef.keys >>= fun members =>
      FieldDef.ofMembers? members (lookup? "type".toList members >>= FieldType.ofJson?) := by
  cases j with
  | object members =>
    rw [FieldDef.ofJson?, typeMember?_eq]
    rfl
  | array items =>
    rw [FieldDef.ofJson?, typeItem?_eq, members?]
    split
    · rfl
    · rfl
  | _ => rfl

example : FieldDef.ofJson? (.array [.ofString "a", .ofString "int"]) = some ⟨"a".toList, .int, none⟩ := rfl

mutual

theorem FieldType.ofJson?_toJson : ∀ type : FieldType, FieldType.ofJson? type.toJson = some type
  | .string | .int | .float | .bool | .datetime => rfl
  | .list element => by
    obtain ⟨notNull, notArray⟩ := element.toJson_ne
    have whole : (FieldType.list element).toJson = .object [("list".toList, element.toJson)] := rfl
    rw [whole, FieldType.ofJson?, FieldType.ofJson?_toJson element]
    · rfl
    · exact notNull
    · exact notArray
  | .object fields => by
    have whole : (FieldType.object fields).toJson = .object [("object".toList, .array (fieldsToJson fields))] := rfl
    rw [whole, FieldType.ofJson?, fieldsOfJson?_fieldsToJson fields]
    rfl

theorem FieldDef.ofJson?_toJson : ∀ f : FieldDef, FieldDef.ofJson? f.toJson = some f
  | ⟨name, type, customId⟩ => by
    have readType := FieldType.ofJson?_toJson type
    have readId := readsBack_text.optional? customId
    rw [FieldDef.toJson, ofMembers_eq, FieldDef.ofJson?_eq]
    simp [FieldDef.ofMembers?, text?, readType, readId]

theorem fieldsOfJson?_fieldsToJson : ∀ fields : List FieldDef, fieldsOfJson? (fieldsToJson fields) = some fields
  | [] => rfl
  | f :: fs => by
    rw [fieldsToJson, fieldsOfJson?, FieldDef.ofJson?_toJson f, fieldsOfJson?_fieldsToJson fs]
    rfl

end

theorem Hashtag.readsBack : ReadsBack toJson ofJson? where
  decode_encode h := by
    have operator := Operator.readsBack.optional? h.operator
    simp [toJson, ofMembers_eq, ofJson?, text?, operator]
  ne_null := nofun

theorem RawValue.readsBack : ReadsBack toJson ofJson? where
  decode_encode v := by
    cases v with
    | scalar => rfl
    | list items => rw [toJson, ofTexts, ofJson?, readsBack_text.mapM, Option.map_some]
  ne_null v := by cases v <;> nofun

theorem DraftFilter.readsBack : ReadsBack toJson ofJson? where
  decode_encode f := by
    have operator := Operator.readsBack.optional? f.operator
    have value := RawValue.readsBack.optional? f.value
    have customId := readsBack_text.optional? f.customId
    simp [toJson, ofMembers_eq, ofJson?, text?, operator, value, customId]
  ne_null := nofun

theorem DraftSort.readsBack : ReadsBack toJson ofJson? where
  decode_encode k := by
    have direction := withDefault?_some (Direction.readsBack.decode_encode k.direction)
    have customId := readsBack_text.optional? k.customId
    simp [toJson, ofMembers_eq, ofJson?, text?, direction, customId]
  ne_null := nofun

theorem Draft.readsBack : ReadsBack toJson ofJson? where
  decode_encode d := by
    have filters := withDefault?_some (DraftFilter.readsBack.list? d.filters)
    have sortBy := withDefault?_some (DraftSort.readsBack.list? d.sortBy)
    simp [toJson, ofMembers_eq, ofJson?, filters, sortBy]
  ne_null := nofun

theorem Schema.readsBack : ReadsBack toJson ofJson? where
  decode_encode s := by
    have read : fieldList? (.array (fieldsToJson s.fields)) = some s.fields := fieldsOfJson?_fieldsToJson s.fields
    have fields := withDefault?_some read
    have hashtags := withDefault?_some (Hashtag.readsBack.list? s.hashtags)
    have root := withDefault?_some (readsBack_text.decode_encode s.customFieldRoot)
    simp [toJson, ofMembers_eq, ofJson?, fields, hashtags, root]
  ne_null := nofun

namespace Settings

theorem depth?_eq_some_iff {j : Json} {n : Nat} : depth? j = some n ↔ j = .int n ∧ n < 1 <<< 64 := by
  constructor
  · intro read
    unfold depth? at read
    split at read
    · rename_i m
      split at read
      · rename_i range
        cases read
        refine ⟨by rw [Int.toNat_of_nonneg range.1], ?_⟩
        omega
      · cases read
    · cases read
  · rintro ⟨rfl, bound⟩
    rw [depth?, if_pos ⟨Int.natCast_nonneg n, Int.ofNat_lt.mpr bound⟩, Int.toNat_natCast]

theorem ofJson?_toJson {s : Settings} (bound : s.maxDepth < 1 <<< 64) : ofJson? s.toJson = some s := by
  have direction := withDefault?_some (Direction.readsBack.decode_encode s.defaultSortDirection)
  have depth := withDefault?_some (depth?_eq_some_iff.mpr ⟨rfl, bound⟩)
  have field := withDefault?_some (readsBack_text.decode_encode s.defaultSortField)
  simp [toJson, ofMembers_eq, ofJson?, field, direction, depth]

/-- The depth that is read, or else the default, has 64 bits. -/
theorem maxDepth_lt_of_ofJson? {j : Json} {s : Settings} (read : ofJson? j = some s) : s.maxDepth < 1 <<< 64 := by
  simp only [ofJson?, Option.bind_eq_bind, Option.bind_eq_some_iff] at read
  obtain ⟨members, _, field, _, direction, _, depth, atDepth, same⟩ := read
  cases same
  unfold withDefault? at atDepth
  split at atDepth
  · cases atDepth
    show 200 < 1 <<< 64
    decide
  · exact (depth?_eq_some_iff.mp atDepth).2

end Settings

/-- Schemas, settings and drafts are read back as they were written, however deep their types are nested and
whatever is left out; the depth of settings has to fit 64 bits. So what is read from a JSON value does not change
when it is written and read once more. -/
theorem exchange_readsBack :
    (∀ s : Schema, Schema.ofJson? s.toJson = some s) ∧
      (∀ s : Settings, Settings.ofJson? s.toJson = some s ↔ s.maxDepth < 1 <<< 64) ∧
      (∀ d : Draft, Draft.ofJson? d.toJson = some d) ∧
      ∀ j : Json,
        (∀ s, Schema.ofJson? j = some s → Schema.ofJson? s.toJson = some s) ∧
          (∀ s, Settings.ofJson? j = some s → Settings.ofJson? s.toJson = some s) ∧
          ∀ d, Draft.ofJson? j = some d → Draft.ofJson? d.toJson = some d := by
  refine ⟨Schema.readsBack.decode_encode, fun s => ⟨Settings.maxDepth_lt_of_ofJson?, Settings.ofJson?_toJson⟩,
    Draft.readsBack.decode_encode, fun j => ⟨fun s _ => Schema.readsBack.decode_encode s, fun s read => ?_,
      fun d _ => Draft.readsBack.decode_encode d⟩⟩
  exact Settings.ofJson?_toJson (Settings.maxDepth_lt_of_ofJson? read)

/-- A list of objects with parts, members that are missing, null or not known, and both notations of a name. -/
theorem exchange_readsBack_sample :
    let text : String → Json := .ofString
    let parts : Json := .array
      [.ofMembers [("type", text "int"), ("name", text "b"), ("custom_id", .null)],
        .ofMembers [("name", text "c"), ("type", .ofMembers [("list", .ofMembers [("bool", .null)])]), ("custom_id", text "")]]
    let schema : Json := .ofMembers [("version", .int 2), ("fields", .array
      [.ofMembers [("name", text "a"), ("type", .ofMembers [("list", .ofMembers [("object", parts)])])]])]
    let settings : Json := .ofMembers [("max_depth", .int 18446744073709551615)]
    let draft : Json := .ofMembers [("filters", .array
      [.ofMembers [("name", text "#done")],
        .ofMembers [("name", text "a__b"), ("operator", .ofMembers [("in", .null)]), ("value", .array [])]])]
    let type : FieldType := .list (.object [⟨"b".toList, .int, none⟩, ⟨"c".toList, .list .bool, some []⟩])
    let s : Schema := { fields := [⟨"a".toList, type, none⟩] }
    let t : Settings := { maxDepth := 18446744073709551615 }
    let d : Draft :=
      ⟨[⟨"#done".toList, none, none, none⟩, ⟨"a__b".toList, some .isIn, some (.list []), none⟩], []⟩
    (Schema.ofJson? schema = some s ∧ Schema.ofJson? s.toJson = some s) ∧
      (Settings.ofJson? settings = some t ∧ Settings.ofJson? t.toJson = some t) ∧
      Draft.ofJson? draft = some d ∧ Draft.ofJson? d.toJson = some d := by
  intro text parts schema settings draft type s t d
  have readSchema : Schema.ofJson? schema = some s := rfl
  have readSettings : Settings.ofJson? settings = some t := rfl
  have readDraft : Draft.ofJson? draft = some d := rfl
  obtain ⟨_, _, _, unchanged⟩ := exchange_readsBack
  exact ⟨⟨readSchema, (unchanged schema).1 s readSchema⟩, ⟨readSettings, (unchanged settings).2.1 t readSettings⟩,
    readDraft, (unchanged draft).2.2 d readDraft⟩

end IssueQuery
