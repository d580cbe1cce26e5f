import SqlScribe.Catalog.Rows
import SqlScribe.Index
import SqlScribe.Statement
import SqlScribe.Proofs.Documents.WrittenForms

/-!
# Records read back

A record is written with its fields in their declared order, some of them only if they are
present.  Reading finds each field under its name, whatever stands around it, and takes an absent
field for the value that is not written.

Main definitions:

- `Value.AllFinite` says of values that none is a number that is not finite.  Such a number is
  written as null, and is the only value that is.
- `Default.values`, `Column.values` and `Statement.values` list the constants inside.

Main results:

- `Json.record?_object` keeps all members of an object whose names come in declared order.
- `Record.required?_of_field?`, `Record.optional?_of_field?` and `Record.defaulted?_of_field?`
  read a field from what is written for it.
- `ofJson?_toJson` for values, columns, indexes, statements and the rows of the catalog.
-/

namespace SqlScribe

/-! ## Texts and numbers -/

namespace Json

@[simp] theorem text?_text (text : String) : text? (.text text) = some text := rfl

@[simp] theorem bool?_bool (value : Bool) : bool? (.bool value) = some value := rfl

/-- A number of eight bits is read back. -/
@[simp] theorem uint8?_int (n : UInt8) : uint8? (.int n.toNat) = some n := by
  have hlt := n.toNat_lt
  have hrange : ((n.toNat : Int) ≤ 255) := by omega
  simp [uint8?, intBetween?, hrange]

/-- A number of thirty-two bits without a sign is read back. -/
@[simp] theorem uint32?_int (n : UInt32) : uint32? (.int n.toNat) = some n := by
  have hlt := n.toNat_lt
  have hrange : ((n.toNat : Int) ≤ 4294967295) := by omega
  simp [uint32?, intBetween?, hrange]

/-- A number of sixteen bits is read back. -/
@[simp] theorem int16?_int (n : Int16) : int16? (.int n.toInt) = some n := by
  have hlow := n.le_toInt
  have hhigh := n.toInt_lt
  have hrange : -32768 ≤ n.toInt ∧ n.toInt ≤ 32767 := by omega
  simp [int16?, intBetween?, hrange]

/-- A number of thirty-two bits is read back. -/
@[simp] theorem int32?_int (n : Int32) : int32? (.int n.toInt) = some n := by
  have hlow := n.le_toInt
  have hhigh := n.toInt_lt
  have hrange : -2147483648 ≤ n.toInt ∧ n.toInt ≤ 2147483647 := by omega
  simp [int32?, intBetween?, hrange]

/-- A number of sixty-four bits is read back. -/
@[simp] theorem int64?_int (n : Int64) : int64? (.int n.toInt) = some n := by
  have hlow := n.le_toInt
  have hhigh := n.toInt_lt
  have hrange : -9223372036854775808 ≤ n.toInt ∧ n.toInt ≤ 9223372036854775807 := by omega
  simp [int64?, intBetween?, hrange]

/-! ## Lists -/

/-- A list is read item by item. -/
theorem listOf?_cons {α : Type} {read : Json → Option α} {document : Json} {item : α}
    {documents : List Json} {items : List α} (hitem : read document = some item)
    (hrest : listOf? read (.array documents) = some items) :
    listOf? read (.array (document :: documents)) = some (item :: items) := by
  have hrest' : documents.mapM read = some items := hrest
  simp [listOf?, items?, List.mapM_cons, hitem, hrest']

/-- A list is read back if each of its items is. -/
theorem listOf?_map {α : Type} {write : α → Json} {read : Json → Option α} {items : List α}
    (hitems : ∀ item ∈ items, read (write item) = some item) :
    listOf? read (.array (items.map write)) = some items := by
  induction items with
  | nil => rfl
  | cons item rest ih =>
    obtain ⟨hitem, hrest⟩ := List.forall_mem_cons.mp hitems
    exact listOf?_cons hitem (ih hrest)

/-! ## Fields -/

/-- Names that occur once are distinct. -/
theorem distinctNames_of_nodup {members : List (String × Json)}
    (hnodup : (members.map Prod.fst).Nodup) : distinctNames members = true := by
  induction members with
  | nil => rfl
  | cons member rest ih =>
    obtain ⟨hfresh, hrest⟩ := List.nodup_cons.mp hnodup
    have hall : rest.all (·.1 != member.1) = true := by
      rw [List.all_eq_true]
      intro other hother
      exact bne_iff_ne.mpr fun heq => hfresh (heq ▸ List.mem_map_of_mem hother)
    simp [distinctNames, hall, ih hrest]

/-- Members under declared names in declared order are all kept. -/
theorem fields?_object {names : List String} {members : List (String × Json)}
    (hmembers : (members.map Prod.fst).Sublist names) (hnames : names.Nodup) :
    fields? names (.object members) = some ⟨members⟩ := by
  have hknown : members.filter (names.contains ·.1) = members := by
    rw [List.filter_eq_self]
    intro member hmember
    simpa using hmembers.subset (List.mem_map_of_mem hmember)
  have hdistinct := distinctNames_of_nodup (hmembers.nodup hnames)
  simp only [fields?, hknown, hdistinct, if_true]

/-- A record is read from members under declared names in declared order. -/
theorem record?_object {names : List String} {members : List (String × Json)}
    (hmembers : (members.map Prod.fst).Sublist names) (hnames : names.Nodup) :
    record? names (.object members) = some ⟨members⟩ :=
  fields?_object hmembers hnames

/-- A choice with a payload is no bare name. -/
theorem name?_payload {payload : Json} (name : String) (hpayload : payload ≠ .null) :
    name? (.object [(name, payload)]) = none := by
  simp [name?, variant?, hpayload]

end Json

namespace Record

variable {α : Type} {record : Record} {name : String} {read : Json → Option α}

/-- What is read for a field that may be absent or null, by what is written for it. -/
def taken (read : Json → Option α) : Option Json → Option (Option α)
  | none | some .null => some none
  | some document => (read document).map some

@[simp] theorem optional?_eq_taken :
    record.optional? name read = taken read (record.field? name) := rfl

/-- A part that is written only if it is present is read back. -/
theorem taken_map {write : α → Json} {value : Option α}
    (hread : ∀ part ∈ value, write part ≠ .null ∧ read (write part) = some part) :
    taken read (value.map write) = some value := by
  cases value with
  | none => rfl
  | some part =>
    obtain ⟨hnull, hpart⟩ := hread part rfl
    simp [taken, hpart]

/-- A part that is written as null if it is absent is read back. -/
theorem taken_orNull {write : α → Json} {value : Option α}
    (hread : ∀ part ∈ value, write part ≠ .null ∧ read (write part) = some part) :
    taken read (some (Json.orNull write value)) = some value := by
  cases value with
  | none => rfl
  | some part => exact taken_map hread

/-! ### Finding fields -/

/-- A field is that of the first members, if they have it. -/
@[simp] theorem field?_append (first second : List (String × Json)) :
    field? ⟨first ++ second⟩ name = (field? ⟨first⟩ name).or (field? ⟨second⟩ name) :=
  List.lookup_append

@[simp ↓] theorem field?_cons (other : String) (document : Json) (rest : List (String × Json)) :
    field? ⟨(other, document) :: rest⟩ name =
      if name = other then some document else field? ⟨rest⟩ name := by
  by_cases heq : name = other
  · simp [field?, heq]
  · have hne : (name == other) = false := beq_false_of_ne heq
    simp [field?, List.lookup_cons, hne, heq]

@[simp] theorem field?_nil : field? ⟨[]⟩ name = none := rfl

/-- An optional member is found under its own name, if its value is there. -/
@[simp] theorem field?_presentMember (other : String) (write : α → Json) (value : Option α) :
    field? ⟨Column.presentMember other write value⟩ name =
      if name = other then value.map write else none := by
  cases value <;> simp [Column.presentMember, field?_cons, field?_nil]

end Record

/-- The names of an optional member are its name at most. -/
theorem Column.presentMember_sublist {α : Type} (name : String) (write : α → Json)
    (value : Option α) : ((presentMember name write value).map Prod.fst).Sublist [name] := by
  cases value <;> simp [presentMember]

/-! ## Values -/

/-- Whether none of the values is a number that is not finite. -/
def Value.AllFinite (values : List Value) : Prop :=
  ∀ value ∈ values, value.hasLiteral = true

namespace Value

instance (values : List Value) : Decidable (AllFinite values) :=
  inferInstanceAs (Decidable (∀ value ∈ values, value.hasLiteral = true))

@[simp] theorem allFinite_nil : AllFinite [] := by simp [AllFinite]

@[simp] theorem allFinite_singleton (value : Value) :
    AllFinite [value] ↔ value.hasLiteral = true := by simp [AllFinite]

/-- Numbers in two lists are finite if those in each of them are. -/
@[simp] theorem allFinite_append (first second : List Value) :
    AllFinite (first ++ second) ↔ AllFinite first ∧ AllFinite second :=
  List.forall_mem_append

/-- Numbers in parts of items are finite if those of each item are. -/
@[simp] theorem allFinite_flatMap {α : Type} (items : List α) (valuesOf : α → List Value) :
    AllFinite (items.flatMap valuesOf) ↔ ∀ item ∈ items, AllFinite (valuesOf item) :=
  List.forall_mem_flatMap

/-- Every value but a number that is not finite is read back from its document. -/
theorem ofJson?_toJson {value : Value} (hfinite : value.hasLiteral = true) :
    ofJson? value.toJson = some value := by
  cases value with
  | null => rfl
  | bool value => rfl
  | text value => rfl
  | int value => simp [toJson, ofJson?, Json.name?, Json.variant?, ofPayload?]
  | guid value => simp [toJson, ofJson?, Json.name?, Json.variant?, ofPayload?]
  | dateTime value => simp [toJson, ofJson?, Json.name?, Json.variant?, ofPayload?]
  | float value =>
    have hvalue : value.isFinite = true := hfinite
    simp [toJson, ofJson?, Json.name?, Json.variant?, ofPayload?, Json.float?, hvalue]
  | blob bytes =>
    have hbytes : Json.listOf? Json.uint8? (.array (bytes.map fun byte => .int byte.toNat)) =
        some bytes := Json.listOf?_map fun byte _ => Json.uint8?_int byte
    simp [toJson, ofJson?, Json.name?, Json.variant?, ofPayload?, hbytes]

/-- A value is never written as null. -/
theorem toJson_ne_null (value : Value) : value.toJson ≠ .null := by
  cases value <;> simp [toJson]

end Value

/-- A parameter is read back from its document, unless its value is a number that is not finite. -/
theorem Parameter.ofJson?_toJson {parameter : Parameter}
    (hfinite : parameter.value.hasLiteral = true) :
    ofJson? parameter.toJson = some parameter := by
  rw [ofJson?, toJson, Json.record?_object, Option.bind_eq_bind, Option.bind_some]
  case hnames => simp
  case hmembers => simp
  simp [Record.required?, Value.ofJson?_toJson hfinite]

/-! ## Statements -/

namespace Statement

/-- The bound values of a statement. -/
def values (statement : Statement) : List Value := statement.parameters.map Parameter.value

/-- A statement without numbers that are not finite is read back from its document. -/
theorem ofJson?_toJson {statement : Statement} (hfinite : Value.AllFinite statement.values) :
    ofJson? statement.toJson = some statement := by
  have hparameters : Json.listOf? Parameter.ofJson?
      (.array (statement.parameters.map Parameter.toJson)) = some statement.parameters :=
    Json.listOf?_map fun parameter hparameter =>
      Parameter.ofJson?_toJson (hfinite _ (List.mem_map_of_mem hparameter))
  rw [ofJson?, toJson, Json.record?_object, Option.bind_eq_bind, Option.bind_some]
  case hnames => simp
  case hmembers => simp
  simp [Record.required?, Record.defaulted?, hparameters]

end Statement

/-! ## Columns and indexes -/

/-- A generator is read back from its name. -/
@[simp] theorem Generator.ofJson?_documentName (generator : Generator) :
    ofJson? (.text generator.documentName) = some generator := by
  simp [ofJson?, Json.name?, Json.variant?]

namespace Default

/-- The constant that a default is. -/
def values : Default → List Value
  | .value constant => [constant]
  | _ => []

/-- A default is read back from its document, unless it is a number that is not finite. -/
theorem ofJson?_toJson {default : Default} (hfinite : Value.AllFinite default.values) :
    ofJson? default.toJson = some default := by
  cases default with
  | value constant =>
    have hvalue := Value.ofJson?_toJson ((Value.allFinite_singleton constant).mp hfinite)
    simp [toJson, ofJson?, Json.name?_payload _ constant.toJson_ne_null, Json.variant?, hvalue]
  | generated generator => simp [toJson, ofJson?, Json.name?, Json.variant?]
  | expression text => rfl
  | auto => rfl

/-- A default is never written as null. -/
theorem toJson_ne_null (default : Default) : default.toJson ≠ .null := by
  cases default <;> simp [toJson]

end Default

namespace Column

/-- The constant that the default of a column is. -/
def values (column : Column) : List Value := column.default.toList.flatMap Default.values

/-- A column without a number that is not finite is read back from its document. -/
theorem ofJson?_toJson {column : Column} (hfinite : Value.AllFinite column.values) :
    ofJson? column.toJson = some column := by
  obtain ⟨name, kind, length, precision, scale, nullable, key, identity, default⟩ := column
  have hdefault : ∀ part ∈ default,
      part.toJson ≠ .null ∧ Default.ofJson? part.toJson = some part := by
    rintro part ⟨⟩
    exact ⟨part.toJson_ne_null, Default.ofJson?_toJson (by simpa [values] using hfinite)⟩
  have hlength : Record.taken Json.uint32? (length.map fun n => .int n.toNat) = some length :=
    Record.taken_map (by simp)
  have hprecision : Record.taken Json.uint8? (precision.map fun n => .int n.toNat) =
      some precision := Record.taken_map (by simp)
  have hscale : Record.taken Json.uint8? (scale.map fun n => .int n.toNat) = some scale :=
    Record.taken_map (by simp)
  rw [ofJson?, toJson, Json.record?_object, Option.bind_eq_bind, Option.bind_some]
  case hnames => simp
  case hmembers =>
    simp only [List.map_append]
    exact (((((List.Sublist.refl ["name", "kind"]).append (presentMember_sublist _ _ length)).append
      (presentMember_sublist _ _ precision)).append (presentMember_sublist _ _ scale)).append
      (List.Sublist.refl ["nullable", "key", "identity"])).append
      (presentMember_sublist _ _ default)
  simp [Record.required?, Record.defaulted?, hlength, hprecision, hscale,
    Record.taken_map hdefault]

end Column

namespace Index

/-- Every index is read back from its document. -/
theorem ofJson?_toJson (index : Index) : ofJson? index.toJson = some index := by
  obtain ⟨name, keys, clustered, unique⟩ := index
  have hname : Record.taken Json.text? (name.map .text) = some name :=
    Record.taken_map (by simp)
  have hkeys : Json.listOf? IndexKey.ofJson? (.array (keys.map IndexKey.toJson)) = some keys :=
    Json.listOf?_map fun key _ => key.ofJson?_toJson
  have hwritten : toJson ⟨name, keys, clustered, unique⟩ =
      .object (Column.presentMember "name" .text name ++
        [("columns", .array (keys.map IndexKey.toJson)), ("clustered", .bool clustered),
         ("unique", .bool unique)]) := rfl
  rw [ofJson?, hwritten, Json.record?_object, Option.bind_eq_bind, Option.bind_some]
  case hnames => simp
  case hmembers =>
    rw [List.map_append]
    exact (Column.presentMember_sublist _ _ name).append
      (List.Sublist.refl ["columns", "clustered", "unique"])
  simp [Record.required?, Record.defaulted?, hname, hkeys]

end Index

/-! ## Rows of the catalog -/

namespace CatalogColumn

/-- Every row of a column listing is read back from its document. -/
theorem ofJson?_toJson (row : CatalogColumn) : ofJson? row.toJson = some row := by
  have hdefault : Record.taken Json.text? (some (Json.orNull .text row.defaultValue)) =
      some row.defaultValue := Record.taken_orNull (by simp)
  have hcomputation : Record.taken Json.text? (some (Json.orNull .text row.computation)) =
      some row.computation := Record.taken_orNull (by simp)
  have hpersisted : Record.taken Json.bool? (some (Json.orNull .bool row.persistedComputation)) =
      some row.persistedComputation := Record.taken_orNull (by simp)
  rw [ofJson?, toJson, Json.record?_object, Option.bind_eq_bind, Option.bind_some]
  case hnames => simp
  case hmembers => simp
  simp only [Record.required?, Record.optional?_eq_taken, ↓Record.field?_cons, Json.text?_text,
    Json.bool?_bool, Json.uint8?_int, Json.int16?_int, Json.int32?_int, hdefault, hcomputation,
    hpersisted, ↓reduceIte, String.reduceEq]
  rfl

end CatalogColumn

namespace CatalogIndexKey

/-- Every row of an index listing is read back from its document. -/
theorem ofJson?_toJson (row : CatalogIndexKey) : ofJson? row.toJson = some row := by
  have hname : Record.taken Json.text? (some (Json.orNull .text row.name)) = some row.name :=
    Record.taken_orNull (by simp)
  rw [ofJson?, toJson, Json.record?_object, Option.bind_eq_bind, Option.bind_some]
  case hnames => simp
  case hmembers => simp
  simp [Record.required?, hname]

end CatalogIndexKey

/-- Every row of a listing of shared columns is read back from its document. -/
theorem UnionColumn.ofJson?_toJson (row : UnionColumn) : ofJson? row.toJson = some row := by
  rw [ofJson?, toJson, Json.record?_object, Option.bind_eq_bind, Option.bind_some]
  case hnames => simp
  case hmembers => simp
  simp [Record.required?]

/-- Every row of a comparison with a destination is read back from its document. -/
theorem SharedColumn.ofJson?_toJson (row : SharedColumn) : ofJson? row.toJson = some row := by
  rw [ofJson?, toJson, Json.record?_object, Option.bind_eq_bind, Option.bind_some]
  case hnames => simp
  case hmembers => simp
  simp [Record.required?]

end SqlScribe
