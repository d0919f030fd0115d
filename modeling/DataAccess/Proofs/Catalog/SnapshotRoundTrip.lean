import DataAccess.Catalog.SnapshotJson
import DataAccess.Proofs.Json.ReadBack
import Mathlib.Data.List.Nodup

/-!
# Snapshots that are written and read

Nothing of a snapshot is lost where it is written as JSON text and read again
(`Snapshot.read?_write`). A record is written with those of its fields that hold something. So each
record is one list of names with the values that are written or left out: reading gives exactly
these values back (`Json.fields?_record`), and what was left out is what a missing value stands for.
-/

namespace DataAccess

namespace Json

/-- Items that are decoded one by one are decoded as a list. -/
theorem mapM_map_eq_some {α β γ : Type _} {encode : α → β} {decode : β → Option γ} {view : α → γ}
    {items : List α} (each : ∀ item ∈ items, decode (encode item) = some (view item)) :
    (items.map encode).mapM decode = some (items.map view) := by
  induction items with
  | nil => rfl
  | cons item items ih =>
      rw [List.map_cons, List.mapM_cons, each item List.mem_cons_self,
        ih fun other later => each other (List.mem_cons_of_mem item later)]
      rfl

/-- The fields of a record that are written. -/
def entriesOf (fields : List (String × Option Json)) : List (String × Json) :=
  fields.filterMap fun field => field.2.map (Prod.mk field.1)

/-- Among fields with distinct names, a name has the one value that is written for it, or none. -/
theorem valuesOf_entriesOf {fields : List (String × Option Json)}
    (distinct : (fields.map Prod.fst).Nodup) {field : String × Option Json}
    (member : field ∈ fields) :
    valuesOf field.1 ((entriesOf fields).map fun entry => (some entry.1, entry.2)) =
      field.2.toList := by
  have named (group : List (String × Option Json)) :
      valuesOf field.1 ((entriesOf group).map fun entry => (some entry.1, entry.2)) =
        group.filterMap fun other => if other.1 = field.1 then other.2 else none := by
    rw [valuesOf, entriesOf, List.filterMap_map, List.filterMap_filterMap]
    refine List.filterMap_congr fun other _ => ?_
    obtain ⟨name, value⟩ := other
    cases value <;> simp
  have none {group : List (String × Option Json)} (free : field.1 ∉ group.map Prod.fst) :
      (group.filterMap fun other => if other.1 = field.1 then other.2 else none) = [] := by
    refine List.filterMap_eq_nil_iff.mpr fun other found => if_neg fun same => free ?_
    exact same ▸ List.mem_map_of_mem found
  obtain ⟨front, back, rfl⟩ := List.append_of_mem member
  rw [List.map_append, List.map_cons, List.nodup_append, List.nodup_cons] at distinct
  obtain ⟨-, ⟨behind, -⟩, apart⟩ := distinct
  have before : field.1 ∉ front.map Prod.fst := fun found =>
    apart field.1 found field.1 List.mem_cons_self rfl
  rw [named, List.filterMap_append, List.filterMap_cons, if_pos rfl, none before, none behind]
  cases field.2 <;> rfl

/-- A record is read with the values that its fields were written with. -/
theorem fields?_record {json : Json} {fields : List (String × Option Json)} {names : List String}
    (written : json = record (entriesOf fields)) (named : fields.map Prod.fst = names)
    (distinct : names.Nodup) : json.fields? names = some (fields.map Prod.snd) := by
  subst written named
  have texts : ((entriesOf fields).map fun entry => (some entry.1, entry.2)).all
      (·.1.isSome) = true := by simp
  rw [record, fields?, if_pos texts]
  refine mapM_map_eq_some fun field member => ?_
  rw [valuesOf_entriesOf distinct member]
  cases field.2 <;> rfl

/-- What stands in a record is written where the values of its fields are. -/
theorem written_record {json : Json} {fields : List (String × Option Json)}
    (written : json = record (entriesOf fields))
    (each : ∀ value ∈ fields.map Prod.snd, ∀ json ∈ value, Written json) : Written json := by
  have inside : ∀ entry ∈ entriesOf fields, Written entry.2 := by
    intro entry member
    obtain ⟨⟨name, value⟩, found, kept⟩ := List.mem_filterMap.mp member
    obtain ⟨json, given, rfl⟩ := Option.map_eq_some_iff.mp kept
    exact each value (List.mem_map_of_mem found) json given
  subst written
  refine .object (fun entry member => ?_) fun entry member => ?_
  · obtain ⟨given, -, rfl⟩ := List.mem_map.mp member
    rfl
  · obtain ⟨given, found, rfl⟩ := List.mem_map.mp member
    exact inside given found

/-- A list is written where its items are. -/
theorem written_list {α : Type _} {encode : α → Json} {items : List α}
    (each : ∀ item, Written (encode item)) : Written (.array (items.map encode)) := by
  refine .array fun json member => ?_
  obtain ⟨item, -, rfl⟩ := List.mem_map.mp member
  exact each item

theorem written_ofText (text : String) : Written (ofText text) :=
  .string text

/-- Lists of texts are written. -/
theorem written_ofTexts (texts : List String) : Written (ofTexts texts) :=
  written_list written_ofText

/-- A field that must be there is decoded from its value. -/
theorem required_some {α : Type _} {decode : Json → Option α} {json : Json} {value : α}
    (decodes : decode json = some value) : required decode (some json) = some value :=
  decodes

/-- A field that is there is decoded from its value, and its default does not matter. -/
theorem optional_some {α : Type _} {decode : Json → Option α} {json : Json} {default value : α}
    (decodes : decode json = some value) : optional default decode (some json) = some value :=
  decodes

/-- A field that is left out where its value is the one that a missing field stands for. -/
theorem optional_ite {α : Type _} {default value : α} {decode : Json → Option α} {written : Bool}
    {json : Json} (decodes : decode json = some value) (same : written = false → value = default) :
    optional default decode (if written then some json else none) = some value := by
  cases written with
  | true => exact decodes
  | false => exact congrArg some (same rfl).symm

theorem text?_ofText (text : String) : text? (ofText text) = some text := rfl

theorem bool?_bool (value : Bool) : bool? (.bool value) = some value := rfl

/-- A list is decoded where each item is. -/
theorem listOf?_map {α : Type _} {encode : α → Json} {decode : Json → Option α} (items : List α)
    (each : ∀ item, decode (encode item) = some item) :
    listOf? decode (.array (items.map encode)) = some items := by
  rw [listOf?, mapM_map_eq_some fun item _ => each item, List.map_id']

/-- A text that is left out where it is empty. -/
theorem optional_ofText (text : String) :
    optional "" text? (if !text.isEmpty then some (ofText text) else none) = some text :=
  optional_ite rfl fun empty => by simpa using empty

/-- A list that is left out where it is empty. -/
theorem optional_list {α : Type _} {encode : α → Json} {decode : Json → Option α}
    (items : List α) (each : ∀ item, decode (encode item) = some item) :
    optional [] (listOf? decode)
      (if !items.isEmpty then some (.array (items.map encode)) else none) = some items :=
  optional_ite (listOf?_map items each) fun empty => by simpa using empty

end Json

namespace Catalog

open Json

namespace SnapshotColumn

/-- The fields of a column in the order in which they are written, without values where they are
left out. -/
def fields (column : SnapshotColumn) : List (String × Option Json) :=
  [ ("name", some (.ofText column.name)), ("data_type", some (.ofText column.dataType)),
    ("column_type",
      if !column.columnType.isEmpty then some (.ofText column.columnType) else none),
    ("nullable", some (.bool column.nullable)),
    ("key", if !column.key.isEmpty then some (.ofText column.key) else none),
    ("comment", if !column.comment.isEmpty then some (.ofText column.comment) else none) ]

/-- A column is written as a record of its fields. -/
theorem toJson_eq (column : SnapshotColumn) : column.toJson = record (entriesOf column.fields) := by
  rw [toJson, fields, fieldIf, fieldIf, fieldIf]
  cases column.columnType.isEmpty <;> cases column.key.isEmpty <;>
    cases column.comment.isEmpty <;> rfl

/-- What is written for a column can be read. -/
theorem written_toJson (column : SnapshotColumn) : Written column.toJson := by
  refine written_record column.toJson_eq ?_
  simp [fields, written_ofText, Written.bool]

/-- A column is read back as it was. -/
theorem ofJson?_toJson (column : SnapshotColumn) : ofJson? column.toJson = some column := by
  have read : column.toJson.fields?
      ["name", "data_type", "column_type", "nullable", "key", "comment"] =
      some (column.fields.map Prod.snd) := fields?_record column.toJson_eq rfl (by decide)
  rw [ofJson?, read]
  simp only [fields, List.map_cons, List.map_nil, Option.bind_eq_bind, Option.bind_some,
    required_some (text?_ofText _), optional_ofText, optional_some (bool?_bool _)]

end SnapshotColumn

namespace SnapshotIndex

/-- The fields of an index. -/
def fields (index : SnapshotIndex) : List (String × Option Json) :=
  [ ("name", some (.ofText index.name)), ("unique", some (.bool index.unique)),
    ("columns", some (.ofTexts index.columns)) ]

/-- An index is written as a record of its fields. -/
theorem toJson_eq (index : SnapshotIndex) : index.toJson = record (entriesOf index.fields) := rfl

/-- What is written for an index can be read. -/
theorem written_toJson (index : SnapshotIndex) : Written index.toJson := by
  refine written_record index.toJson_eq ?_
  simp [fields, written_ofText, written_ofTexts, Written.bool]

/-- An index is read back as it was. -/
theorem ofJson?_toJson (index : SnapshotIndex) : ofJson? index.toJson = some index := by
  have read : index.toJson.fields? ["name", "unique", "columns"] =
      some (index.fields.map Prod.snd) := fields?_record index.toJson_eq rfl (by decide)
  rw [ofJson?, read]
  simp only [fields, List.map_cons, List.map_nil, Option.bind_eq_bind, Option.bind_some, ofTexts,
    required_some (text?_ofText _), optional_some (bool?_bool _),
    required_some (listOf?_map _ text?_ofText)]

end SnapshotIndex

namespace SnapshotReference

/-- The fields of one column pair of a foreign key. -/
def fields (reference : SnapshotReference) : List (String × Option Json) :=
  [ ("column", some (.ofText reference.column)),
    ("referenced_schema", some (.ofText reference.referencedSchema)),
    ("referenced_table", some (.ofText reference.referencedTable)),
    ("referenced_column", some (.ofText reference.referencedColumn)) ]

theorem toJson_eq (reference : SnapshotReference) :
    reference.toJson = record (entriesOf reference.fields) := rfl

theorem written_toJson (reference : SnapshotReference) : Written reference.toJson := by
  refine written_record reference.toJson_eq ?_
  simp [fields, written_ofText]

/-- A column pair is read back as it was. -/
theorem ofJson?_toJson (reference : SnapshotReference) :
    ofJson? reference.toJson = some reference := by
  have read : reference.toJson.fields?
      ["column", "referenced_schema", "referenced_table", "referenced_column"] =
      some (reference.fields.map Prod.snd) := fields?_record reference.toJson_eq rfl (by decide)
  rw [ofJson?, read]
  simp only [fields, List.map_cons, List.map_nil, Option.bind_eq_bind, Option.bind_some,
    required_some (text?_ofText _)]

end SnapshotReference

namespace SnapshotForeignKey

/-- The fields of a foreign key. -/
def fields (key : SnapshotForeignKey) : List (String × Option Json) :=
  [ ("name", some (.ofText key.name)),
    ("columns", some (.array (key.columns.map SnapshotReference.toJson))) ]

theorem toJson_eq (key : SnapshotForeignKey) : key.toJson = record (entriesOf key.fields) := rfl

theorem written_toJson (key : SnapshotForeignKey) : Written key.toJson := by
  refine written_record key.toJson_eq ?_
  simp [fields, written_ofText, written_list SnapshotReference.written_toJson]

/-- A foreign key is read back as it was. -/
theorem ofJson?_toJson (key : SnapshotForeignKey) : ofJson? key.toJson = some key := by
  have read : key.toJson.fields? ["name", "columns"] = some (key.fields.map Prod.snd) :=
    fields?_record key.toJson_eq rfl (by decide)
  rw [ofJson?, read]
  simp only [fields, List.map_cons, List.map_nil, Option.bind_eq_bind, Option.bind_some,
    required_some (text?_ofText _),
    required_some (listOf?_map _ SnapshotReference.ofJson?_toJson)]

end SnapshotForeignKey

namespace SnapshotTable

/-- The fields of a table in the order in which they are written, without values where they are left
out. -/
def fields (table : SnapshotTable) : List (String × Option Json) :=
  [ ("schema", some (.ofText table.schema)), ("name", some (.ofText table.name)),
    ("table_type", some (.ofText table.tableType)),
    ("columns", some (.array (table.columns.map SnapshotColumn.toJson))),
    ("indexes",
      if !table.indexes.isEmpty then some (.array (table.indexes.map SnapshotIndex.toJson))
      else none),
    ("foreign_keys",
      if !table.foreignKeys.isEmpty then
        some (.array (table.foreignKeys.map SnapshotForeignKey.toJson))
      else none) ]

/-- A table is written as a record of its fields. -/
theorem toJson_eq (table : SnapshotTable) : table.toJson = record (entriesOf table.fields) := by
  rw [toJson, fields, fieldIf, fieldIf]
  cases table.indexes.isEmpty <;> cases table.foreignKeys.isEmpty <;> rfl

/-- What is written for a table can be read. -/
theorem written_toJson (table : SnapshotTable) : Written table.toJson := by
  refine written_record table.toJson_eq ?_
  simp [fields, written_ofText, written_list SnapshotColumn.written_toJson,
    written_list SnapshotIndex.written_toJson, written_list SnapshotForeignKey.written_toJson]

/-- A table is read back as it was, with all fields that were left out. -/
theorem ofJson?_toJson (table : SnapshotTable) : ofJson? table.toJson = some table := by
  have read : table.toJson.fields?
      ["schema", "name", "table_type", "columns", "indexes", "foreign_keys"] =
      some (table.fields.map Prod.snd) := fields?_record table.toJson_eq rfl (by decide)
  rw [ofJson?, read]
  simp only [fields, List.map_cons, List.map_nil, Option.bind_eq_bind, Option.bind_some,
    required_some (text?_ofText _), optional_some (text?_ofText _),
    optional_some (listOf?_map _ SnapshotColumn.ofJson?_toJson),
    optional_list _ SnapshotIndex.ofJson?_toJson,
    optional_list _ SnapshotForeignKey.ofJson?_toJson]

end SnapshotTable

namespace Snapshot

/-- The fields of a snapshot. -/
def fields (snapshot : Snapshot) : List (String × Option Json) :=
  [("tables", some (.array (snapshot.tables.map SnapshotTable.toJson)))]

theorem toJson_eq (snapshot : Snapshot) :
    snapshot.toJson = record (entriesOf snapshot.fields) := rfl

/-- What is written for a snapshot can be read. -/
theorem written_toJson (snapshot : Snapshot) : Written snapshot.toJson := by
  refine written_record snapshot.toJson_eq ?_
  simp [fields, written_list SnapshotTable.written_toJson]

/-- A snapshot is read back as it was. -/
theorem ofJson?_toJson (snapshot : Snapshot) : ofJson? snapshot.toJson = some snapshot := by
  have read : snapshot.toJson.fields? ["tables"] = some (snapshot.fields.map Prod.snd) :=
    fields?_record snapshot.toJson_eq rfl (by decide)
  rw [ofJson?, read]
  simp only [fields, List.map_cons, List.map_nil, Option.bind_eq_bind, Option.bind_some,
    optional_some (listOf?_map _ SnapshotTable.ofJson?_toJson)]

/-- **A snapshot is read as it was written.** -/
theorem read?_write (snapshot : Snapshot) : read? snapshot.write = some snapshot := by
  rw [read?, write, read?_pretty snapshot.written_toJson, Option.bind_some, ofJson?_toJson]

end Snapshot

end Catalog

end DataAccess
