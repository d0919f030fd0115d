import DataAccess.Catalog.Snapshot
import DataAccess.Json.Printer
import DataAccess.Json.Reader

/-!
# Snapshots as JSON

The written form of catalog snapshots. Fields that hold nothing are left out where reading fills
them in again.
-/

namespace DataAccess.Catalog

/-- A field that is written only where the condition holds. -/
def fieldIf (written : Bool) (name : String) (value : Json) : List (String × Json) :=
  if written then [(name, value)] else []

namespace SnapshotColumn

/-- A column as a document. What has its default is left out. -/
def toJson (column : SnapshotColumn) : Json :=
  .record <|
    [("name", .ofText column.name), ("data_type", .ofText column.dataType)] ++
      fieldIf (!column.columnType.isEmpty) "column_type" (.ofText column.columnType) ++
      [("nullable", .bool column.nullable)] ++
      fieldIf (!column.key.isEmpty) "key" (.ofText column.key) ++
      fieldIf (!column.comment.isEmpty) "comment" (.ofText column.comment)

/-- The column in a document. -/
def ofJson? (json : Json) : Option SnapshotColumn := do
  match ← json.fields? ["name", "data_type", "column_type", "nullable", "key", "comment"] with
  | [name, dataType, columnType, nullable, key, comment] =>
    some
      { name := ← Json.required Json.text? name
        dataType := ← Json.required Json.text? dataType
        columnType := ← Json.optional "" Json.text? columnType
        nullable := ← Json.optional false Json.bool? nullable
        key := ← Json.optional "" Json.text? key
        comment := ← Json.optional "" Json.text? comment }
  | _ => none

end SnapshotColumn

namespace SnapshotIndex

/-- An index as a document. -/
def toJson (index : SnapshotIndex) : Json :=
  .record
    [ ("name", .ofText index.name), ("unique", .bool index.unique),
      ("columns", .ofTexts index.columns) ]

/-- The index in a document. -/
def ofJson? (json : Json) : Option SnapshotIndex := do
  match ← json.fields? ["name", "unique", "columns"] with
  | [name, unique, columns] =>
    some
      { name := ← Json.required Json.text? name
        unique := ← Json.optional false Json.bool? unique
        columns := ← Json.required (Json.listOf? Json.text?) columns }
  | _ => none

end SnapshotIndex

namespace SnapshotReference

/-- A column pair of a foreign key as a document. -/
def toJson (reference : SnapshotReference) : Json :=
  .record
    [ ("column", .ofText reference.column),
      ("referenced_schema", .ofText reference.referencedSchema),
      ("referenced_table", .ofText reference.referencedTable),
      ("referenced_column", .ofText reference.referencedColumn) ]

/-- The column pair in a document. -/
def ofJson? (json : Json) : Option SnapshotReference := do
  match ← json.fields?
      ["column", "referenced_schema", "referenced_table", "referenced_column"] with
  | [column, schema, table, referenced] =>
    some
      { column := ← Json.required Json.text? column
        referencedSchema := ← Json.required Json.text? schema
        referencedTable := ← Json.required Json.text? table
        referencedColumn := ← Json.required Json.text? referenced }
  | _ => none

end SnapshotReference

namespace SnapshotForeignKey

/-- A foreign key as a document. -/
def toJson (key : SnapshotForeignKey) : Json :=
  .record
    [ ("name", .ofText key.name),
      ("columns", .array (key.columns.map SnapshotReference.toJson)) ]

/-- The foreign key in a document. -/
def ofJson? (json : Json) : Option SnapshotForeignKey := do
  match ← json.fields? ["name", "columns"] with
  | [name, columns] =>
    some
      { name := ← Json.required Json.text? name
        columns := ← Json.required (Json.listOf? SnapshotReference.ofJson?) columns }
  | _ => none

end SnapshotForeignKey

namespace SnapshotTable

/-- A table as a document. -/
def toJson (table : SnapshotTable) : Json :=
  .record <|
    [ ("schema", .ofText table.schema), ("name", .ofText table.name),
      ("table_type", .ofText table.tableType),
      ("columns", .array (table.columns.map SnapshotColumn.toJson)) ] ++
      fieldIf (!table.indexes.isEmpty) "indexes"
        (.array (table.indexes.map SnapshotIndex.toJson)) ++
      fieldIf (!table.foreignKeys.isEmpty) "foreign_keys"
        (.array (table.foreignKeys.map SnapshotForeignKey.toJson))

/-- The table in a document. -/
def ofJson? (json : Json) : Option SnapshotTable := do
  match ← json.fields?
      ["schema", "name", "table_type", "columns", "indexes", "foreign_keys"] with
  | [schema, name, tableType, columns, indexes, foreignKeys] =>
    some
      { schema := ← Json.required Json.text? schema
        name := ← Json.required Json.text? name
        tableType := ← Json.optional baseTable Json.text? tableType
        columns := ← Json.optional [] (Json.listOf? SnapshotColumn.ofJson?) columns
        indexes := ← Json.optional [] (Json.listOf? SnapshotIndex.ofJson?) indexes
        foreignKeys := ← Json.optional [] (Json.listOf? SnapshotForeignKey.ofJson?) foreignKeys }
  | _ => none

end SnapshotTable

namespace Snapshot

/-- A snapshot as a document. -/
def toJson (snapshot : Snapshot) : Json :=
  .record [("tables", .array (snapshot.tables.map SnapshotTable.toJson))]

/-- The snapshot in a document. -/
def ofJson? (json : Json) : Option Snapshot := do
  match ← json.fields? ["tables"] with
  | [tables] => some { tables := ← Json.optional [] (Json.listOf? SnapshotTable.ofJson?) tables }
  | _ => none

/-- The snapshot in a text. -/
def read? (text : String) : Option Snapshot :=
  (Json.read? text).bind ofJson?

/-- The text of a snapshot. -/
def write (snapshot : Snapshot) : String :=
  snapshot.toJson.pretty

end Snapshot

end DataAccess.Catalog
