import DataAccess.Catalog.Query
import DataAccess.Schema.Table

/-!
# Catalog snapshots

What a catalog holds about a set of tables, kept so that a later run can do without the server; and
the capture of loaded tables as a snapshot.
-/

namespace DataAccess.Catalog

open Schema

/-- A column of a snapshot. -/
structure SnapshotColumn where
  name : String
  dataType : String
  /-- The declared type; empty where it is the data type alone. -/
  columnType : String := ""
  nullable : Bool := false
  /-- The key flag of the catalog: `PRI`, `UNI`, `MUL` or nothing. -/
  key : String := ""
  comment : String := ""
  deriving DecidableEq

/-- An index of a snapshot. -/
structure SnapshotIndex where
  name : String
  unique : Bool := false
  columns : List String
  deriving DecidableEq

/-- A column of a foreign key and what it refers to. -/
structure SnapshotReference where
  column : String
  referencedSchema : String
  referencedTable : String
  referencedColumn : String
  deriving DecidableEq

/-- A foreign key of a snapshot. -/
structure SnapshotForeignKey where
  name : String
  columns : List SnapshotReference
  deriving DecidableEq

/-- A table of a snapshot. -/
structure SnapshotTable where
  schema : String
  name : String
  tableType : String := baseTable
  columns : List SnapshotColumn := []
  indexes : List SnapshotIndex := []
  foreignKeys : List SnapshotForeignKey := []
  deriving DecidableEq

/-- A set of tables. -/
structure Snapshot where
  tables : List SnapshotTable := []
  deriving DecidableEq

namespace SnapshotColumn

/-- The full type of a column; without one, its plain type stands in. -/
def effectiveType (column : SnapshotColumn) : String :=
  if column.columnType.isEmpty then column.dataType else column.columnType

/-- What a snapshot holds of a column. -/
def ofColumn (column : Column) : SnapshotColumn :=
  { name := column.name
    dataType := column.nativeType
    columnType := column.extendedType
    nullable := column.nullable
    key := if column.isPrimary then "PRI" else ""
    comment := column.comment }

end SnapshotColumn

namespace SnapshotTable

/-- The column of the name. -/
def column? (table : SnapshotTable) (name : String) : Option SnapshotColumn :=
  table.columns.find? (·.name == name)

/-- The table as a view. -/
def asView (table : SnapshotTable) : SnapshotTable :=
  { table with tableType := "VIEW" }

/-- The table with one more column. -/
def withColumn (table : SnapshotTable) (column : SnapshotColumn) : SnapshotTable :=
  { table with columns := table.columns ++ [column] }

/-- The table with one more index. -/
def withIndex (table : SnapshotTable) (name : String) (unique : Bool) (columns : List String) :
    SnapshotTable :=
  { table with indexes := table.indexes ++ [{ name, unique, columns }] }

/-- The table with one more foreign key to tables of the same schema, from own columns, referenced
tables and referenced columns. -/
def withForeignKey (table : SnapshotTable) (name : String)
    (columns : List (String × String × String)) : SnapshotTable :=
  let references := columns.map fun (column, referencedTable, referencedColumn) =>
    { column, referencedSchema := table.schema, referencedTable, referencedColumn }
  { table with foreignKeys := table.foreignKeys ++ [{ name, columns := references }] }

/-- The names of the columns that a key refers to. -/
def columnNames (table : Table) (refs : List ColumnRef) : List String :=
  (table.columnsOf refs).map (·.name)

/-- What a snapshot holds of keys. -/
def indexesOf (table : Table) (unique : Bool) (groups : KeyGroups) : List SnapshotIndex :=
  groups.map fun (name, refs) => { name, unique, columns := columnNames table refs }

/-- The pair of a foreign key as a reference, if the table has the own column. -/
def reference? (table : Table) (pair : ForeignPair) : Option SnapshotReference :=
  (table.column? pair.own).map fun own =>
    { column := own.name
      referencedSchema := pair.referencedSchema
      referencedTable := pair.referencedTable
      referencedColumn := pair.referenced.name }

/-- A loaded table as a snapshot records it. The primary key comes first among the indexes. -/
def ofTable (table : Table) : SnapshotTable :=
  let primary := if table.hasPrimaryKey then
    [{ name := primaryIndex, unique := true, columns := columnNames table table.primaryKey }]
  else []
  { schema := table.schema
    name := table.name
    columns := table.columns.map SnapshotColumn.ofColumn
    indexes := primary ++ indexesOf table true table.uniqueKeys ++
      indexesOf table false table.nonUniqueKeys
    foreignKeys := table.foreignKeys.map fun (name, pairs) =>
      { name, columns := pairs.filterMap (reference? table) } }

end SnapshotTable

namespace Snapshot

/-- The table of the name in a schema. -/
def table? (snapshot : Snapshot) (schema name : String) : Option SnapshotTable :=
  snapshot.tables.find? fun table => table.schema == schema && table.name == name

/-- All tables of the name in a schema. -/
def tablesNamed (snapshot : Snapshot) (schema name : String) : List SnapshotTable :=
  snapshot.tables.filter fun table => table.schema == schema && table.name == name

/-- What a snapshot holds of tables. -/
def ofTables (tables : List Table) : Snapshot :=
  { tables := tables.map SnapshotTable.ofTable }

end Snapshot

end DataAccess.Catalog
