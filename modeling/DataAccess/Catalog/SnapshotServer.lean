import DataAccess.Catalog.Snapshot
import DataAccess.Database.Row

/-!
# Serving a snapshot

A connection that answers the catalog queries from a snapshot, as a server with these tables would.
It keeps a record of the queries that it served, and single queries can be made to fail.
-/

namespace DataAccess.Catalog

open Database

/-- What a snapshot connection serves. -/
structure SnapshotServer where
  snapshot : Snapshot
  failing : List CatalogQuery := []

namespace SnapshotServer

/-- The text that is bound at a position of a statement. -/
def textValue (sql : String) (values : List Cell) (position : Nat) :
    Except ConnectionError String :=
  match values[position]?.bind Cell.text? with
  | some text => .ok text
  | none =>
    .error (.query sql ("parameter " ++ toString (position + 1) ++ " must be text"))

/-- The integer that is bound at a position of a statement. -/
def integerValue (sql : String) (values : List Cell) (position : Nat) :
    Except ConnectionError Int64 :=
  match values[position]?.bind Cell.int64? with
  | some value => .ok value
  | none =>
    .error (.query sql ("parameter " ++ toString (position + 1) ++ " must be an integer"))

/-- The rows in the byte order of a name, rows of one name in their old order. -/
def sortedBy {α : Type _} (name : α → String) (items : List α) : List α :=
  items.mergeSort fun left right => Text.byBytes (name left) (name right)

/-- A row of texts. -/
def textRow (cells : List (String × String)) : Row :=
  ⟨cells.map fun (label, text) => (label, Cell.text text)⟩

/-- The row that describes a column. -/
def columnRow (column : SnapshotColumn) : Row :=
  textRow
    [ (Label.columnName, column.name), (Label.dataType, column.dataType),
      (Label.columnType, column.effectiveType),
      (Label.isNullable, if column.nullable then "YES" else "NO"),
      (Label.columnKey, column.key), (Label.columnComment, column.comment) ]

/-- The rows that describe an index, one for each column. -/
def indexRows (index : SnapshotIndex) : List Row :=
  index.columns.map fun column =>
    textRow [(Label.indexName, index.name), (Label.columnName, column)]

/-- The rows that describe a foreign key, one for each column pair. -/
def foreignRows (key : SnapshotForeignKey) : List Row :=
  key.columns.map fun reference =>
    textRow
      [ (Label.constraintName, key.name), (Label.columnName, reference.column),
        (Label.referencedTableSchema, reference.referencedSchema),
        (Label.referencedTableName, reference.referencedTable),
        (Label.referencedColumnName, reference.referencedColumn) ]

/-- The rows that answer a query with the bound values. -/
def answer (snapshot : Snapshot) (query : CatalogQuery) (sql : String) (values : List Cell) :
    Except ConnectionError (List Row) := do
  let first ← textValue sql values 0
  let second ← textValue sql values 1
  let tables := snapshot.tablesNamed first second
  match query with
  | .tables =>
    let listed := snapshot.tables.filter fun table =>
      table.schema == first && table.tableType == second
    .ok ((sortedBy id (listed.map (·.name))).map fun name => textRow [(Label.tableName, name)])
  | .columns => .ok ((tables.flatMap (·.columns)).map columnRow)
  | .column =>
    let name ← textValue sql values 2
    .ok (((tables.flatMap (·.columns)).filter (·.name == name)).map columnRow)
  | .primaryKey =>
    let name ← textValue sql values 2
    .ok (((tables.flatMap (·.indexes)).filter (·.name == name)).flatMap indexRows)
  | .indexKeys =>
    let nonUnique ← integerValue sql values 2
    let indexes := (tables.flatMap (·.indexes)).filter fun index =>
      index.unique == (nonUnique == 0)
    .ok ((sortedBy (·.name) indexes).flatMap indexRows)
  | .foreignKeys => .ok ((sortedBy (·.name) (tables.flatMap (·.foreignKeys))).flatMap foreignRows)

/-- The connection; its state is the list of the queries served, the failed ones included. -/
def connection (server : SnapshotServer) : Connection (List CatalogQuery) where
  query sql values := do
    match CatalogQuery.identify? sql with
    | none => throw (.unsupported sql)
    | some query =>
      modify (· ++ [query])
      if server.failing.contains query then
        throw (.query sql (query.name ++ " query disabled"))
      match answer server.snapshot query sql values with
      | .ok rows => pure rows
      | .error failure => throw failure
  execute sql _ := throw (.unsupported sql)

end SnapshotServer

end DataAccess.Catalog
