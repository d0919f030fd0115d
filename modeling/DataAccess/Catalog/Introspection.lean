import DataAccess.Catalog.Snapshot
import DataAccess.Database.Row

/-!
# Introspection

Loading tables, columns and keys through a connection. A failing query is fatal. Rows that name a
column that the table does not have, and references that lead nowhere, are left out.
-/

namespace DataAccess.Catalog

open Database Schema

/-- Why introspection fails. -/
inductive IntrospectionError where
  /-- Listing the tables of a schema failed. -/
  | listTables (schema : String) (source : ConnectionError)
  /-- Loading one part of a table failed. -/
  | load (schema table part : String) (source : ConnectionError)
  /-- Looking up one referenced column failed. -/
  | columnLookup (schema table column : String) (source : ConnectionError)
  deriving DecidableEq

namespace IntrospectionError

def ticked (name : String) : String :=
  "\x60" ++ name ++ "\x60"

/-- The failure of the connection behind a failure of the catalog. -/
def source : IntrospectionError → ConnectionError
  | listTables _ source | load _ _ _ source | columnLookup _ _ _ source => source

/-- The table that the failure is about, where it is about one. -/
def table? : IntrospectionError → Option String
  | listTables _ _ => none
  | load _ table _ _ | columnLookup _ table _ _ => some table

/-- What a failure says: what was looked for, and what the connection said. -/
def message : IntrospectionError → String
  | listTables schema source =>
    "failed to list tables of schema " ++ ticked schema ++ ": " ++ source.message
  | load schema table part source =>
    "failed to load " ++ part ++ " of " ++ ticked schema ++ "." ++ ticked table ++ ": " ++
      source.message
  | columnLookup schema table column source =>
    "failed to look up column " ++ ticked schema ++ "." ++ ticked table ++ "." ++ ticked column ++
      ": " ++ source.message

end IntrospectionError

/-- The column that a row of an answer describes. -/
def columnOfRow (row : Row) : Except ConnectionError Column := do
  let key ← row.textOrNull Label.columnKey
  let name ← row.text Label.columnName
  let nativeType ← row.text Label.dataType
  let extendedType ← row.text Label.columnType
  let nullable ← row.text Label.isNullable
  let comment ← row.textOrNull Label.columnComment
  .ok
    { name, nativeType, extendedType
      nullable := Text.eqIgnoringCase nullable "YES"
      comment := comment.getD ""
      isPrimary := Text.occursIn "PRI".toList ((key.getD "").toList.map Char.toUpper) }

/-- Introspection through a connection with state `σ`. -/
abbrev Introspect (σ : Type) := EStateM IntrospectionError σ

variable {σ : Type}

/-- Runs a step of a connection and puts its failure into the context given. -/
def inContext {α : Type} (context : ConnectionError → IntrospectionError)
    (step : EStateM ConnectionError σ α) : Introspect σ α := fun state =>
  match step state with
  | .ok value state => .ok value state
  | .error failure state => .error (context failure) state

/-- The value, or its failure in the context given. -/
def decoded {α : Type} (context : ConnectionError → IntrospectionError)
    (value : Except ConnectionError α) : Introspect σ α :=
  match value with
  | .ok value => pure value
  | .error failure => throw (context failure)

/-- Sends a catalog query, with what to say if it fails. -/
def ask (connection : Connection σ) (context : ConnectionError → IntrospectionError)
    (query : CatalogQuery) (values : List Cell) : Introspect σ (List Row) :=
  inContext context (connection.query query.sql values)

/-- The base tables of a schema, not loaded, in the order of the answer. -/
def listTables (connection : Connection σ) (schema : String) : Introspect σ (List Table) := do
  let context := IntrospectionError.listTables schema
  let rows ← ask connection context .tables [.text schema, .text baseTable]
  let names ← decoded context (rows.mapM fun row => row.text Label.tableName)
  pure (names.map fun name => { schema, name })

/-- One column of a table, if the catalog has it. -/
def getColumn (connection : Connection σ) (schema table column : String) :
    Introspect σ (Option Column) := do
  let context := IntrospectionError.columnLookup schema table column
  let rows ← ask connection context .column [.text schema, .text table, .text column]
  match rows with
  | [] => pure none
  | row :: _ => some <$> decoded context (columnOfRow row)

/-- What to say if a part of a table cannot be loaded. -/
def loadFailure (table : Table) (part : String) : ConnectionError → IntrospectionError :=
  .load table.schema table.name part

/-- The columns of a table in the order of their declaration. -/
def loadColumns (connection : Connection σ) (table : Table) : Introspect σ (List Column) := do
  let context := loadFailure table "columns"
  let rows ← ask connection context .columns [.text table.schema, .text table.name]
  decoded context (rows.mapM columnOfRow)

/-- The columns flagged as primary, in the order of their declaration. -/
def flaggedPrimary (table : Table) : List ColumnRef :=
  table.resolveAll ((table.columns.filter (·.isPrimary)).map (·.name))

/-- The columns of the primary key in the order of its index. Where the index gives nothing, the
columns flagged as primary are taken. -/
def loadPrimaryKey (connection : Connection σ) (table : Table) :
    Introspect σ (List ColumnRef) := do
  let context := loadFailure table "primary key"
  let rows ← ask connection context .primaryKey
    [.text table.schema, .text table.name, .text primaryIndex]
  let names ← decoded context (rows.mapM fun row => row.textOrNull Label.columnName)
  let refs := table.resolveAll (names.filterMap id)
  pure (if refs.isEmpty then flaggedPrimary table else refs)

/-- The index and the column that a row of an index names; expressions have no column. -/
def indexEntryOfRow (row : Row) : Except ConnectionError (String × Option String) := do
  let index ← row.text Label.indexName
  let column ← row.textOrNull Label.columnName
  .ok (index, column)

/-- The groups of an index listing, by index name. -/
def indexGroups (table : Table) (entries : List (String × Option String)) : KeyGroups :=
  entries.foldl
    (fun groups (index, column) =>
      match column.bind table.resolve? with
      | some ref => groups.addTo index ref
      | none => groups)
    []

/-- The indexes of a table that are unique, or the ones that are not. -/
def loadIndexGroups (connection : Connection σ) (table : Table) (unique : Bool) :
    Introspect σ KeyGroups := do
  let context := loadFailure table (if unique then "unique keys" else "non-unique keys")
  let rows ← ask connection context .indexKeys
    [.text table.schema, .text table.name, .int (if unique then 0 else 1)]
  let entries ← decoded context (rows.mapM indexEntryOfRow)
  pure (indexGroups table entries)

/-- Loads the unique keys, without the index of the primary key. -/
def loadUniqueKeys (connection : Connection σ) (table : Table) : Introspect σ KeyGroups := do
  let groups ← loadIndexGroups connection table true
  pure (groups.erase primaryIndex)

/-- Loads the keys that several records can share. -/
def loadNonUniqueKeys (connection : Connection σ) (table : Table) : Introspect σ KeyGroups :=
  loadIndexGroups connection table false

/-- A row of a foreign key. -/
structure ForeignEntry where
  constraint : String
  column : String
  schema : String
  table : String
  referenced : String

/-- The column pair that a row of an answer describes. -/
def foreignEntryOfRow (row : Row) : Except ConnectionError ForeignEntry := do
  let constraint ← row.text Label.constraintName
  let column ← row.text Label.columnName
  let schema ← row.text Label.referencedTableSchema
  let table ← row.text Label.referencedTableName
  let referenced ← row.text Label.referencedColumnName
  .ok { constraint, column, schema, table, referenced }

/-- Adds the rows of foreign keys one after another, looking up each referenced column. -/
def addForeignRows (connection : Connection σ) (table : Table) :
    ForeignKeys → List Row → Introspect σ ForeignKeys
  | keys, [] => pure keys
  | keys, row :: rows => do
    let entry ← decoded (loadFailure table "foreign keys") (foreignEntryOfRow row)
    match table.resolve? entry.column with
    | none => addForeignRows connection table keys rows
    | some own =>
      match ← getColumn connection entry.schema entry.table entry.referenced with
      | none => addForeignRows connection table keys rows
      | some referenced =>
        let pair : ForeignPair :=
          { own, referenced, referencedSchema := entry.schema, referencedTable := entry.table }
        addForeignRows connection table (keys.addTo entry.constraint pair) rows

/-- Loads the foreign keys, and looks up the column that each pair refers to. -/
def loadForeignKeys (connection : Connection σ) (table : Table) : Introspect σ ForeignKeys := do
  let rows ← ask connection (loadFailure table "foreign keys") .foreignKeys
    [.text table.schema, .text table.name]
  addForeignRows connection table [] rows

/-- Loads a part of a table and stores it at once. -/
def loadPart {α : Type} (load : Table → Introspect σ α) (store : Table → α → Table) :
    EStateM IntrospectionError (Table × σ) Unit := fun (table, state) =>
  match load table state with
  | .ok part state => .ok () (store table part, state)
  | .error failure state => .error failure (table, state)

/-- Loads columns and keys, one part after another. The parts before a failure stay. A loaded table
is left as it is, and no query is sent. -/
def populate (connection : Connection σ) : EStateM IntrospectionError (Table × σ) Unit := do
  let (table, _) ← get
  unless table.loaded do
    loadPart (loadColumns connection) fun table columns => { table with columns }
    loadPart (loadPrimaryKey connection) fun table primaryKey => { table with primaryKey }
    loadPart (loadUniqueKeys connection) fun table uniqueKeys => { table with uniqueKeys }
    loadPart (loadNonUniqueKeys connection) fun table nonUniqueKeys => { table with nonUniqueKeys }
    loadPart (loadForeignKeys connection) fun table foreignKeys => { table with foreignKeys }
    modify fun (table, state) => ({ table with loaded := true }, state)

/-- The table with all of its parts. -/
def populated (connection : Connection σ) (table : Table) : Introspect σ Table := fun state =>
  match populate connection (table, state) with
  | .ok _ (table, state) => .ok table state
  | .error failure (_, state) => .error failure state

/-- Each table after loading it, one after another. -/
def populateAll (connection : Connection σ) : List Table → Introspect σ (List Table)
  | [] => pure []
  | table :: rest => do
    let table ← populated connection table
    let rest ← populateAll connection rest
    pure (table :: rest)

/-- The base tables of a schema, loaded, as a snapshot. -/
def capture (connection : Connection σ) (schema : String) : Introspect σ Snapshot := do
  let tables ← listTables connection schema
  let tables ← populateAll connection tables
  pure (Snapshot.ofTables tables)

end DataAccess.Catalog
