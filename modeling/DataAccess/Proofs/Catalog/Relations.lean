import DataAccess.Proofs.Catalog.Answers
import DataAccess.Proofs.Catalog.Sorting
import DataAccess.Proofs.Entries.Groups
import DataAccess.Proofs.Sql.Execution

/-!
# The catalog as relations

A snapshot as the views that the catalog queries read: `TABLES`, `COLUMNS`, `STATISTICS` with one
record for each column of an index, and `KEY_COLUMN_USAGE` with one record for each column of a
foreign key. A snapshot connection answers every catalog query with the rows that the query gives
on these relations (`query_executes`).
-/

namespace DataAccess.Catalog

open Database Sql Text

/-- The columns of items, each with its item and its position in it. -/
def partsOf {α β : Type} (columns : α → List β) (items : List α) : List (α × β × Nat) :=
  items.flatMap fun item => ((columns item).zipIdx 1).map fun part => (item, part)

namespace Snapshot

variable (snapshot : Snapshot)

/-- The tables as a relation. -/
def tablesView : Relation where
  Record := SnapshotTable
  attributes :=
    [ ("TABLE_SCHEMA", fun table => .text table.schema),
      ("TABLE_NAME", fun table => .text table.name),
      ("TABLE_TYPE", fun table => .text table.tableType) ]
  records := snapshot.tables

/-- Columns with their tables and positions. -/
def columnsView : Relation where
  Record := SnapshotTable × SnapshotColumn × Nat
  attributes :=
    [ ("TABLE_SCHEMA", fun (table, _) => .text table.schema),
      ("TABLE_NAME", fun (table, _) => .text table.name),
      ("COLUMN_NAME", fun (_, column, _) => .text column.name),
      ("ORDINAL_POSITION", fun (_, _, position) => .number position),
      ("DATA_TYPE", fun (_, column, _) => .text column.dataType),
      ("COLUMN_TYPE", fun (_, column, _) => .text column.effectiveType),
      ("IS_NULLABLE", fun (_, column, _) => .text (if column.nullable then "YES" else "NO")),
      ("COLUMN_KEY", fun (_, column, _) => .text column.key),
      ("COLUMN_COMMENT", fun (_, column, _) => .text column.comment) ]
  records := snapshot.tables.flatMap fun table =>
    (table.columns.zipIdx 1).map fun part => (table, part)

/-- Columns of indexes with their tables, indexes and positions. -/
def statisticsView : Relation where
  Record := SnapshotTable × SnapshotIndex × String × Nat
  attributes :=
    [ ("TABLE_SCHEMA", fun (table, _) => .text table.schema),
      ("TABLE_NAME", fun (table, _) => .text table.name),
      ("NON_UNIQUE", fun (_, index, _) => .number (if index.unique then 0 else 1)),
      ("INDEX_NAME", fun (_, index, _) => .text index.name),
      ("SEQ_IN_INDEX", fun (_, _, _, position) => .number position),
      ("COLUMN_NAME", fun (_, _, column, _) => .text column) ]
  records := snapshot.tables.flatMap fun table =>
    (partsOf (·.columns) table.indexes).map fun part => (table, part)

/-- Columns of foreign keys with their tables, constraints and positions. -/
def keyColumnUsageView : Relation where
  Record := SnapshotTable × SnapshotForeignKey × SnapshotReference × Nat
  attributes :=
    [ ("TABLE_SCHEMA", fun (table, _) => .text table.schema),
      ("TABLE_NAME", fun (table, _) => .text table.name),
      ("CONSTRAINT_NAME", fun (_, key, _) => .text key.name),
      ("COLUMN_NAME", fun (_, _, reference, _) => .text reference.column),
      ("ORDINAL_POSITION", fun (_, _, _, position) => .number position),
      ("REFERENCED_TABLE_SCHEMA", fun (_, _, reference, _) => .text reference.referencedSchema),
      ("REFERENCED_TABLE_NAME", fun (_, _, reference, _) => .text reference.referencedTable),
      ("REFERENCED_COLUMN_NAME", fun (_, _, reference, _) => .text reference.referencedColumn) ]
  records := snapshot.tables.flatMap fun table =>
    (partsOf (·.columns) table.foreignKeys).map fun part => (table, part)

/-- The views of the catalog by their names. -/
def relation? (table : TableRef) : Option Relation :=
  if table.schema = some "information_schema" then
    Entries.find? table.name
      [ ("TABLES", snapshot.tablesView), ("COLUMNS", snapshot.columnsView),
        ("STATISTICS", snapshot.statisticsView),
        ("KEY_COLUMN_USAGE", snapshot.keyColumnUsageView) ]
  else none

section Views

open CatalogQuery (view)

@[simp] theorem relation?_tables :
    snapshot.relation? (view "TABLES") = some snapshot.tablesView := by
  simp [relation?, view, Entries.find?]

@[simp] theorem relation?_columns :
    snapshot.relation? (view "COLUMNS") = some snapshot.columnsView := by
  simp [relation?, view, Entries.find?]

@[simp] theorem relation?_statistics :
    snapshot.relation? (view "STATISTICS") = some snapshot.statisticsView := by
  simp [relation?, view, Entries.find?]

@[simp] theorem relation?_keyColumnUsage :
    snapshot.relation? (view "KEY_COLUMN_USAGE") = some snapshot.keyColumnUsageView := by
  simp [relation?, view, Entries.find?]

end Views

/-- No two tables share schema and name, and no two indexes and no two foreign keys of a table
share a name. -/
structure WellNamed : Prop where
  tables : (snapshot.tables.map fun table => (table.schema, table.name)).Nodup
  indexes : ∀ table ∈ snapshot.tables, (table.indexes.map (·.name)).Nodup
  foreignKeys : ∀ table ∈ snapshot.tables, (table.foreignKeys.map (·.name)).Nodup

end Snapshot

/-- The values that a query takes: texts, and 0 or 1 for the flag of indexes that are not unique. -/
inductive CatalogQuery.Binds : CatalogQuery → List Cell → Prop where
  | tables (schema tableType : String) : Binds .tables [.text schema, .text tableType]
  | columns (schema table : String) : Binds .columns [.text schema, .text table]
  | column (schema table column : String) :
      Binds .column [.text schema, .text table, .text column]
  | primaryKey (schema table index : String) :
      Binds .primaryKey [.text schema, .text table, .text index]
  | indexKeys (schema table : String) (unique : Bool) {flag : Cell}
      (reads : Datum.ofCell? flag = some (.number (if unique then 0 else 1))) :
      Binds .indexKeys [.text schema, .text table, flag]
  | foreignKeys (schema table : String) : Binds .foreignKeys [.text schema, .text table]

section Parts

variable {α β : Type} {columns : α → List β} {items : List α}

/-- Positions increase along a list. -/
theorem pairwise_zipIdx (columns : List β) (start : Nat) :
    (columns.zipIdx start).Pairwise fun left right => left.2 < right.2 := by
  have positions : ((columns.zipIdx start).map Prod.snd).Pairwise (· < ·) := by
    rw [List.zipIdx_map_snd]
    exact List.pairwise_lt_range'
  exact List.pairwise_map.mp positions

/-- The parts of the items that are kept. -/
theorem filter_partsOf (columns : α → List β) (items : List α) (keeps : α → Bool) :
    (partsOf columns items).filter (fun part => keeps part.1) =
      partsOf columns (items.filter keeps) := by
  refine Entries.filter_flatMap_parts items fun item part member => ?_
  obtain ⟨_, -, rfl⟩ := List.mem_map.mp member
  rfl

/-- Rows that do not depend on positions are the rows of the columns. -/
theorem map_fst_zipIdx {ρ : Type} (row : β → ρ) (columns : List β) (start : Nat) :
    (columns.zipIdx start).map (fun part => row part.1) = columns.map row := by
  have rows : (columns.zipIdx start).map (fun part => row part.1) =
      ((columns.zipIdx start).map Prod.fst).map row := List.map_map.symm
  rw [rows, List.zipIdx_map_fst]

/-- Columns that are kept whatever their positions. -/
theorem map_fst_filter_zipIdx (columns : List β) (start : Nat) (keeps : β → Bool) :
    ((columns.zipIdx start).filter fun part => keeps part.1).map Prod.fst =
      columns.filter keeps := by
  have filtered : ((columns.zipIdx start).map Prod.fst).filter keeps =
      ((columns.zipIdx start).filter fun part => keeps part.1).map Prod.fst := List.filter_map
  rw [← filtered, List.zipIdx_map_fst]

/-- The rows of parts are the rows of the columns, item by item. -/
theorem map_partsOf {ρ : Type} (row : α → β → ρ) :
    (partsOf columns items).map (fun part => row part.1 part.2.1) =
      items.flatMap fun item => (columns item).map (row item) := by
  rw [partsOf, List.map_flatMap]
  refine List.flatMap_congr fun item _ => ?_
  rw [List.map_map]
  exact map_fst_zipIdx (row item) _ _

/-- The parts of one item are in the order of their positions. -/
theorem pairwise_partsOf_singleton (columns : α → List β) (item : α) :
    (partsOf columns [item]).Pairwise fun left right => left.2.2 < right.2.2 := by
  rw [partsOf, List.flatMap_singleton, List.pairwise_map]
  exact pairwise_zipIdx _ _

/-- Parts of items with distinct names, sorted by name and position, are the parts of the items
sorted by name. -/
theorem mergeSort_partsOf {name : α → String} (distinct : (items.map name).Nodup) :
    (partsOf columns items).mergeSort
        (upToBy [fun part => .text (name part.1), fun part => .number part.2.2]) =
      partsOf columns (SnapshotServer.sortedBy name items) := by
  let keys : List (α × β × Nat → Datum) :=
    [fun part => .text (name part.1), fun part => .number part.2.2]
  have sortedNames : ((SnapshotServer.sortedBy name items).map name).Nodup :=
    (((SnapshotServer.perm_sortedBy name items).map name).nodup_iff).mpr distinct
  have increasing : (SnapshotServer.sortedBy name items).Pairwise fun left right =>
      byBytes (name left) (name right) = true ∧ name left ≠ name right :=
    (SnapshotServer.pairwise_sortedBy name items).and (List.pairwise_map.mp sortedNames)
  refine mergeSort_eq_of_perm ⟨upToBy_trans keys, upToBy_total keys⟩
    ((SnapshotServer.perm_sortedBy name items).symm.flatMap_right _) ?_
  rw [partsOf, List.pairwise_flatMap]
  constructor
  · intro item _
    rw [List.pairwise_map]
    refine (pairwise_zipIdx (columns item) 1).imp fun {left right} before => ?_
    simp [keys, upToBy, Datum.upTo]
    omega
  · refine increasing.imp fun {left right} precedes leftPart inLeft rightPart inRight => ?_
    obtain ⟨_, -, rfl⟩ := List.mem_map.mp inLeft
    obtain ⟨_, -, rfl⟩ := List.mem_map.mp inRight
    have behind : byBytes (name right) (name left) = false := by
      rw [← Bool.not_eq_true]
      exact fun follows => precedes.2 (byBytes_antisymm precedes.1 follows)
    simp [keys, upToBy, Datum.upTo, precedes.1, precedes.2, precedes.2.symm, behind]

end Parts

section OneTable

variable {snapshot : Snapshot} {β : Type}

/-- In a well-named snapshot a name has no table or exactly one. -/
theorem tablesNamed_eq (named : snapshot.WellNamed) (schema name : String) :
    snapshot.tablesNamed schema name = [] ∨
      ∃ table ∈ snapshot.tables, snapshot.tablesNamed schema name = [table] :=
  @Entries.filter_of_distinct _ _ (fun table => (table.schema, table.name)) _ named.tables _
    (schema, name) fun table keep => by simpa using keep

/-- The records of one table among those of all tables. -/
theorem filter_records (tables : List SnapshotTable) (schema name : String)
    (parts : SnapshotTable → List β) (keeps : β → Bool) :
    (tables.flatMap fun table => (parts table).map fun part => (table, part)).filter
        (fun record => record.1.schema == schema && record.1.name == name && keeps record.2) =
      (tables.filter fun table => table.schema == schema && table.name == name).flatMap
        fun table => ((parts table).filter keeps).map fun part => (table, part) := by
  rw [← List.filter_filter, List.filter_flatMap]
  simp only [List.filter_map]
  refine Entries.filter_flatMap_parts tables fun table record member => ?_
  obtain ⟨_, -, rfl⟩ := List.mem_map.mp member
  rfl

/-- The parts of the tables of a name that satisfy a condition, in the order of the keys. -/
def selectParts (snapshot : Snapshot) (schema name : String) (parts : SnapshotTable → List β)
    (keeps : β → Bool) (keys : List (β → Datum)) : List β :=
  (snapshot.tablesNamed schema name).flatMap fun table =>
    ((parts table).filter keeps).mergeSort (upToBy keys)

/-- A selection of parts of one table is a selection from the parts of that table. -/
theorem selectParts_eq (named : snapshot.WellNamed) (schema name : String)
    (parts : SnapshotTable → List β) (keeps : β → Bool) (keys : List (β → Datum)) :
    selectParts snapshot schema name parts keeps keys =
      (((snapshot.tables.flatMap fun table =>
          (parts table).map fun part => (table, part)).filter fun record =>
        record.1.schema == schema && record.1.name == name && keeps record.2).mergeSort
          (upToBy (keys.map fun key record => key record.2))).map Prod.snd := by
  have records := filter_records snapshot.tables schema name parts keeps
  have compare (left right : SnapshotTable × β) :
      upToBy (keys.map fun key record => key record.2) left right =
        upToBy keys left.2 right.2 := upToBy_map keys Prod.snd left right
  have listed : (snapshot.tables.filter fun table =>
      table.schema == schema && table.name == name) = snapshot.tablesNamed schema name := rfl
  rw [selectParts, List.map_mergeSort fun left _ right _ => compare left right, records, listed]
  rcases tablesNamed_eq named schema name with none | ⟨table, -, only⟩
  · simp [none]
  · simp [only, Function.comp_def]

/-- Parts of items with distinct names, in the order of names and positions, are the parts of the
items in the order of their names. -/
theorem selectParts_sortedBy {α : Type} (named : snapshot.WellNamed) (schema name : String)
    {items : SnapshotTable → List α} {itemName : α → String} (columns : α → List β)
    (keeps : α → Bool)
    (distinct : ∀ table ∈ snapshot.tables, ((items table).map itemName).Nodup) :
    selectParts snapshot schema name (fun table => partsOf columns (items table))
        (fun part => keeps part.1)
        [fun part => .text (itemName part.1), fun part => .number part.2.2] =
      partsOf columns (SnapshotServer.sortedBy itemName
        (((snapshot.tablesNamed schema name).flatMap items).filter keeps)) := by
  rw [selectParts]
  rcases tablesNamed_eq named schema name with none | ⟨table, listed, only⟩
  · simp [none, SnapshotServer.sortedBy, partsOf]
  · rw [only, List.flatMap_singleton, List.flatMap_singleton, filter_partsOf]
    exact mergeSort_partsOf ((distinct table listed).sublist (List.filter_sublist.map itemName))

end OneTable

/-- A snapshot answers a query with the rows that the query gives on the relations. -/
def Agrees (snapshot : Snapshot) (query : CatalogQuery) (values : List Cell) : Prop :=
  ∃ rows, SnapshotServer.answer snapshot query query.sql values = .ok rows ∧
    query.select.execute snapshot.relation? values = some rows

/-- A flag that stands for 0 or 1 is read as that number. -/
theorem int64?_of_flag {flag : Cell} {unique : Bool}
    (reads : Datum.ofCell? flag = some (.number (if unique then 0 else 1))) :
    flag.int64? = some (if unique then 0 else 1) := by
  cases flag with
  | null => cases reads
  | float value => cases reads
  | text value => cases reads
  | bytes value => cases reads
  | bool value => cases value <;> cases unique <;> first | rfl | cases reads
  | int value =>
      simp only [Datum.ofCell?, Option.some.injEq, Datum.number.injEq] at reads
      have same : value = if unique then 0 else 1 := by
        apply Int64.toInt_inj.mp
        rw [reads]
        cases unique <;> rfl
      rw [Cell.int64?, same]
  | uint value =>
      simp only [Datum.ofCell?, Option.some.injEq, Datum.number.injEq] at reads
      rw [Cell.int64?, reads]
      cases unique <;> decide

section Queries

variable {snapshot : Snapshot} (schema name : String)

/-- The listing of tables is what its selection finds. -/
theorem agrees_tables (tableType : String) :
    Agrees snapshot .tables [.text schema, .text tableType] := by
  let listed := snapshot.tables.filter fun table =>
    table.schema == schema && table.tableType == tableType
  let row (name : String) : Row := SnapshotServer.textRow [(Label.tableName, name)]
  refine ⟨(SnapshotServer.sortedBy id (listed.map (·.name))).map row, rfl, ?_⟩
  have resolved : CatalogQuery.tables.select.execute snapshot.relation?
      [.text schema, .text tableType] =
        some ((listed.mergeSort (upToBy [fun table => .text table.name])).map fun table =>
          row table.name) := by
    simp [CatalogQuery.select, Select.execute, Entries.find?, Snapshot.tablesView,
    CatalogQuery.labelled, SnapshotServer.textRow, listed, row]
  have sorted : SnapshotServer.sortedBy id (listed.map (·.name)) =
      (listed.mergeSort fun left right => byBytes left.name right.name).map (·.name) := by
    refine (List.map_mergeSort ?_).symm
    intro _ _ _ _
    rfl
  rw [resolved, upToBy_text, sorted, List.map_map]
  rfl

variable (named : snapshot.WellNamed)

include named

/-- What the selection of columns finds, before it is compared with the server. -/
theorem execute_columns :
    CatalogQuery.columns.select.execute snapshot.relation? [.text schema, .text name] =
      some ((selectParts snapshot schema name (fun table => table.columns.zipIdx 1)
        (fun _ => true) [fun part => .number part.2]).map fun part =>
          SnapshotServer.columnRow part.1) := by
  rw [selectParts_eq named]
  simp [CatalogQuery.select, Select.execute, Entries.find?, Snapshot.columnsView,
    CatalogQuery.labelled, SnapshotServer.textRow, CatalogQuery.ofTable, CatalogQuery.columnItems,
    SnapshotServer.columnRow]

/-- What the selection of one column finds. -/
theorem execute_column (column : String) :
    CatalogQuery.column.select.execute snapshot.relation?
        [.text schema, .text name, .text column] =
      some ((selectParts snapshot schema name (fun table => table.columns.zipIdx 1)
        (fun part => part.1.name == column) []).map fun part =>
          SnapshotServer.columnRow part.1) := by
  rw [selectParts_eq named]
  simp [CatalogQuery.select, Select.execute, Entries.find?, Snapshot.columnsView,
    CatalogQuery.labelled, SnapshotServer.textRow, CatalogQuery.ofTable, CatalogQuery.columnItems,
    SnapshotServer.columnRow, Bool.and_assoc]

/-- What the selection of the primary key finds. -/
theorem execute_primaryKey (index : String) :
    CatalogQuery.primaryKey.select.execute snapshot.relation?
        [.text schema, .text name, .text index] =
      some ((selectParts snapshot schema name (fun table => partsOf (·.columns) table.indexes)
        (fun part => part.1.name == index) [fun part => .number part.2.2]).map fun part =>
          indexRow part.1.name part.2.1) := by
  rw [selectParts_eq named]
  simp [CatalogQuery.select, Select.execute, Entries.find?, Snapshot.statisticsView,
    CatalogQuery.labelled, SnapshotServer.textRow, CatalogQuery.ofTable, CatalogQuery.indexItems,
    indexRow, Bool.and_assoc]

/-- What the selection of unique or non-unique keys finds. -/
theorem execute_indexKeys (unique : Bool) {flag : Cell}
    (reads : Datum.ofCell? flag = some (.number (if unique then 0 else 1))) :
    CatalogQuery.indexKeys.select.execute snapshot.relation? [.text schema, .text name, flag] =
      some ((selectParts snapshot schema name (fun table => partsOf (·.columns) table.indexes)
        (fun part => part.1.unique == unique)
        [fun part => .text part.1.name, fun part => .number part.2.2]).map fun part =>
          indexRow part.1.name part.2.1) := by
  have flags (index : SnapshotIndex) :
      ((if index.unique then 0 else 1 : Int) == if unique then 0 else 1) =
        (index.unique == unique) := by
    cases index.unique <;> cases unique <;> rfl
  rw [selectParts_eq named]
  simp [CatalogQuery.select, Select.execute, Entries.find?, Snapshot.statisticsView,
    CatalogQuery.labelled, SnapshotServer.textRow, CatalogQuery.ofTable, CatalogQuery.indexItems,
    indexRow, Bool.and_assoc, reads, flags]

/-- What the selection of foreign keys finds. -/
theorem execute_foreignKeys :
    CatalogQuery.foreignKeys.select.execute snapshot.relation? [.text schema, .text name] =
      some ((selectParts snapshot schema name (fun table => partsOf (·.columns) table.foreignKeys)
        (fun _ => true)
        [fun part => .text part.1.name, fun part => .number part.2.2]).map fun part =>
          foreignRow part.1.name part.2.1) := by
  rw [selectParts_eq named]
  simp [CatalogQuery.select, Select.execute, Entries.find?, Snapshot.keyColumnUsageView,
    CatalogQuery.labelled, SnapshotServer.textRow, CatalogQuery.ofTable, CatalogQuery.foreignItems,
    foreignRow]

/-- Columns of a table are reported in the order of their positions. -/
theorem agrees_columns : Agrees snapshot .columns [.text schema, .text name] := by
  refine ⟨((snapshot.tablesNamed schema name).flatMap (·.columns)).map SnapshotServer.columnRow,
    rfl, ?_⟩
  rw [execute_columns schema name named, selectParts, List.map_flatMap, List.map_flatMap]
  refine congrArg some (List.flatMap_congr fun table _ => ?_)
  have sorted : (table.columns.zipIdx 1).mergeSort (upToBy [fun part => .number part.2]) =
      table.columns.zipIdx 1 :=
    List.mergeSort_of_pairwise ((pairwise_zipIdx table.columns 1).imp fun {left right} before => by
      simp [upToBy, Datum.upTo]
      omega)
  rw [List.filter_true, sorted, map_fst_zipIdx]

/-- The look-up of one column is what its selection finds. -/
theorem agrees_column (column : String) :
    Agrees snapshot .column [.text schema, .text name, .text column] := by
  refine ⟨(((snapshot.tablesNamed schema name).flatMap (·.columns)).filter
    (·.name == column)).map SnapshotServer.columnRow, rfl, ?_⟩
  rw [execute_column schema name named, selectParts, List.map_flatMap, List.filter_flatMap,
    List.map_flatMap]
  refine congrArg some (List.flatMap_congr fun table _ => ?_)
  have unsorted (parts : List (SnapshotColumn × Nat)) : parts.mergeSort (upToBy []) = parts :=
    List.mergeSort_of_pairwise (List.pairwise_of_forall fun _ _ => rfl)
  rw [unsorted, ← map_fst_filter_zipIdx table.columns 1, List.map_map]
  rfl

/-- The primary key is what its selection finds. -/
theorem agrees_primaryKey (index : String) :
    Agrees snapshot .primaryKey [.text schema, .text name, .text index] := by
  refine ⟨(((snapshot.tablesNamed schema name).flatMap (·.indexes)).filter
    (·.name == index)).flatMap SnapshotServer.indexRows, rfl, ?_⟩
  rw [execute_primaryKey schema name named, selectParts, List.map_flatMap, List.filter_flatMap,
    List.flatMap_assoc]
  refine congrArg some (List.flatMap_congr fun table listed => ?_)
  have inTables : table ∈ snapshot.tables := List.mem_of_mem_filter listed
  have sorted : ((partsOf (·.columns) table.indexes).filter fun part =>
      part.1.name == index).mergeSort (upToBy [fun part => .number part.2.2]) =
        partsOf (·.columns) (table.indexes.filter (·.name == index)) := by
    rw [filter_partsOf (·.columns) table.indexes (·.name == index)]
    have one : table.indexes.filter (·.name == index) = [] ∨
        ∃ item ∈ table.indexes, table.indexes.filter (·.name == index) = [item] :=
      Entries.filter_of_distinct (named.indexes table inTables) fun item keep => eq_of_beq keep
    rcases one with none | ⟨item, -, only⟩
    · rw [none]
      exact List.mergeSort_nil
    · rw [only]
      refine List.mergeSort_of_pairwise ((pairwise_partsOf_singleton _ item).imp
        fun {left right} before => ?_)
      simp [upToBy, Datum.upTo]
      omega
  rw [sorted]
  exact map_partsOf fun (index : SnapshotIndex) => indexRow index.name

/-- Unique and non-unique keys are what their selection finds. -/
theorem agrees_indexKeys (unique : Bool) {flag : Cell}
    (reads : Datum.ofCell? flag = some (.number (if unique then 0 else 1))) :
    Agrees snapshot .indexKeys [.text schema, .text name, flag] := by
  refine ⟨(SnapshotServer.sortedBy (·.name) (((snapshot.tablesNamed schema name).flatMap
    (·.indexes)).filter (·.unique == unique))).flatMap SnapshotServer.indexRows, ?_, ?_⟩
  · rw [← selects_flag]
    simp [SnapshotServer.answer, SnapshotServer.textValue, SnapshotServer.integerValue, bind,
      Except.bind, Cell.text?, int64?_of_flag reads]
  · rw [execute_indexKeys schema name named unique reads,
      selectParts_sortedBy named schema name (fun index => index.columns)
        (fun index => index.unique == unique) named.indexes]
    exact congrArg some (map_partsOf fun (index : SnapshotIndex) => indexRow index.name)

/-- Foreign keys are what their selection finds. -/
theorem agrees_foreignKeys : Agrees snapshot .foreignKeys [.text schema, .text name] := by
  refine ⟨(SnapshotServer.sortedBy (·.name)
    ((snapshot.tablesNamed schema name).flatMap (·.foreignKeys))).flatMap
      SnapshotServer.foreignRows, rfl, ?_⟩
  rw [execute_foreignKeys schema name named,
    selectParts_sortedBy named schema name (fun key => key.columns) (fun _ => true)
      named.foreignKeys, List.filter_true]
  exact congrArg some (map_partsOf fun (key : SnapshotForeignKey) => foreignRow key.name)

end Queries

/-- **A snapshot answers as the relations do.** Every catalog query with values of its kinds is
answered with the rows that the query gives on the relations, in the same order. -/
theorem query_executes {snapshot : Snapshot} (named : snapshot.WellNamed) {query : CatalogQuery}
    {values : List Cell} (binds : query.Binds values) (served : List CatalogQuery) :
    ∃ rows,
      (SnapshotServer.connection { snapshot }).query query.sql values served =
        .ok rows (served ++ [query]) ∧
      query.select.execute snapshot.relation? values = some rows := by
  have agrees : Agrees snapshot query values := by
    cases binds with
    | tables schema tableType => exact agrees_tables schema tableType
    | columns schema table => exact agrees_columns schema table named
    | column schema table column => exact agrees_column schema table named column
    | primaryKey schema table index => exact agrees_primaryKey schema table named index
    | indexKeys schema table unique reads =>
        exact agrees_indexKeys schema table named unique reads
    | foreignKeys schema table => exact agrees_foreignKeys schema table named
  obtain ⟨rows, answered, executed⟩ := agrees
  exact ⟨rows, query_sql served answered, executed⟩

/-- Loans of a library, with indexes that are not in the order of their names. -/
def library : Snapshot :=
  { tables :=
      [ { schema := "library"
          name := "loans"
          columns :=
            [ { name := "book", dataType := "int", key := "PRI" },
              { name := "reader", dataType := "int", key := "PRI" } ]
          indexes :=
            [ { name := "uniq_reader", unique := true, columns := ["reader"] },
              { name := "PRIMARY", unique := true, columns := ["reader", "book"] } ]
          foreignKeys := [{ name := "fk_book", columns := [⟨"book", "library", "books", "id"⟩] }] },
        { schema := "library"
          name := "books"
          columns := [{ name := "id", dataType := "int", key := "PRI" }] } ] }

theorem query_executes_library :
    library.WellNamed ∧
      CatalogQuery.indexKeys.Binds [.text "library", .text "loans", .int 0] ∧
      ∃ rows,
        (SnapshotServer.connection { snapshot := library }).query CatalogQuery.indexKeys.sql
            [.text "library", .text "loans", .int 0] [] =
          .ok rows ([] ++ [.indexKeys]) ∧
        CatalogQuery.indexKeys.select.execute library.relation?
            [.text "library", .text "loans", .int 0] = some rows := by
  have named : library.WellNamed := ⟨by decide, by decide, by decide⟩
  have binds : CatalogQuery.indexKeys.Binds [.text "library", .text "loans", .int 0] :=
    .indexKeys "library" "loans" true rfl
  exact ⟨named, binds, query_executes named binds []⟩

end DataAccess.Catalog
