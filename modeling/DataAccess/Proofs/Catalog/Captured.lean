import DataAccess.Proofs.Catalog.Populated

/-!
# Captured snapshots

A capture lists the base tables of a schema, populates each of them and puts what was loaded back
into catalog form (`capture_gives`). Positions become names again, the primary key becomes an index,
and a column is flagged as primary or not at all. Whoever introspects the captured snapshot finds
the same tables in the same order, with the same columns and the same keys over them
(`capture_replays`).
-/

namespace DataAccess.Catalog

open Database Schema Text

section Gives

variable {α β : Type} {step : Introspect (List CatalogQuery) α} {value : α}

/-- The step succeeds with the value, whatever has been served before. -/
def Gives (step : Introspect (List CatalogQuery) α) (value : α) : Prop :=
  ∀ served, ∃ after, step served = .ok value after

theorem gives_pure (value : α) : Gives (pure value) value := fun served => ⟨served, rfl⟩

/-- Steps that give their values one after the other give the last one. -/
theorem Gives.bind {next : α → Introspect (List CatalogQuery) β} {result : β}
    (now : Gives step value) (later : Gives (next value) result) :
    Gives (step >>= next) result := by
  intro served
  obtain ⟨between, now⟩ := now served
  obtain ⟨after, later⟩ := later between
  exact ⟨after, (bind_of_ok now).trans later⟩

end Gives

/-- The table as a listing gives it, with nothing loaded. -/
def SnapshotTable.bare (source : SnapshotTable) : Table :=
  { schema := source.schema, name := source.name }

namespace Snapshot

variable (snapshot : Snapshot) (schema : String)

/-- The base tables of a schema in the byte order of their names. -/
def listed : List SnapshotTable :=
  SnapshotServer.sortedBy (·.name)
    (snapshot.tables.filter fun table => table.schema == schema && table.tableType == baseTable)

variable {snapshot schema}

/-- The tables that are listed are the base tables of the schema. -/
theorem mem_listed {source : SnapshotTable} :
    source ∈ snapshot.listed schema ↔
      source ∈ snapshot.tables ∧ source.schema = schema ∧ source.tableType = baseTable := by
  rw [listed, (SnapshotServer.perm_sortedBy _ _).mem_iff]
  simp

/-- No two tables share schema and name. -/
def DistinctTables (snapshot : Snapshot) : Prop :=
  (snapshot.tables.map fun table => (table.schema, table.name)).Nodup

instance (snapshot : Snapshot) : Decidable snapshot.DistinctTables :=
  inferInstanceAs (Decidable (List.Nodup _))

/-- Where tables are told apart by their names, a table is the only one of its name. -/
theorem DistinctTables.tablesNamed (distinct : snapshot.DistinctTables) {source : SnapshotTable}
    (member : source ∈ snapshot.tables) :
    snapshot.tablesNamed source.schema source.name = [source] := by
  have here : source ∈ snapshot.tablesNamed source.schema source.name :=
    List.mem_filter.mpr ⟨member, by simp⟩
  have one : snapshot.tablesNamed source.schema source.name = [] ∨
      ∃ other ∈ snapshot.tables, snapshot.tablesNamed source.schema source.name = [other] :=
    @Entries.filter_of_distinct SnapshotTable (String × String)
      (fun table => (table.schema, table.name)) snapshot.tables distinct _
      (source.schema, source.name) fun table keep => by simpa using keep
  rcases one with none | ⟨other, -, only⟩
  · rw [none] at here
    cases here
  · rw [only] at here ⊢
    rw [List.mem_singleton.mp here]

end Snapshot

section Runs

variable {snapshot : Snapshot} (schema : String)

/-- The listing of a schema gives its base tables, not yet loaded. -/
theorem listTables_gives :
    Gives (listTables (SnapshotServer.connection { snapshot }) schema)
      ((snapshot.listed schema).map SnapshotTable.bare) := by
  intro served
  have sorted : SnapshotServer.sortedBy id ((snapshot.tables.filter fun table =>
      table.schema == schema && table.tableType == baseTable).map (·.name)) =
        (snapshot.listed schema).map (·.name) := by
    refine (List.map_mergeSort ?_).symm
    intro _ _ _ _
    rfl
  have answered : SnapshotServer.answer snapshot .tables CatalogQuery.tables.sql
      [.text schema, .text baseTable] =
        .ok ((snapshot.listed schema).map fun table =>
          SnapshotServer.textRow [(Label.tableName, table.name)]) := by
    simp [SnapshotServer.answer, SnapshotServer.textValue, bind, Except.bind, Cell.text?, sorted]
  have each (source : SnapshotTable) :
      (SnapshotServer.textRow [(Label.tableName, source.name)]).text Label.tableName =
        .ok source.name :=
    text_textRow (by decide : Distinct [Label.tableName]) (by simp)
  have bare : ((snapshot.listed schema).map (·.name)).map
      (fun name => ({ schema, name } : Table)) = (snapshot.listed schema).map (·.bare) := by
    rw [List.map_map]
    refine List.map_congr_left fun source member => ?_
    rw [SnapshotTable.bare, (Snapshot.mem_listed.mp member).2.1]
    rfl
  refine ⟨served ++ [.tables], ?_⟩
  rw [← bare]
  exact ask_decoded _ answered (mapM_map_eq_ok each _) served

/-- A table that is the only one of its name is loaded as itself. -/
theorem populated_gives {source : SnapshotTable}
    (only : snapshot.tablesNamed source.schema source.name = [source]) :
    Gives (populated (SnapshotServer.connection { snapshot }) source.bare)
      (source.populated snapshot) := by
  intro served
  refine ⟨served ++ source.queries, ?_⟩
  rw [populated, SnapshotTable.bare, populate_eq only]

/-- Tables that are the only ones of their names are loaded as themselves, in order. -/
theorem populateAll_gives {sources : List SnapshotTable}
    (single : ∀ source ∈ sources, snapshot.tablesNamed source.schema source.name = [source]) :
    Gives (populateAll (SnapshotServer.connection { snapshot }) (sources.map (·.bare)))
      (sources.map (·.populated snapshot)) := by
  induction sources with
  | nil => exact gives_pure []
  | cons source sources ih =>
      have first := populated_gives (single source List.mem_cons_self)
      have others := ih fun other member => single other (List.mem_cons_of_mem _ member)
      exact first.bind (others.bind (gives_pure _))

/-- The table that a capture records for a table. -/
def SnapshotTable.captured (snapshot : Snapshot) (source : SnapshotTable) : SnapshotTable :=
  ofTable (source.populated snapshot)

/-- The base tables of a schema as a capture records them. -/
def Snapshot.captured (snapshot : Snapshot) : Snapshot :=
  { tables := (snapshot.listed schema).map (·.captured snapshot) }

/-- Capturing a schema gives its base tables as they are loaded. -/
theorem capture_gives (distinct : snapshot.DistinctTables) :
    Gives (capture (SnapshotServer.connection { snapshot }) schema)
      (snapshot.captured schema) := by
  have single (source : SnapshotTable) (member : source ∈ snapshot.listed schema) :
      snapshot.tablesNamed source.schema source.name = [source] :=
    distinct.tablesNamed (Snapshot.mem_listed.mp member).1
  have recorded : Snapshot.ofTables ((snapshot.listed schema).map (·.populated snapshot)) =
      snapshot.captured schema := by
    rw [Snapshot.ofTables, List.map_map]
    rfl
  rw [← recorded]
  exact (listTables_gives schema).bind ((populateAll_gives single).bind (gives_pure _))

/-- A captured snapshot lists what was captured, in the same order. -/
theorem listed_captured :
    (snapshot.captured schema).listed schema = (snapshot.captured schema).tables := by
  have kept : (snapshot.captured schema).tables.filter (fun table =>
      table.schema == schema && table.tableType == baseTable) =
        (snapshot.captured schema).tables := by
    refine List.filter_eq_self.mpr fun table member => ?_
    obtain ⟨source, listed, rfl⟩ := List.mem_map.mp member
    have inSchema : (source.captured snapshot).schema = schema :=
      (Snapshot.mem_listed.mp listed).2.1
    have base : (source.captured snapshot).tableType = baseTable := rfl
    rw [inSchema, base, beq_self_eq_true, beq_self_eq_true, Bool.and_true]
  have sorted := SnapshotServer.pairwise_sortedBy (·.name) (snapshot.tables.filter fun table =>
    table.schema == schema && table.tableType == baseTable)
  rw [Snapshot.listed, kept]
  exact List.mergeSort_of_pairwise (List.pairwise_map.mpr sorted)

/-- What is captured tells tables apart by their names as well. -/
theorem Snapshot.DistinctTables.captured (distinct : snapshot.DistinctTables) :
    (snapshot.captured schema).DistinctTables := by
  have keys : (snapshot.captured schema).tables.map (fun table => (table.schema, table.name)) =
      (snapshot.listed schema).map fun table => (table.schema, table.name) := by
    rw [Snapshot.captured, List.map_map]
    rfl
  rw [Snapshot.DistinctTables, keys, Snapshot.listed,
    ((SnapshotServer.perm_sortedBy _ _).map _).nodup_iff]
  exact distinct.sublist (List.filter_sublist.map _)

/-- A table of a captured snapshot is populated with what was captured of it. -/
theorem populated_captured_gives {source : SnapshotTable} (distinct : snapshot.DistinctTables)
    (listed : source ∈ snapshot.listed schema) :
    Gives (populated (SnapshotServer.connection { snapshot := snapshot.captured schema })
        source.bare)
      ((source.captured snapshot).populated (snapshot.captured schema)) := by
  have inCapture : source.captured snapshot ∈ (snapshot.captured schema).tables :=
    List.mem_map.mpr ⟨source, listed, rfl⟩
  exact populated_gives ((distinct.captured schema).tablesNamed inCapture)

end Runs

/-- What is reported of a column is recorded so that the same is reported again. -/
theorem SnapshotColumn.reported_ofColumn (column : SnapshotColumn) :
    (ofColumn column.reported).reported = column.reported := by
  have type : (ofColumn column.reported).effectiveType = column.effectiveType := by
    simp only [effectiveType, ofColumn, reported]
    split <;> simp_all
  have flag (primary : Bool) : occursIn "PRI".toList
      (upperAscii (if primary then "PRI" else "")).toList = primary := by
    cases primary <;> decide
  have primary : occursIn "PRI".toList (upperAscii (ofColumn column.reported).key).toList =
      column.reported.isPrimary := flag column.reported.isPrimary
  rw [reported, type, primary]
  rfl

namespace SnapshotTable

variable (snapshot : Snapshot) (source : SnapshotTable)

/-- A captured table reports the same columns. -/
theorem reported_captured :
    (source.captured snapshot).columns.map SnapshotColumn.reported =
      source.columns.map SnapshotColumn.reported := by
  have columns : (source.captured snapshot).columns =
      (source.columns.map SnapshotColumn.reported).map SnapshotColumn.ofColumn := rfl
  rw [columns, List.map_map, List.map_map]
  exact List.map_congr_left fun column _ => column.reported_ofColumn

/-- Names are resolved by the columns that are reported. -/
theorem position?_eq (name : String) :
    source.position? name =
      (source.columns.map SnapshotColumn.reported).findIdx? (·.name == name) := by
  rw [List.findIdx?_map]
  rfl

/-- A captured table finds its columns at the same positions. -/
theorem position?_captured : (source.captured snapshot).position? = source.position? := by
  funext name
  rw [position?_eq, position?_eq, reported_captured]

/-- Indexes cover the same positions of a captured table. -/
theorem positionsOf_captured : (source.captured snapshot).positionsOf = source.positionsOf := by
  funext indexes
  rw [positionsOf, positionsOf, position?_captured]

/-- Which columns are flagged as primary can be read off the reported columns. -/
theorem flaggedPositions_eq :
    source.flaggedPositions =
      ((source.columns.map SnapshotColumn.reported).filter (·.isPrimary)).filterMap fun column =>
        source.position? column.name := by
  rw [flaggedPositions, List.filter_map, List.filterMap_map]
  rfl

/-- A captured table flags the same columns as primary. -/
theorem flaggedPositions_captured :
    (source.captured snapshot).flaggedPositions = source.flaggedPositions := by
  rw [flaggedPositions_eq, flaggedPositions_eq, reported_captured, position?_captured]

variable {source}

/-- The position of the first column with some name. -/
def IsFirst (source : SnapshotTable) (ref : ColumnRef) : Prop :=
  ∃ name, source.position? name = some ref

/-- Indexes cover first positions of names. -/
theorem isFirst_of_mem_positionsOf {indexes : List SnapshotIndex} {ref : ColumnRef}
    (member : ref ∈ source.positionsOf indexes) : source.IsFirst ref := by
  obtain ⟨index, -, inIndex⟩ := List.mem_flatMap.mp member
  obtain ⟨name, -, found⟩ := List.mem_filterMap.mp inIndex
  exact ⟨name, found⟩

/-- A primary key is at first positions of names. -/
theorem isFirst_of_mem_primaryPositions {ref : ColumnRef}
    (member : ref ∈ source.primaryPositions) : source.IsFirst ref := by
  rw [primaryPositions] at member
  split at member
  · obtain ⟨column, -, found⟩ := List.mem_filterMap.mp member
    exact ⟨column.name, found⟩
  · exact isFirst_of_mem_positionsOf member

/-- Positions of first columns are recorded by names that are resolved to them again. -/
theorem filterMap_columnNames {refs : List ColumnRef} (first : ∀ ref ∈ refs, source.IsFirst ref) :
    (columnNames (source.populated snapshot) refs).filterMap source.position? = refs := by
  induction refs with
  | nil => rfl
  | cons ref refs ih =>
      obtain ⟨name, found⟩ := first ref List.mem_cons_self
      obtain ⟨bound, named, -⟩ := List.findIdx?_eq_some_iff_getElem.mp found
      have column : (source.populated snapshot).column? ref =
          some (source.columns[ref].reported) := by
        simp [Table.column?, populated, bound]
      have recorded : columnNames (source.populated snapshot) (ref :: refs) =
          name :: columnNames (source.populated snapshot) refs := by
        rw [columnNames, Table.columnsOf, List.filterMap_cons_some column, List.map_cons]
        exact congrArg (· :: _) (eq_of_beq named)
      rw [recorded, List.filterMap_cons_some found,
        ih fun other member => first other (List.mem_cons_of_mem _ member)]

end SnapshotTable

/-- The group of a name is what is tabulated under it. -/
theorem Tabulates.flatMap_filter {β : Type} {groups : Entries (List β)}
    {members : String → List β} (tabulates : Tabulates groups members) (name : String) :
    (groups.filter fun group => group.1 = name).flatMap Prod.snd = members name := by
  have distinct : (groups.map Prod.fst).Nodup := tabulates.increasing.imp fun before => before.2
  have one : groups.filter (fun group => group.1 = name) = [] ∨
      ∃ group ∈ groups, groups.filter (fun group => group.1 = name) = [group] :=
    Entries.filter_of_distinct distinct fun group keep => of_decide_eq_true keep
  rcases one with none | ⟨⟨other, found⟩, member, only⟩
  · rw [none]
    by_contra filled
    have group := (tabulates.exact name (members name)).mpr ⟨Ne.symm filled, rfl⟩
    have listed : (name, members name) ∈ groups.filter fun group => group.1 = name :=
      List.mem_filter.mpr ⟨group, decide_eq_true rfl⟩
    rw [none] at listed
    cases listed
  · have named : other = name := by
      have kept : (other, found) ∈ groups.filter fun group => group.1 = name :=
        only ▸ List.mem_singleton_self _
      exact of_decide_eq_true (List.mem_filter.mp kept).2
    rw [only, List.flatMap_singleton, ← named]
    exact ((tabulates.exact other found).mp member).2

namespace SnapshotTable

section Groups

variable (snapshot : Snapshot) {source : SnapshotTable} {groups : KeyGroups}
  {members : String → List ColumnRef}

/-- Groups of positions are recorded as indexes that lead to the same positions. -/
theorem positionsOf_indexesOf (tabulates : Tabulates groups members)
    (first : ∀ name, ∀ ref ∈ members name, source.IsFirst ref) (unique : Bool) (name : String) :
    source.positionsOf ((indexesOf (source.populated snapshot) unique groups).filter
      fun index => index.name = name) = members name := by
  rw [← tabulates.flatMap_filter name, positionsOf, indexesOf, List.filter_map, List.flatMap_map]
  refine List.flatMap_congr fun group member => ?_
  obtain ⟨-, exact⟩ := (tabulates.exact group.1 group.2).mp (List.mem_of_mem_filter member)
  exact filterMap_columnNames snapshot (exact ▸ first group.1)

/-- The indexes of one kind of key are all unique, or none of them is. -/
theorem filter_unique_indexesOf (table : Table) (unique flag : Bool) :
    (indexesOf table unique groups).filter (·.unique == flag) =
      if unique = flag then indexesOf table unique groups else [] := by
  have kept : (indexesOf table unique groups).filter (·.unique == flag) =
      (groups.filter fun _ => unique == flag).map fun group =>
        { name := group.1, unique, columns := columnNames table group.2 } := by
    rw [indexesOf, List.filter_map]
    rfl
  rw [kept, indexesOf]
  by_cases agree : unique = flag <;> simp [agree]

/-- No index has a name that no key has. -/
theorem filter_name_indexesOf (table : Table) (unique : Bool) {name : String}
    (absent : name ∉ Entries.names groups) :
    (indexesOf table unique groups).filter (fun index => index.name = name) = [] := by
  refine List.filter_eq_nil_iff.mpr fun index member same => ?_
  obtain ⟨group, inGroups, rfl⟩ := List.mem_map.mp member
  exact absent (List.mem_map.mpr ⟨group, inGroups, of_decide_eq_true same⟩)

end Groups

variable (snapshot : Snapshot) (source : SnapshotTable)

/-- The indexes that a capture records for the primary key: one, or none where there is no key. -/
def primaryIndexes : List SnapshotIndex :=
  if (source.populated snapshot).hasPrimaryKey then
    [{ name := primaryIndex, unique := true
       columns := columnNames (source.populated snapshot) source.primaryPositions }]
  else []

/-- The indexes of a captured table: one for its primary key, then its unique keys, then the others.
-/
theorem indexes_captured :
    (source.captured snapshot).indexes =
      source.primaryIndexes snapshot ++
        indexesOf (source.populated snapshot) true (source.populated snapshot).uniqueKeys ++
        indexesOf (source.populated snapshot) false (source.populated snapshot).nonUniqueKeys :=
  rfl

/-- The index of a captured primary key covers the key. -/
theorem positionsOf_primaryIndexes :
    source.positionsOf (source.primaryIndexes snapshot) = source.primaryPositions := by
  rw [primaryIndexes]
  split
  · rw [positionsOf, List.flatMap_singleton]
    exact filterMap_columnNames snapshot fun _ => isFirst_of_mem_primaryPositions
  · rename_i none
    have empty : source.primaryPositions = [] := by
      simpa [Table.hasPrimaryKey, populated] using none
    rw [empty]
    rfl

/-- A test on indexes passes the index of the primary key, or it does not, whatever its columns. -/
theorem filter_primaryIndexes (keeps : SnapshotIndex → Bool) {kept : Bool}
    (same : ∀ columns, keeps { name := primaryIndex, unique := true, columns } = kept) :
    (source.primaryIndexes snapshot).filter keeps =
      if kept then source.primaryIndexes snapshot else [] := by
  rw [primaryIndexes]
  cases kept <;> split <;> simp [same]

/-- The unique indexes of a captured table are its primary key and its unique keys. -/
theorem uniqueIndexes_captured :
    (source.captured snapshot).indexes.filter (·.unique == true) =
      source.primaryIndexes snapshot ++
        indexesOf (source.populated snapshot) true (source.populated snapshot).uniqueKeys := by
  rw [indexes_captured, List.filter_append, List.filter_append, filter_unique_indexesOf,
    filter_unique_indexesOf, source.filter_primaryIndexes snapshot _ fun _ => beq_self_eq_true true,
    if_pos rfl, if_pos rfl, if_neg Bool.false_ne_true, List.append_nil]

/-- The other indexes of a captured table are its non-unique keys. -/
theorem nonUniqueIndexes_captured :
    (source.captured snapshot).indexes.filter (·.unique == false) =
      indexesOf (source.populated snapshot) false (source.populated snapshot).nonUniqueKeys := by
  rw [indexes_captured, List.filter_append, List.filter_append, filter_unique_indexesOf,
    filter_unique_indexesOf, source.filter_primaryIndexes snapshot _ fun _ => (rfl : _ = false),
    if_neg Bool.false_ne_true, if_neg (Ne.symm Bool.false_ne_true), if_pos rfl]
  rfl

/-- A captured table has the same unique keys. -/
theorem uniqueKeys_captured (replay : Snapshot) :
    ((source.captured snapshot).populated replay).uniqueKeys =
      (source.populated snapshot).uniqueKeys := by
  have here := ((source.captured snapshot).tabulates_indexGroups true).erase primaryIndex
  have there := (source.tabulates_indexGroups true).erase primaryIndex
  refine here.eq_of_members there fun name => ?_
  by_cases primary : name = primaryIndex
  · rw [if_pos primary, if_pos primary]
  · have first (other : String) (ref : ColumnRef) (member : ref ∈ if other = primaryIndex then []
        else source.positionsOf ((source.indexesNamed other).filter (·.unique == true))) :
        source.IsFirst ref := by
      by_cases erased : other = primaryIndex
      · rw [if_pos erased] at member
        cases member
      · rw [if_neg erased] at member
        exact isFirst_of_mem_positionsOf member
    have read := positionsOf_indexesOf snapshot there first true name
    rw [if_neg primary] at read
    rw [if_neg primary, if_neg primary, ← read, positionsOf_captured, indexesNamed,
      List.filter_comm, uniqueIndexes_captured, List.filter_append,
      source.filter_primaryIndexes snapshot _ fun _ => decide_eq_false (Ne.symm primary)]
    rfl

/-- A captured table has the same non-unique keys. -/
theorem nonUniqueKeys_captured (replay : Snapshot) :
    ((source.captured snapshot).populated replay).nonUniqueKeys =
      (source.populated snapshot).nonUniqueKeys := by
  have here := (source.captured snapshot).tabulates_indexGroups false
  have there := source.tabulates_indexGroups false
  refine here.eq_of_members there fun name => ?_
  have read :=
    positionsOf_indexesOf snapshot there (fun _ _ => isFirst_of_mem_positionsOf) false name
  rw [← read, positionsOf_captured, indexesNamed, List.filter_comm, nonUniqueIndexes_captured]
  rfl

/-- Where every index with the name of the primary key is unique, the captured table has no other
index of that name than the one of the primary key. -/
theorem indexesNamed_primaryIndex_captured
    (primary : ∀ index ∈ source.indexes, index.name = primaryIndex → index.unique = true) :
    (source.captured snapshot).indexesNamed primaryIndex = source.primaryIndexes snapshot := by
  have notUnique : primaryIndex ∉ Entries.names (source.populated snapshot).uniqueKeys := by
    intro named
    have filled := (((source.tabulates_indexGroups true).erase primaryIndex).mem_names_iff
      primaryIndex).mp named
    exact filled (if_pos rfl)
  have notNonUnique : primaryIndex ∉ Entries.names (source.populated snapshot).nonUniqueKeys := by
    intro named
    have filled := ((source.tabulates_indexGroups false).mem_names_iff primaryIndex).mp named
    have none : (source.indexesNamed primaryIndex).filter (·.unique == false) = [] := by
      refine List.filter_eq_nil_iff.mpr fun index member notUnique => ?_
      obtain ⟨listed, same⟩ := List.mem_filter.mp member
      rw [primary index listed (of_decide_eq_true same)] at notUnique
      cases notUnique
    rw [none] at filled
    exact filled rfl
  rw [indexesNamed, indexes_captured, List.filter_append, List.filter_append,
    filter_name_indexesOf _ _ notUnique, filter_name_indexesOf _ _ notNonUnique,
    source.filter_primaryIndexes snapshot _ fun _ => decide_eq_true rfl, List.append_nil,
    List.append_nil]
  rfl

/-- A captured table has the same primary key, unless an index that is not unique has its name. -/
theorem primaryPositions_captured
    (primary : ∀ index ∈ source.indexes, index.name = primaryIndex → index.unique = true) :
    (source.captured snapshot).primaryPositions = source.primaryPositions := by
  have positions : (source.captured snapshot).positionsOf
      ((source.captured snapshot).indexesNamed primaryIndex) = source.primaryPositions := by
    rw [indexesNamed_primaryIndex_captured snapshot source primary, positionsOf_captured,
      positionsOf_primaryIndexes]
  rw [primaryPositions, positions, flaggedPositions_captured]
  split
  · rename_i none
    -- Without a primary key no column is flagged either, or the flagged ones would be the key.
    have empty := List.isEmpty_iff.mp none
    rw [empty]
    rw [primaryPositions] at empty
    split at empty
    · exact empty
    · rename_i filled
      exact absurd (List.isEmpty_iff.mpr empty) filled
  · rfl

end SnapshotTable

/-- The tables have the same columns and the same keys over them, foreign keys left aside. -/
structure SameKeys (left right : Table) : Prop where
  columns : left.columns = right.columns
  primaryKey : left.primaryKey = right.primaryKey
  uniqueKeys : left.uniqueKeys = right.uniqueKeys
  nonUniqueKeys : left.nonUniqueKeys = right.nonUniqueKeys

/-- **A captured snapshot replays the tables and their keys.** Introspecting the capture of a schema
lists the same tables in the same order as introspecting the schema itself, and each of them is
populated with the same columns, primary key and groups of keys, in the same order. -/
theorem capture_replays {snapshot : Snapshot} (schema : String)
    (distinct : snapshot.DistinctTables)
    (primary : ∀ table ∈ snapshot.tables, ∀ index ∈ table.indexes,
      index.name = primaryIndex → index.unique = true) :
    ∃ replay : Snapshot,
      Gives (capture (SnapshotServer.connection { snapshot }) schema) replay ∧
      ∃ tables : List Table,
        Gives (listTables (SnapshotServer.connection { snapshot }) schema) tables ∧
        Gives (listTables (SnapshotServer.connection { snapshot := replay }) schema) tables ∧
        ∀ table ∈ tables, ∃ loaded replayed : Table,
          Gives (populated (SnapshotServer.connection { snapshot }) table) loaded ∧
          Gives (populated (SnapshotServer.connection { snapshot := replay }) table) replayed ∧
          SameKeys replayed loaded := by
  refine ⟨snapshot.captured schema, capture_gives schema distinct,
    (snapshot.listed schema).map SnapshotTable.bare, listTables_gives schema, ?_, ?_⟩
  · have listing := @listTables_gives (snapshot.captured schema) schema
    rw [listed_captured, Snapshot.captured, List.map_map] at listing
    exact listing
  · intro table member
    obtain ⟨source, listed, rfl⟩ := List.mem_map.mp member
    have inSnapshot := (Snapshot.mem_listed.mp listed).1
    refine ⟨source.populated snapshot,
      (source.captured snapshot).populated (snapshot.captured schema),
      populated_gives (distinct.tablesNamed inSnapshot),
      populated_captured_gives schema distinct listed, ?_⟩
    exact
      { columns := source.reported_captured snapshot
        primaryKey := source.primaryPositions_captured snapshot (primary source inSnapshot)
        uniqueKeys := source.uniqueKeys_captured snapshot _
        nonUniqueKeys := source.nonUniqueKeys_captured snapshot _ }

theorem capture_replays_shop :
    shop.DistinctTables ∧
      (∀ table ∈ shop.tables, ∀ index ∈ table.indexes,
        index.name = primaryIndex → index.unique = true) ∧
      ∃ replay : Snapshot,
        Gives (capture (SnapshotServer.connection { snapshot := shop }) "shop") replay ∧
        ∃ tables : List Table,
          Gives (listTables (SnapshotServer.connection { snapshot := shop }) "shop") tables ∧
          Gives (listTables (SnapshotServer.connection { snapshot := replay }) "shop") tables ∧
          ∀ table ∈ tables, ∃ loaded replayed : Table,
            Gives (populated (SnapshotServer.connection { snapshot := shop }) table) loaded ∧
            Gives (populated (SnapshotServer.connection { snapshot := replay }) table) replayed ∧
            SameKeys replayed loaded := by
  have distinct : shop.DistinctTables := by decide
  have primary : ∀ table ∈ shop.tables, ∀ index ∈ table.indexes,
      index.name = primaryIndex → index.unique = true := by decide
  exact ⟨distinct, primary, capture_replays "shop" distinct primary⟩

end DataAccess.Catalog
