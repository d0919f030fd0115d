import DataAccess.Proofs.Catalog.Requests
import DataAccess.Proofs.Catalog.Sorting
import DataAccess.Proofs.Entries.Groups

/-!
# Tables populated from a snapshot

Populating a table from a snapshot that has exactly one table of its name reads that table and
nothing else (`populate_reads`). Groups of a key are merged by name and stand in the byte order of
their names. Names of columns that the table does not have are dropped, and so are groups and
references of which nothing remains.
-/

namespace DataAccess.Catalog

open Database Schema Text

/-- The groups are the members of each name that has any, in the byte order of the names. -/
structure Tabulates {β : Type} (groups : Entries (List β)) (members : String → List β) : Prop where
  increasing : (Entries.names groups).Pairwise Precedes
  exact : ∀ name found, (name, found) ∈ groups ↔ found ≠ [] ∧ found = members name

section Tabulates

variable {α β : Type} {groups : Entries (List β)} {members : String → List β}

/-- A group is there if and only if it has members. -/
theorem Tabulates.mem_names_iff (tabulates : Tabulates groups members) (name : String) :
    name ∈ Entries.names groups ↔ members name ≠ [] := by
  constructor
  · intro named
    obtain ⟨⟨other, found⟩, member, rfl⟩ := List.mem_map.mp named
    obtain ⟨filled, rfl⟩ := (tabulates.exact other found).mp member
    exact filled
  · intro filled
    exact List.mem_map.mpr ⟨(name, members name), (tabulates.exact _ _).mpr ⟨filled, rfl⟩, rfl⟩

/-- The groups are their names with the members. -/
theorem Tabulates.eq_map (tabulates : Tabulates groups members) :
    groups = (Entries.names groups).map fun name => (name, members name) := by
  rw [Entries.names, List.map_map]
  refine (List.map_id groups).symm.trans (List.map_congr_left ?_)
  rintro ⟨name, found⟩ member
  obtain ⟨-, rfl⟩ := (tabulates.exact name found).mp member
  rfl

/-- What is tabulated determines the groups. -/
theorem Tabulates.unique {others : Entries (List β)} (here : Tabulates groups members)
    (there : Tabulates others members) : groups = others := by
  have names : Entries.names groups = Entries.names others :=
    eq_of_pairwise_precedes here.increasing there.increasing fun name => by
      rw [here.mem_names_iff, there.mem_names_iff]
  rw [here.eq_map, there.eq_map, names]

/-- Groups are told by their members. -/
theorem Tabulates.eq_of_members {others : Entries (List β)} {more : String → List β}
    (here : Tabulates groups members) (there : Tabulates others more)
    (same : ∀ name, members name = more name) : groups = others :=
  here.unique (funext same ▸ there)

/-- Without a name the groups tabulate what has no members under it. -/
theorem Tabulates.erase (tabulates : Tabulates groups members) (name : String) :
    Tabulates (Entries.erase name groups) fun other =>
      if other = name then [] else members other := by
  constructor
  · exact tabulates.increasing.sublist (List.filter_sublist.map Prod.fst)
  · intro other found
    rw [Entries.erase, List.mem_filter, tabulates.exact]
    by_cases erased : other = name
    · simp [erased]
    · simp [erased]

/-- Pairs in order of their names are gathered into groups that tabulate them. -/
theorem tabulates_gather {pairs : List (String × β)}
    (sorted : (pairs.map Prod.fst).Pairwise fun left right => byBytes left right = true) :
    Tabulates (Entries.gather pairs []) fun name => Entries.membersOf name pairs := by
  obtain ⟨more, names, within⟩ := Entries.names_gather pairs ([] : Entries (List β))
  have distinct : (Entries.names (Entries.gather pairs [])).Nodup :=
    Entries.nodup_names_gather pairs List.nodup_nil
  constructor
  · have upTo : (Entries.names (Entries.gather pairs [])).Pairwise
        fun left right => byBytes left right = true := by
      rw [names]
      exact sorted.sublist within
    exact upTo.and distinct
  · intro name found
    exact Entries.mem_gather_iff

/-- Parts of named items, gathered in the byte order of the names, are merged by name. -/
theorem tabulates_sortedBy (name : α → String) (parts : α → List β) (items : List α) :
    Tabulates
      (Entries.gather (Entries.namedParts name parts (SnapshotServer.sortedBy name items)) [])
      fun text => (items.filter fun item => name item = text).flatMap parts := by
  have sorted : ((Entries.namedParts name parts (SnapshotServer.sortedBy name items)).map
      Prod.fst).Pairwise fun left right => byBytes left right = true := by
    rw [Entries.map_namedParts, List.pairwise_flatMap]
    constructor
    · intro item _
      refine List.pairwise_of_forall_mem_list fun left inLeft right inRight => ?_
      obtain ⟨_, -, rfl⟩ := List.mem_map.mp inLeft
      obtain ⟨_, -, rfl⟩ := List.mem_map.mp inRight
      exact byBytes_refl _
    · refine (SnapshotServer.pairwise_sortedBy name items).imp
        fun upTo left inLeft right inRight => ?_
      obtain ⟨_, -, rfl⟩ := List.mem_map.mp inLeft
      obtain ⟨_, -, rfl⟩ := List.mem_map.mp inRight
      exact upTo
  have tabulates := tabulates_gather sorted
  simpa only [Entries.membersOf_namedParts, SnapshotServer.filter_sortedBy] using tabulates

end Tabulates

namespace SnapshotTable

variable (source : SnapshotTable)

/-- The position of the first column with the name. -/
def position? (name : String) : Option ColumnRef :=
  source.columns.findIdx? (·.name == name)

/-- The positions of the columns that indexes name, in order; names that the table does not have
are dropped. -/
def positionsOf (indexes : List SnapshotIndex) : List ColumnRef :=
  indexes.flatMap fun index => index.columns.filterMap source.position?

/-- The indexes with a name, in order. -/
def indexesNamed (name : String) : List SnapshotIndex :=
  source.indexes.filter fun index => index.name = name

/-- The positions of the columns that the catalog flags as primary, in order. -/
def flaggedPositions : List ColumnRef :=
  (source.columns.filter (·.reported.isPrimary)).filterMap fun column =>
    source.position? column.name

/-- The primary key: the columns of the index of the primary key, or the flagged ones where the
index has none. -/
def primaryPositions : List ColumnRef :=
  let positions := source.positionsOf (source.indexesNamed primaryIndex)
  if positions.isEmpty then source.flaggedPositions else positions

end SnapshotTable

/-- The first column of a name in the tables of a name. -/
def Snapshot.column? (snapshot : Snapshot) (schema table column : String) :
    Option SnapshotColumn :=
  ((snapshot.tablesNamed schema table).flatMap (·.columns)).find? (·.name == column)

namespace SnapshotTable

variable (source : SnapshotTable)

/-- The pair of a foreign key that a reference gives, if the table has the own column and the
snapshot the referenced one. -/
def pair? (snapshot : Snapshot) (reference : SnapshotReference) : Option ForeignPair := do
  let own ← source.position? reference.column
  let referenced ← snapshot.column? reference.referencedSchema reference.referencedTable
    reference.referencedColumn
  some
    { own
      referenced := referenced.reported
      referencedSchema := reference.referencedSchema
      referencedTable := reference.referencedTable }

/-- The pairs of the foreign keys with a name, in order. -/
def pairsNamed (snapshot : Snapshot) (name : String) : List ForeignPair :=
  (source.foreignKeys.filter fun key => key.name = name).flatMap fun key =>
    key.columns.filterMap (source.pair? snapshot)

end SnapshotTable

/-- The table is what a snapshot says about one of its tables. -/
structure Reads (snapshot : Snapshot) (source : SnapshotTable) (table : Table) : Prop where
  schema : table.schema = source.schema
  name : table.name = source.name
  columns : table.columns = source.columns.map SnapshotColumn.reported
  primaryKey : table.primaryKey = source.primaryPositions
  uniqueKeys : Tabulates table.uniqueKeys fun name =>
    if name = primaryIndex then []
    else source.positionsOf ((source.indexesNamed name).filter (·.unique))
  nonUniqueKeys : Tabulates table.nonUniqueKeys fun name =>
    source.positionsOf ((source.indexesNamed name).filter (!·.unique))
  foreignKeys : Tabulates table.foreignKeys (source.pairsNamed snapshot)
  loaded : table.loaded = true

namespace SnapshotTable

variable (snapshot : Snapshot) (source : SnapshotTable)

/-- The groups of the indexes that are unique, or of the ones that are not. -/
def indexGroups (unique : Bool) : KeyGroups :=
  let indexes := SnapshotServer.sortedBy (·.name) (source.indexes.filter (·.unique == unique))
  Entries.gather
    (Entries.namedParts (·.name) (fun index => index.columns.filterMap source.position?)
      indexes) []

/-- The column pairs of the foreign keys whose columns both exist, by constraint. -/
def foreignGroups : ForeignKeys :=
  let keys := SnapshotServer.sortedBy (·.name) source.foreignKeys
  Entries.gather
    (Entries.namedParts (·.name) (fun key => key.columns.filterMap (source.pair? snapshot))
      keys) []

/-- The table that a table of a snapshot is loaded as. -/
def populated : Table :=
  { schema := source.schema
    name := source.name
    columns := source.columns.map SnapshotColumn.reported
    primaryKey := source.primaryPositions
    uniqueKeys := Entries.erase primaryIndex (source.indexGroups true)
    nonUniqueKeys := source.indexGroups false
    foreignKeys := source.foreignGroups snapshot
    loaded := true }

/-- The groups of indexes are merged by name, whatever the order of the indexes. -/
theorem tabulates_indexGroups (unique : Bool) :
    Tabulates (source.indexGroups unique) fun name =>
      source.positionsOf ((source.indexesNamed name).filter (·.unique == unique)) := by
  have tabulates := tabulates_sortedBy (·.name)
    (fun index => index.columns.filterMap source.position?)
    (source.indexes.filter (·.unique == unique))
  have named (name : String) :
      (source.indexes.filter (·.unique == unique)).filter (fun index => index.name = name) =
        (source.indexesNamed name).filter (·.unique == unique) :=
    List.filter_comm _ _ _
  simp only [named] at tabulates
  exact tabulates

/-- What a table is loaded as reads the snapshot. -/
theorem reads_populated : Reads snapshot source (source.populated snapshot) := by
  have unique := (source.tabulates_indexGroups true).erase primaryIndex
  have nonUnique := source.tabulates_indexGroups false
  have foreign := tabulates_sortedBy (·.name)
    (fun key => key.columns.filterMap (source.pair? snapshot)) source.foreignKeys
  simp only [beq_true] at unique
  simp only [beq_false] at nonUnique
  exact ⟨rfl, rfl, rfl, rfl, unique, nonUnique, foreign, rfl⟩

end SnapshotTable

/-- Rows that are decoded one by one. -/
theorem mapM_map_eq_ok {α β ρ ε : Type} {row : α → ρ} {decode : ρ → Except ε β} {result : α → β}
    (decodes : ∀ item, decode (row item) = .ok (result item)) (items : List α) :
    (items.map row).mapM decode = .ok (items.map result) := by
  induction items with
  | nil => rfl
  | cons item items ih =>
      rw [List.map_cons, List.mapM_cons, decodes, ih]
      rfl

/-- The columns that indexes name, with the names of the indexes. -/
def indexEntries (indexes : List SnapshotIndex) : List (String × String) :=
  Entries.namedParts (·.name) (·.columns) indexes

/-- The rows of indexes, one for each of their columns. -/
theorem flatMap_indexRows (indexes : List SnapshotIndex) :
    indexes.flatMap SnapshotServer.indexRows =
      (indexEntries indexes).map fun entry => indexRow entry.1 entry.2 := by
  rw [indexEntries, Entries.map_namedParts]
  rfl

/-- The references of foreign keys, with the names of the foreign keys. -/
def referenceEntries (keys : List SnapshotForeignKey) : List (String × SnapshotReference) :=
  Entries.namedParts (·.name) (·.columns) keys

/-- The rows of foreign keys, one for each of their column pairs. -/
theorem flatMap_foreignRows (keys : List SnapshotForeignKey) :
    keys.flatMap SnapshotServer.foreignRows =
      (referenceEntries keys).map fun entry => foreignRow entry.1 entry.2 := by
  rw [referenceEntries, Entries.map_namedParts]
  rfl

/-- A part that asks one query and decodes each row of the answer. -/
theorem ask_decoded {α β : Type} {snapshot : Snapshot} {query : CatalogQuery} {values : List Cell}
    {rows : List Row} (context : ConnectionError → IntrospectionError)
    {decode : Row → Except ConnectionError α} {results : List α}
    {next : List α → Introspect (List CatalogQuery) β}
    (answered : SnapshotServer.answer snapshot query query.sql values = .ok rows)
    (decodes : rows.mapM decode = .ok results) (served : List CatalogQuery) :
    (do
      let rows ← ask (SnapshotServer.connection { snapshot }) context query values
      let results ← decoded context (rows.mapM decode)
      next results : Introspect (List CatalogQuery) β) served =
        next results (served ++ [query]) := by
  rw [bind_of_ok (ask_eq_ok context served answered), decodes]
  rfl

/-- The table has what all tables of a name in the snapshot have. -/
structure Snapshot.Merges (snapshot : Snapshot) (schema name : String) (source : SnapshotTable) :
    Prop where
  sameSchema : source.schema = schema
  sameName : source.name = name
  columns : (snapshot.tablesNamed schema name).flatMap (·.columns) = source.columns
  indexes : (snapshot.tablesNamed schema name).flatMap (·.indexes) = source.indexes
  foreignKeys : (snapshot.tablesNamed schema name).flatMap (·.foreignKeys) = source.foreignKeys

/-- The request for the column that a reference leads to. -/
def SnapshotReference.lookup (reference : SnapshotReference) : Request :=
  { query := .column
    values :=
      [ .text reference.referencedSchema, .text reference.referencedTable,
        .text reference.referencedColumn ]
    context := .columnLookup reference.referencedSchema reference.referencedTable
      reference.referencedColumn }

namespace SnapshotTable

variable (source : SnapshotTable)

/-- The request for a part of the table. -/
def partRequest (query : CatalogQuery) (part : String) (more : List Cell) : Request :=
  { query
    values := .text source.schema :: .text source.name :: more
    context := .load source.schema source.name part }

/-- The requests for the columns that references from columns of the table lead to. -/
def lookupRequests (references : List SnapshotReference) : List Request :=
  (references.filter fun reference => (source.position? reference.column).isSome).map
    SnapshotReference.lookup

/-- The requests that loading the table sends where none of them fails, in order: one for each part,
and then one for each reference from a column of the table. -/
def requests : List Request :=
  [ source.partRequest .columns "columns" [],
    source.partRequest .primaryKey "primary key" [.text primaryIndex],
    source.partRequest .indexKeys "unique keys" [.int 0],
    source.partRequest .indexKeys "non-unique keys" [.int 1],
    source.partRequest .foreignKeys "foreign keys" [] ] ++
  source.lookupRequests
    ((SnapshotServer.sortedBy (·.name) source.foreignKeys).flatMap (·.columns))

end SnapshotTable

section Parts

variable {σ : Type} {connection : Connection σ} {server : SnapshotServer} {note : Notes σ}
  {source : SnapshotTable}

/-- The requests for parts of a table name its schema and its name. -/
theorem Snapshot.Merges.partRequest_eq {table : Table} {snapshot : Snapshot}
    (merges : snapshot.Merges table.schema table.name source) (query : CatalogQuery)
    (part : String) (more : List Cell) :
    source.partRequest query part more =
      { query
        values := .text table.schema :: .text table.name :: more
        context := loadFailure table part } := by
  rw [SnapshotTable.partRequest, merges.sameSchema, merges.sameName]
  rfl

variable (table : Table)

/-- Loading columns sends one request and gives the reported columns. -/
theorem loadColumns_eq (serves : Serves connection server note)
    (merges : server.snapshot.Merges table.schema table.name source) :
    loadColumns connection table =
      sending server.failing note [source.partRequest .columns "columns" []]
        (source.columns.map SnapshotColumn.reported) := by
  have answered : SnapshotServer.answer server.snapshot .columns CatalogQuery.columns.sql
      [.text table.schema, .text table.name] =
        .ok (source.columns.map SnapshotServer.columnRow) := by
    simp [SnapshotServer.answer, SnapshotServer.textValue, bind, Except.bind, Cell.text?,
      ← merges.columns]
  rw [loadColumns, serves.ask_eq answered, merges.partRequest_eq]
  refine sending_bind_pure ?_
  rw [mapM_map_eq_ok columnOfRow_columnRow]
  rfl

section Resolved

variable (columns : table.columns = source.columns.map SnapshotColumn.reported)

include columns

/-- Names are found at the same positions in the table and in the snapshot. -/
theorem resolve?_eq : table.resolve? = source.position? := by
  funext name
  rw [Table.resolve?, columns, List.findIdx?_map]
  rfl

/-- The columns that are flagged as primary are the same in the table and in the snapshot. -/
theorem flaggedPrimary_eq : flaggedPrimary table = source.flaggedPositions := by
  rw [flaggedPrimary, Table.resolveAll, SnapshotTable.flaggedPositions, resolve?_eq table columns,
    columns]
  simp only [List.filter_map, List.filterMap_map]
  rfl

/-- Loading the primary key sends one request and gives its positions. -/
theorem loadPrimaryKey_eq (serves : Serves connection server note)
    (merges : server.snapshot.Merges table.schema table.name source) :
    loadPrimaryKey connection table =
      sending server.failing note
        [source.partRequest .primaryKey "primary key" [.text primaryIndex]]
        source.primaryPositions := by
  have answered : SnapshotServer.answer server.snapshot .primaryKey CatalogQuery.primaryKey.sql
      [.text table.schema, .text table.name, .text primaryIndex] =
        .ok ((indexEntries (source.indexesNamed primaryIndex)).map fun entry =>
          indexRow entry.1 entry.2) := by
    rw [← flatMap_indexRows]
    simp [SnapshotServer.answer, SnapshotServer.textValue, bind, Except.bind, Cell.text?,
      SnapshotTable.indexesNamed, Bool.beq_eq_decide_eq, merges.indexes]
  have decodes := @mapM_map_eq_ok _ _ _ _ (fun entry : String × String => indexRow entry.1 entry.2)
    (fun row => row.textOrNull Label.columnName) (fun entry => some entry.2)
    (fun entry => textOrNull_indexRow entry.1 entry.2)
  have resolved : table.resolveAll
      (((indexEntries (source.indexesNamed primaryIndex)).map fun entry => some entry.2).filterMap
        id) = source.positionsOf (source.indexesNamed primaryIndex) := by
    have names : ((indexEntries (source.indexesNamed primaryIndex)).map
        fun entry => some entry.2).filterMap id =
          (source.indexesNamed primaryIndex).flatMap (·.columns) := by
      rw [← Entries.map_snd_namedParts (·.name), List.filterMap_map]
      exact congrFun List.filterMap_eq_map _
    rw [names, Table.resolveAll, resolve?_eq table columns, List.filterMap_flatMap]
    rfl
  rw [merges.partRequest_eq]
  refine serves.ask_decoded (loadFailure table "primary key") answered (decodes _) ?_
  rw [resolved, flaggedPrimary_eq table columns]
  rfl

/-- The positions of the columns that indexes name, with the names of the indexes. -/
theorem indexGroups_indexEntries (indexes : List SnapshotIndex) :
    indexGroups table ((indexEntries indexes).map fun entry => (entry.1, some entry.2)) =
      Entries.gather
        (Entries.namedParts (·.name) (fun index => index.columns.filterMap source.position?)
          indexes) [] := by
  rw [indexGroups_eq, indexedColumns, resolve?_eq table columns, List.filterMap_map,
    ← Entries.filterMap_namedParts]
  rfl

/-- Loading unique or non-unique keys sends one request and gives their groups. -/
theorem loadIndexGroups_eq (serves : Serves connection server note)
    (merges : server.snapshot.Merges table.schema table.name source) (unique : Bool) :
    loadIndexGroups connection table unique =
      sending server.failing note
        [ source.partRequest .indexKeys (if unique then "unique keys" else "non-unique keys")
            [.int (if unique then 0 else 1)] ]
        (source.indexGroups unique) := by
  have answered : SnapshotServer.answer server.snapshot .indexKeys CatalogQuery.indexKeys.sql
      [.text table.schema, .text table.name, .int (if unique then 0 else 1)] =
        .ok ((indexEntries (SnapshotServer.sortedBy (·.name)
          (source.indexes.filter (·.unique == unique)))).map fun entry =>
            indexRow entry.1 entry.2) := by
    rw [← flatMap_indexRows, ← selects_flag]
    simp [SnapshotServer.answer, SnapshotServer.textValue, SnapshotServer.integerValue, bind,
      Except.bind, Cell.text?, Cell.int64?, merges.indexes]
  have each (entry : String × String) :
      indexEntryOfRow (indexRow entry.1 entry.2) = .ok (entry.1, some entry.2) :=
    indexEntryOfRow_indexRow entry.1 entry.2
  rw [merges.partRequest_eq, SnapshotTable.indexGroups, ← indexGroups_indexEntries table columns]
  exact serves.ask_decoded _ answered (mapM_map_eq_ok each _) rfl

/-- Loading unique keys leaves out the index of the primary key. -/
theorem loadUniqueKeys_eq (serves : Serves connection server note)
    (merges : server.snapshot.Merges table.schema table.name source) :
    loadUniqueKeys connection table =
      sending server.failing note [source.partRequest .indexKeys "unique keys" [.int 0]]
        (Entries.erase primaryIndex (source.indexGroups true)) := by
  rw [loadUniqueKeys, loadIndexGroups_eq table columns serves merges true]
  exact sending_bind_pure rfl

/-- Loading non-unique keys gives all of them. -/
theorem loadNonUniqueKeys_eq (serves : Serves connection server note)
    (merges : server.snapshot.Merges table.schema table.name source) :
    loadNonUniqueKeys connection table =
      sending server.failing note [source.partRequest .indexKeys "non-unique keys" [.int 1]]
        (source.indexGroups false) :=
  loadIndexGroups_eq table columns serves merges false

end Resolved

/-- Looking a column up sends one request and gives the reported column, if there is one. -/
theorem getColumn_eq (serves : Serves connection server note) (reference : SnapshotReference) :
    getColumn connection reference.referencedSchema reference.referencedTable
        reference.referencedColumn =
      sending server.failing note [reference.lookup]
        ((server.snapshot.column? reference.referencedSchema reference.referencedTable
          reference.referencedColumn).map SnapshotColumn.reported) := by
  let found := ((server.snapshot.tablesNamed reference.referencedSchema
    reference.referencedTable).flatMap (·.columns)).filter (·.name == reference.referencedColumn)
  have answered : SnapshotServer.answer server.snapshot .column CatalogQuery.column.sql
      [ .text reference.referencedSchema, .text reference.referencedTable,
        .text reference.referencedColumn ] = .ok (found.map SnapshotServer.columnRow) := by
    simp [SnapshotServer.answer, SnapshotServer.textValue, bind, Except.bind, Cell.text?, found]
  have first : server.snapshot.column? reference.referencedSchema reference.referencedTable
      reference.referencedColumn = found.head? := by
    rw [List.head?_filter]
    rfl
  rw [getColumn, serves.ask_eq answered, first]
  refine sending_bind_pure ?_
  cases found with
  | nil => rfl
  | cons found others =>
      simp only [List.map_cons, columnOfRow_columnRow]
      rfl

/-- Each reference from a column of the table is looked up once, and adds a pair if it is found. -/
theorem addForeignRows_eq (serves : Serves connection server note)
    (columns : table.columns = source.columns.map SnapshotColumn.reported)
    (entries : List (String × SnapshotReference)) (keys : ForeignKeys) :
    addForeignRows connection table keys (entries.map fun entry => foreignRow entry.1 entry.2) =
      sending server.failing note (source.lookupRequests (entries.map Prod.snd))
        (Entries.gather (entries.filterMap fun entry =>
          (source.pair? server.snapshot entry.2).map fun pair => (entry.1, pair)) keys) := by
  induction entries generalizing keys with
  | nil => rfl
  | cons entry entries ih =>
      obtain ⟨name, reference⟩ := entry
      rw [List.map_cons, addForeignRows, foreignEntryOfRow_foreignRow]
      refine (pure_bind _ _).trans ?_
      simp only [resolve?_eq table columns]
      cases own : source.position? reference.column with
      | none =>
          have dropped : source.pair? server.snapshot reference = none := by
            simp [SnapshotTable.pair?, own]
          simpa [SnapshotTable.lookupRequests, own, dropped] using ih keys
      | some position =>
          have requested : source.lookupRequests (((name, reference) :: entries).map Prod.snd) =
              [reference.lookup] ++ source.lookupRequests (entries.map Prod.snd) := by
            simp [SnapshotTable.lookupRequests, own]
          simp only [getColumn_eq serves reference]
          rw [requested]
          refine sending_bind ?_
          cases referenced : server.snapshot.column? reference.referencedSchema
              reference.referencedTable reference.referencedColumn with
          | none =>
              have dropped : source.pair? server.snapshot reference = none := by
                simp [SnapshotTable.pair?, own, referenced]
              simpa [dropped] using ih keys
          | some column =>
              have kept : source.pair? server.snapshot reference =
                  some ⟨position, column.reported, reference.referencedSchema,
                    reference.referencedTable⟩ := by
                simp [SnapshotTable.pair?, own, referenced]
              simpa [kept, Entries.gather] using ih (keys.addTo name _)

/-- Loading foreign keys sends one request for them and one for each referenced column. -/
theorem loadForeignKeys_eq (serves : Serves connection server note)
    (columns : table.columns = source.columns.map SnapshotColumn.reported)
    (merges : server.snapshot.Merges table.schema table.name source) :
    loadForeignKeys connection table =
      sending server.failing note
        (source.partRequest .foreignKeys "foreign keys" [] ::
          source.lookupRequests
            ((SnapshotServer.sortedBy (·.name) source.foreignKeys).flatMap (·.columns)))
        (source.foreignGroups server.snapshot) := by
  have answered : SnapshotServer.answer server.snapshot .foreignKeys CatalogQuery.foreignKeys.sql
      [.text table.schema, .text table.name] =
        .ok ((referenceEntries (SnapshotServer.sortedBy (·.name) source.foreignKeys)).map
          fun entry => foreignRow entry.1 entry.2) := by
    rw [← flatMap_foreignRows]
    simp [SnapshotServer.answer, SnapshotServer.textValue, bind, Except.bind, Cell.text?,
      merges.foreignKeys]
  have pairs (keys : List SnapshotForeignKey) :
      (referenceEntries keys).filterMap (fun entry =>
          (source.pair? server.snapshot entry.2).map fun pair => (entry.1, pair)) =
        Entries.namedParts (·.name)
          (fun key => key.columns.filterMap (source.pair? server.snapshot)) keys :=
    Entries.filterMap_namedParts _ _ keys _
  have references (keys : List SnapshotForeignKey) :
      (referenceEntries keys).map Prod.snd = keys.flatMap (·.columns) :=
    Entries.map_snd_namedParts _ _ keys
  rw [loadForeignKeys, serves.ask_eq answered, merges.partRequest_eq]
  refine sending_bind ?_
  rw [addForeignRows_eq table serves columns, pairs, references]
  rfl

/-- **Loading a table sends its requests in turn**, whatever was left in the table before. -/
theorem populate_endsLoading (serves : Serves connection server note) {start : Table}
    (bare : start.loaded = false)
    (merges : server.snapshot.Merges start.schema start.name source) (state : σ) :
    EndsLoading server.failing note source.requests (source.populated server.snapshot) state
      (populate connection (start, state)) := by
  have whole : source.populated server.snapshot =
      { start with
        columns := source.columns.map SnapshotColumn.reported
        primaryKey := source.primaryPositions
        uniqueKeys := Entries.erase primaryIndex (source.indexGroups true)
        nonUniqueKeys := source.indexGroups false
        foreignKeys := source.foreignGroups server.snapshot
        loaded := true } := by
    rw [SnapshotTable.populated, merges.sameSchema, merges.sameName]
  have split : source.requests = [source.partRequest .columns "columns" []] ++
      ([source.partRequest .primaryKey "primary key" [.text primaryIndex]] ++
        ([source.partRequest .indexKeys "unique keys" [.int 0]] ++
          ([source.partRequest .indexKeys "non-unique keys" [.int 1]] ++
            (source.partRequest .foreignKeys "foreign keys" [] ::
              source.lookupRequests ((SnapshotServer.sortedBy (·.name) source.foreignKeys).flatMap
                (·.columns)) ++ [])))) := by
    rw [List.append_nil]
    rfl
  rw [populate_of_bare bare, loadParts, whole, split]
  let first : Table := { start with columns := source.columns.map SnapshotColumn.reported }
  let second : Table := { first with primaryKey := source.primaryPositions }
  let third : Table :=
    { second with uniqueKeys := Entries.erase primaryIndex (source.indexGroups true) }
  let fourth : Table := { third with nonUniqueKeys := source.indexGroups false }
  refine endsLoading_loadPart start bare (loadColumns_eq start serves merges) (fun _ => ?_) state
  refine endsLoading_loadPart first bare (loadPrimaryKey_eq first rfl serves merges) (fun _ => ?_) _
  refine endsLoading_loadPart second bare (loadUniqueKeys_eq second rfl serves merges)
    (fun _ => ?_) _
  refine endsLoading_loadPart third bare (loadNonUniqueKeys_eq third rfl serves merges)
    (fun _ => ?_) _
  refine endsLoading_loadPart fourth bare (loadForeignKeys_eq fourth serves rfl merges)
    (fun _ => ?_) _
  exact endsLoading_done _ _

end Parts

/-- The number of references from columns that the table has. -/
def SnapshotTable.lookups (source : SnapshotTable) (references : List SnapshotReference) : Nat :=
  references.countP fun reference => (source.position? reference.column).isSome

/-- The queries that populating a table sends: one for each part, and one for the referenced column
of each reference from a column that the table has. -/
def SnapshotTable.queries (source : SnapshotTable) : List CatalogQuery :=
  [.columns, .primaryKey, .indexKeys, .indexKeys, .foreignKeys] ++
    List.replicate (source.lookups (source.foreignKeys.flatMap (·.columns))) .column

/-- The queries of the requests that a load sends. -/
theorem map_query_requests (source : SnapshotTable) :
    source.requests.map (·.query) = source.queries := by
  -- The lookups are all the same query, so the order of the references does not show.
  have lookups : source.lookups
      ((SnapshotServer.sortedBy (·.name) source.foreignKeys).flatMap (·.columns)) =
        source.lookups (source.foreignKeys.flatMap (·.columns)) :=
    ((SnapshotServer.perm_sortedBy _ _).flatMap_right _).countP_eq _
  have same (references : List SnapshotReference) :
      (source.lookupRequests references).map (·.query) =
        List.replicate (source.lookups references) .column := by
    rw [SnapshotTable.lookupRequests, List.map_map, SnapshotTable.lookups,
      List.countP_eq_length_filter]
    exact List.map_const'
  simp only [SnapshotTable.requests, List.map_append, List.map_cons, List.map_nil, same, lookups]
  rfl

/-- Populating a table that the snapshot has once gives that table. -/
theorem populate_eq {snapshot : Snapshot} {source : SnapshotTable} {schema name : String}
    (only : snapshot.tablesNamed schema name = [source]) (served : List CatalogQuery) :
    populate (SnapshotServer.connection { snapshot }) ({ schema, name }, served) =
      .ok () (source.populated snapshot, served ++ source.queries) := by
  have listed : source ∈ snapshot.tablesNamed schema name := only ▸ List.mem_singleton_self source
  obtain ⟨rfl, rfl⟩ : source.schema = schema ∧ source.name = name := by
    simpa using (List.mem_filter.mp listed).2
  have merges : snapshot.Merges source.schema source.name source := by
    refine ⟨rfl, rfl, ?_, ?_, ?_⟩ <;> rw [only, List.flatMap_singleton]
  have ends := populate_endsLoading (serves_connection { snapshot })
    (rfl : ({ schema := source.schema, name := source.name } : Table).loaded = false) merges served
  rw [EndsLoading, sendAll_apply_of_working served fun _ _ => List.not_mem_nil, noted_served,
    map_query_requests] at ends
  exact ends

/-- **Populating reads the table of the snapshot and nothing else.** -/
theorem populate_reads {snapshot : Snapshot} {source : SnapshotTable} {schema name : String}
    (only : snapshot.tablesNamed schema name = [source]) (served : List CatalogQuery) :
    ∃ loaded : Table,
      populate (SnapshotServer.connection { snapshot }) ({ schema, name }, served) =
        .ok () (loaded, served ++ source.queries) ∧ Reads snapshot source loaded :=
  ⟨source.populated snapshot, populate_eq only served, source.reads_populated snapshot⟩

/-- Orders with an index and a foreign key that lead nowhere, and one index in two parts. -/
def orders : SnapshotTable :=
  { schema := "shop"
    name := "orders"
    columns :=
      [ { name := "id", dataType := "int", key := "PRI" }, { name := "user_id", dataType := "int" },
        { name := "coupon_id", dataType := "int", nullable := true } ]
    indexes :=
      [ { name := "PRIMARY", unique := true, columns := ["id"] },
        { name := "idx_user", columns := ["user_id", "legacy_code"] },
        { name := "idx_legacy", columns := ["legacy_code"] },
        { name := "idx_user", columns := ["coupon_id"] } ]
    foreignKeys :=
      [ { name := "fk_user", columns := [⟨"user_id", "shop", "users", "id"⟩] },
        { name := "fk_coupon", columns := [⟨"coupon_id", "shop", "coupons", "id"⟩] } ] }

/-- A shop with its users and orders. -/
def shop : Snapshot :=
  { tables :=
      [ { schema := "shop"
          name := "users"
          columns := [{ name := "id", dataType := "int", key := "PRI" }] },
        orders ] }

theorem populate_reads_orders :
    shop.tablesNamed "shop" "orders" = [orders] ∧
      ∃ loaded : Table,
        populate (SnapshotServer.connection { snapshot := shop })
            ({ schema := "shop", name := "orders" }, []) =
          .ok () (loaded, [] ++ orders.queries) ∧ Reads shop orders loaded := by
  have only : shop.tablesNamed "shop" "orders" = [orders] := by decide
  exact ⟨only, populate_reads only []⟩

end DataAccess.Catalog
