import DataAccess.Proofs.Catalog.Captured

/-!
# Foreign keys of captured snapshots

A capture records every pair of a foreign key, but the column that a pair refers to is looked up in
the captured snapshot, and that has the base tables of one schema only. So a pair is replayed if it
refers to a base table of the captured schema, and it is lost if it leads to another schema or to a
view (`capture_replays_foreignKeys`).
-/

namespace DataAccess

/-- The groups with the members that pass a test; groups of which nothing remains are left out. -/
def Entries.keep {β : Type _} (keeps : β → Bool) (groups : Entries (List β)) :
    Entries (List β) :=
  (groups.map fun group => (group.1, group.2.filter keeps)).filter fun group => !group.2.isEmpty

namespace Catalog

open Database Schema Text

section Keep

variable {β : Type} {groups : Entries (List β)} {members : String → List β}

theorem Tabulates.keep (tabulates : Tabulates groups members) (keeps : β → Bool) :
    Tabulates (Entries.keep keeps groups) fun name => (members name).filter keeps := by
  constructor
  · have names : Entries.names (groups.map fun group => (group.1, group.2.filter keeps)) =
        Entries.names groups := by
      rw [Entries.names, List.map_map]
      rfl
    have increasing := tabulates.increasing
    rw [← names] at increasing
    exact increasing.sublist (List.filter_sublist.map Prod.fst)
  · intro name found
    rw [Entries.keep, List.mem_filter, List.mem_map]
    constructor
    · rintro ⟨⟨⟨other, whole⟩, member, same⟩, filled⟩
      cases same
      obtain ⟨-, rfl⟩ := (tabulates.exact _ whole).mp member
      exact ⟨by simpa using filled, rfl⟩
    · rintro ⟨filled, rfl⟩
      have whole : members name ≠ [] := fun none => filled (by rw [none, List.filter_nil])
      exact ⟨⟨(name, members name), (tabulates.exact _ _).mpr ⟨whole, rfl⟩, rfl⟩,
        by simpa using filled⟩

/-- Nothing is lost exactly if all members are kept. -/
theorem Tabulates.keep_eq_self_iff (tabulates : Tabulates groups members) (keeps : β → Bool) :
    Entries.keep keeps groups = groups ↔
      ∀ group ∈ groups, ∀ member ∈ group.2, keeps member = true := by
  constructor
  · rintro same ⟨name, found⟩ inGroups member inGroup
    obtain ⟨-, rfl⟩ := (tabulates.exact name found).mp inGroups
    rw [← same] at inGroups
    obtain ⟨-, kept⟩ := ((tabulates.keep keeps).exact name _).mp inGroups
    exact List.filter_eq_self.mp kept.symm member inGroup
  · intro kept
    refine (tabulates.keep keeps).eq_of_members tabulates fun name => ?_
    refine List.filter_eq_self.mpr fun member inGroup => ?_
    have group := (tabulates.exact name (members name)).mpr ⟨List.ne_nil_of_mem inGroup, rfl⟩
    exact kept _ group member inGroup

end Keep

/-- Whether the pair refers to a table that the capture of the schema has. -/
def Snapshot.captures (snapshot : Snapshot) (schema : String) (pair : ForeignPair) : Bool :=
  pair.referencedSchema == schema &&
    (snapshot.tablesNamed schema pair.referencedTable).any (·.tableType == baseTable)

section Lookup

variable {snapshot : Snapshot} {schema : String}

/-- Where a pair refers to a table of the capture, that table is the captured form of the one that
the pair refers to. -/
theorem tablesNamed_captured (distinct : snapshot.DistinctTables) {pair : ForeignPair}
    (captured : snapshot.captures schema pair = true) :
    ∃ source : SnapshotTable,
      snapshot.tablesNamed pair.referencedSchema pair.referencedTable = [source] ∧
      (snapshot.captured schema).tablesNamed pair.referencedSchema pair.referencedTable =
        [source.captured snapshot] := by
  obtain ⟨inSchema, found⟩ := Bool.and_eq_true_iff.mp captured
  obtain ⟨source, named, base⟩ := List.any_eq_true.mp found
  obtain ⟨member, here⟩ := List.mem_filter.mp named
  obtain ⟨sourceSchema, sourceName⟩ : source.schema = schema ∧
      source.name = pair.referencedTable := by simpa using here
  have listed : source ∈ snapshot.listed schema :=
    Snapshot.mem_listed.mpr ⟨member, sourceSchema, eq_of_beq base⟩
  have inCapture : source.captured snapshot ∈ (snapshot.captured schema).tables :=
    List.mem_map.mpr ⟨source, listed, rfl⟩
  rw [eq_of_beq inSchema, ← sourceSchema, ← sourceName]
  exact ⟨source, distinct.tablesNamed member,
    sourceSchema ▸ (distinct.captured schema).tablesNamed inCapture⟩

theorem tablesNamed_captured_eq_nil {pair : ForeignPair}
    (lost : snapshot.captures schema pair = false) :
    (snapshot.captured schema).tablesNamed pair.referencedSchema pair.referencedTable = [] := by
  refine List.filter_eq_nil_iff.mpr fun table member here => ?_
  obtain ⟨source, listed, rfl⟩ := List.mem_map.mp member
  obtain ⟨inTables, inSchema, base⟩ := Snapshot.mem_listed.mp listed
  obtain ⟨sameSchema, sameName⟩ : source.schema = pair.referencedSchema ∧
      source.name = pair.referencedTable := by
    simpa [SnapshotTable.captured, SnapshotTable.ofTable, SnapshotTable.populated] using here
  have named : source ∈ snapshot.tablesNamed schema pair.referencedTable :=
    List.mem_filter.mpr ⟨inTables, by simp [inSchema, sameName]⟩
  have captured : snapshot.captures schema pair = true := by
    rw [Snapshot.captures, ← sameSchema, inSchema, beq_self_eq_true, Bool.true_and]
    exact List.any_eq_true.mpr ⟨source, named, by rw [base, beq_self_eq_true]⟩
  rw [captured] at lost
  cases lost

/-- Columns of tables that are captured are found as they were reported, and others are not
found. -/
theorem column?_captured (distinct : snapshot.DistinctTables) (pair : ForeignPair)
    (column : String) :
    (snapshot.captured schema).column? pair.referencedSchema pair.referencedTable column =
      if snapshot.captures schema pair then
        (snapshot.column? pair.referencedSchema pair.referencedTable column).map fun found =>
          .ofColumn found.reported
      else none := by
  rw [Snapshot.column?]
  by_cases captured : snapshot.captures schema pair = true
  · obtain ⟨source, before, after⟩ := tablesNamed_captured distinct captured
    have columns : (source.captured snapshot).columns =
        source.columns.map fun found => .ofColumn found.reported := List.map_map
    rw [if_pos captured, Snapshot.column?, before, after, List.flatMap_singleton,
      List.flatMap_singleton, columns, List.find?_map]
    rfl
  · rw [if_neg captured, tablesNamed_captured_eq_nil ((Bool.not_eq_true _).mp captured)]
    rfl

end Lookup

namespace SnapshotTable

variable {snapshot : Snapshot} {source : SnapshotTable} {reference : SnapshotReference}
  {pair : ForeignPair}

theorem pair?_eq_some_iff :
    source.pair? snapshot reference = some pair ↔
      ∃ own referenced,
        source.position? reference.column = some own ∧
        snapshot.column? reference.referencedSchema reference.referencedTable
          reference.referencedColumn = some referenced ∧
        ⟨own, referenced.reported, reference.referencedSchema, reference.referencedTable⟩ =
          pair := by
  simp [pair?, Option.bind_eq_some_iff]

theorem exists_of_mem_pairsNamed {name : String} (member : pair ∈ source.pairsNamed snapshot name) :
    ∃ reference, source.pair? snapshot reference = some pair := by
  obtain ⟨key, -, inKey⟩ := List.mem_flatMap.mp member
  obtain ⟨reference, -, read⟩ := List.mem_filterMap.mp inKey
  exact ⟨reference, read⟩

/-- A pair is recorded as the reference that it was read from. -/
theorem reference?_of_pair? (read : source.pair? snapshot reference = some pair) :
    reference? (source.populated snapshot) pair = some reference := by
  obtain ⟨own, referenced, found, looked, rfl⟩ := pair?_eq_some_iff.mp read
  obtain ⟨bound, named, -⟩ := List.findIdx?_eq_some_iff_getElem.mp found
  have column : (source.populated snapshot).column? own =
      some (source.columns[own].reported) := by
    simp [Table.column?, populated, bound]
  have ownName : source.columns[own].reported.name = reference.column := eq_of_beq named
  have fits := List.find?_some looked
  have referencedName : referenced.reported.name = reference.referencedColumn := eq_of_beq fits
  rw [reference?, column, Option.map_some, ownName, referencedName]

/-- A reference is read from a capture as it was read before, or not at all. -/
theorem pair?_captured {schema : String} (distinct : snapshot.DistinctTables)
    (read : source.pair? snapshot reference = some pair) :
    (source.captured snapshot).pair? (snapshot.captured schema) reference =
      if snapshot.captures schema pair then some pair else none := by
  obtain ⟨own, referenced, found, looked, made⟩ := pair?_eq_some_iff.mp read
  have lookup := @column?_captured _ schema distinct pair reference.referencedColumn
  subst made
  rw [looked] at lookup
  rw [pair?, position?_captured, found, Option.bind_eq_bind, Option.bind_some, lookup]
  split
  · simp [SnapshotColumn.reported_ofColumn]
  · rfl

variable (snapshot source)

/-- **Foreign keys of a captured table.** What is replayed of them are the pairs that refer to
captured tables. -/
theorem foreignKeys_captured (schema : String) (distinct : snapshot.DistinctTables) :
    ((source.captured snapshot).populated (snapshot.captured schema)).foreignKeys =
      Entries.keep (snapshot.captures schema) (source.populated snapshot).foreignKeys := by
  have recorded := (source.reads_populated snapshot).foreignKeys
  have replayed :=
    ((source.captured snapshot).reads_populated (snapshot.captured schema)).foreignKeys
  refine replayed.eq_of_members (recorded.keep (snapshot.captures schema)) fun name => ?_
  have keys : (source.captured snapshot).foreignKeys =
      (source.populated snapshot).foreignKeys.map fun group =>
        { name := group.1
          columns := group.2.filterMap (reference? (source.populated snapshot)) } := rfl
  rw [← recorded.flatMap_filter name, List.filter_flatMap, pairsNamed, keys, List.filter_map,
    List.flatMap_map]
  refine List.flatMap_congr fun group member => ?_
  obtain ⟨-, exact⟩ := (recorded.exact group.1 group.2).mp (List.mem_of_mem_filter member)
  rw [← List.filterMap_eq_filter]
  refine List.filterMap_filterMap.trans (List.filterMap_congr fun pair inGroup => ?_)
  obtain ⟨reference, read⟩ := exists_of_mem_pairsNamed (exact ▸ inGroup)
  rw [reference?_of_pair? read, Option.bind_some, pair?_captured distinct read, Option.guard]

end SnapshotTable

/-- **A capture replays the foreign keys within its schema.** For every base table of a schema, the
foreign keys replayed from the capture are the loaded ones less the pairs that refer to another
schema or to a view. Nothing is lost exactly if there are no such pairs. -/
theorem capture_replays_foreignKeys {snapshot : Snapshot} (schema : String)
    (distinct : snapshot.DistinctTables) :
    ∃ replay : Snapshot,
      Gives (capture (SnapshotServer.connection { snapshot }) schema) replay ∧
      ∃ tables : List Table,
        Gives (listTables (SnapshotServer.connection { snapshot }) schema) tables ∧
        ∀ table ∈ tables, ∃ loaded replayed : Table,
          Gives (populated (SnapshotServer.connection { snapshot }) table) loaded ∧
          Gives (populated (SnapshotServer.connection { snapshot := replay }) table) replayed ∧
          replayed.foreignKeys = Entries.keep (snapshot.captures schema) loaded.foreignKeys ∧
          (replayed.foreignKeys = loaded.foreignKeys ↔
            ∀ group ∈ loaded.foreignKeys, ∀ pair ∈ group.2,
              snapshot.captures schema pair = true) := by
  refine ⟨snapshot.captured schema, capture_gives schema distinct,
    (snapshot.listed schema).map SnapshotTable.bare, listTables_gives schema, ?_⟩
  intro table member
  obtain ⟨source, listed, rfl⟩ := List.mem_map.mp member
  have inSnapshot := (Snapshot.mem_listed.mp listed).1
  have kept := source.foreignKeys_captured snapshot schema distinct
  have tabulates := (source.reads_populated snapshot).foreignKeys
  refine ⟨source.populated snapshot,
    (source.captured snapshot).populated (snapshot.captured schema),
    populated_gives (distinct.tablesNamed inSnapshot),
    populated_captured_gives schema distinct listed, kept, ?_⟩
  rw [kept]
  exact tabulates.keep_eq_self_iff _

/-- Orders that refer to accounts in another schema. -/
def accountOrders : SnapshotTable :=
  { schema := "shop"
    name := "orders"
    columns :=
      [ { name := "id", dataType := "int", key := "PRI" },
        { name := "account_id", dataType := "int" } ]
    indexes := [{ name := "PRIMARY", unique := true, columns := ["id"] }]
    foreignKeys :=
      [{ name := "fk_account", columns := [⟨"account_id", "auth", "accounts", "id"⟩] }] }

/-- A shop whose accounts are kept in another schema. -/
def sharedAccounts : Snapshot :=
  { tables :=
      [ accountOrders,
        { schema := "auth"
          name := "accounts"
          columns := [{ name := "id", dataType := "int", key := "PRI" }] } ] }

theorem capture_replays_foreignKeys_sharedAccounts :
    sharedAccounts.DistinctTables ∧
      ∃ replay : Snapshot,
        Gives (capture (SnapshotServer.connection { snapshot := sharedAccounts }) "shop") replay ∧
        ∃ tables : List Table,
          Gives (listTables (SnapshotServer.connection { snapshot := sharedAccounts }) "shop")
            tables ∧
          ∀ table ∈ tables, ∃ loaded replayed : Table,
            Gives (populated (SnapshotServer.connection { snapshot := sharedAccounts }) table)
              loaded ∧
            Gives (populated (SnapshotServer.connection { snapshot := replay }) table) replayed ∧
            replayed.foreignKeys =
              Entries.keep (sharedAccounts.captures "shop") loaded.foreignKeys ∧
            (replayed.foreignKeys = loaded.foreignKeys ↔
              ∀ group ∈ loaded.foreignKeys, ∀ pair ∈ group.2,
                sharedAccounts.captures "shop" pair = true) := by
  have distinct : sharedAccounts.DistinctTables := by decide
  exact ⟨distinct, capture_replays_foreignKeys "shop" distinct⟩

/-- The accounts are not captured with the shop, and the foreign key to them is not replayed. -/
theorem capture_loses_account :
    sharedAccounts.DistinctTables ∧
      ∃ replay : Snapshot, ∃ tables : List Table, ∃ loaded replayed : Table,
        Gives (capture (SnapshotServer.connection { snapshot := sharedAccounts }) "shop") replay ∧
        Gives (listTables (SnapshotServer.connection { snapshot := sharedAccounts }) "shop")
          tables ∧
        accountOrders.bare ∈ tables ∧
        Gives (populated (SnapshotServer.connection { snapshot := sharedAccounts })
          accountOrders.bare) loaded ∧
        Gives (populated (SnapshotServer.connection { snapshot := replay }) accountOrders.bare)
          replayed ∧
        Entries.names loaded.foreignKeys = ["fk_account"] ∧ replayed.foreignKeys = [] := by
  have distinct : sharedAccounts.DistinctTables := by decide
  have member : accountOrders ∈ sharedAccounts.tables := by decide
  have listed : accountOrders ∈ sharedAccounts.listed "shop" :=
    Snapshot.mem_listed.mpr ⟨member, rfl, rfl⟩
  have sorted : SnapshotServer.sortedBy (·.name) accountOrders.foreignKeys =
      accountOrders.foreignKeys := by
    simp [accountOrders, SnapshotServer.sortedBy]
  have loaded : (accountOrders.populated sharedAccounts).foreignKeys =
      Entries.gather (Entries.namedParts (·.name)
        (fun key => key.columns.filterMap (accountOrders.pair? sharedAccounts))
        accountOrders.foreignKeys) [] := by
    rw [SnapshotTable.populated, SnapshotTable.foreignGroups, sorted]
  have kept := accountOrders.foreignKeys_captured sharedAccounts "shop" distinct
  refine ⟨distinct, sharedAccounts.captured "shop",
    (sharedAccounts.listed "shop").map SnapshotTable.bare, accountOrders.populated sharedAccounts,
    (accountOrders.captured sharedAccounts).populated (sharedAccounts.captured "shop"),
    capture_gives "shop" distinct, listTables_gives "shop", List.mem_map_of_mem listed,
    populated_gives (distinct.tablesNamed member),
    populated_captured_gives "shop" distinct listed, ?_, ?_⟩
  · rw [loaded]
    rfl
  · rw [kept, loaded]
    rfl

end Catalog

end DataAccess
