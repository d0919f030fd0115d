import DataAccess.Catalog.Introspection
import DataAccess.Proofs.Schema.WholeTables

/-!
# Loaded tables

A table is loaded part after part, and each part is loaded for the table with the parts before it
(`populate_eq_ok_iff`). Whatever a connection answers, keys only refer to columns that were loaded.
So every loaded table is whole (`Loaded.isWhole`), and it stays whole when keys are added to it.
-/

namespace DataAccess.Catalog

open Database Schema

section Steps

variable {σ α β : Type}

/-- A step that succeeds hands its value and state on to what follows. -/
theorem bind_of_ok {step : Introspect σ α} {next : α → Introspect σ β} {value : α}
    {before between : σ} (now : step before = .ok value between) :
    (step >>= next) before = next value between := by
  simp only [bind, EStateM.bind, now]

/-- Loading in steps succeeds only where each step does. -/
theorem bind_eq_ok {step : Introspect σ α} {next : α → Introspect σ β} {result : β}
    {before after : σ} (succeeds : (step >>= next) before = .ok result after) :
    ∃ value between, step before = .ok value between ∧ next value between = .ok result after := by
  simp only [bind, EStateM.bind] at succeeds
  cases now : step before with
  | ok value between =>
      rw [now] at succeeds
      exact ⟨value, between, rfl, succeeds⟩
  | error failure between =>
      rw [now] at succeeds
      cases succeeds

/-- A value that is there already sends nothing. -/
theorem pure_eq_ok {value result : α} {before after : σ}
    (succeeds : (pure value : Introspect σ α) before = .ok result after) : result = value := by
  cases succeeds
  rfl

end Steps

variable {σ : Type} {connection : Connection σ}

section Parts

variable {table : Table} {before after : σ}

/-- A loaded primary key points to columns of the table. -/
theorem hasRef_of_loadPrimaryKey {refs : List ColumnRef}
    (succeeds : loadPrimaryKey connection table before = .ok refs after) :
    ∀ ref ∈ refs, table.HasRef ref := by
  unfold loadPrimaryKey at succeeds
  obtain ⟨rows, answered, -, succeeds⟩ := bind_eq_ok succeeds
  obtain ⟨names, between, -, succeeds⟩ := bind_eq_ok succeeds
  cases succeeds
  intro ref member
  split at member
  · exact Table.hasRef_of_mem_resolveAll member
  · exact Table.hasRef_of_mem_resolveAll member

/-- The columns that the rows of an index listing name, with the names of their indexes. -/
def indexedColumns (table : Table) (entries : List (String × Option String)) :
    List (String × ColumnRef) :=
  entries.filterMap fun (index, column) => (column.bind table.resolve?).map (index, ·)

/-- The groups of indexes are gathered from the columns that exist. -/
theorem indexGroups_eq (table : Table) (entries : List (String × Option String)) :
    indexGroups table entries = Entries.gather (indexedColumns table entries) [] := by
  rw [indexGroups, Entries.gather, indexedColumns, List.foldl_filterMap]
  congr 1
  funext groups entry
  obtain ⟨index, column⟩ := entry
  cases resolved : column.bind table.resolve? with
  | none => simp only [resolved, Option.map_none]
  | some ref => simp only [resolved, Option.map_some]

/-- The groups of indexes are filled and point to columns of the table. -/
theorem holds_indexGroups (table : Table) (entries : List (String × Option String)) :
    table.Holds id (indexGroups table entries) := by
  rw [indexGroups_eq]
  refine Table.holds_gather fun pair member => ?_
  obtain ⟨⟨index, column⟩, -, made⟩ := List.mem_filterMap.mp member
  obtain ⟨ref, resolved, rfl⟩ := Option.map_eq_some_iff.mp made
  obtain ⟨name, -, resolved⟩ := Option.bind_eq_some_iff.mp resolved
  exact Table.hasRef_of_resolve? resolved

/-- Loaded keys are filled and point to columns of the table. -/
theorem holds_of_loadIndexGroups {unique : Bool} {groups : KeyGroups}
    (succeeds : loadIndexGroups connection table unique before = .ok groups after) :
    table.Holds id groups := by
  unfold loadIndexGroups at succeeds
  obtain ⟨rows, answered, -, succeeds⟩ := bind_eq_ok succeeds
  obtain ⟨entries, between, -, succeeds⟩ := bind_eq_ok succeeds
  cases succeeds
  exact holds_indexGroups table entries

/-- Loaded unique keys are filled and point to columns of the table. -/
theorem holds_of_loadUniqueKeys {groups : KeyGroups}
    (succeeds : loadUniqueKeys connection table before = .ok groups after) :
    table.Holds id groups := by
  obtain ⟨all, between, loaded, succeeds⟩ := bind_eq_ok succeeds
  cases succeeds
  intro group member
  exact holds_of_loadIndexGroups loaded group (List.mem_of_mem_filter member)

/-- What the rows of foreign keys add are pairs whose own columns the table has. -/
theorem gathered_of_addForeignRows {keys result : ForeignKeys} {rows : List Row}
    (succeeds : addForeignRows connection table keys rows before = .ok result after) :
    ∃ pairs : List (String × ForeignPair), result = Entries.gather pairs keys ∧
      ∀ pair ∈ pairs, table.HasRef pair.2.own := by
  induction rows generalizing keys before with
  | nil => exact ⟨[], pure_eq_ok succeeds, nofun⟩
  | cons row rows ih =>
      obtain ⟨entry, between, -, succeeds⟩ := bind_eq_ok succeeds
      cases resolved : table.resolve? entry.column with
      | none =>
          simp only [resolved] at succeeds
          exact ih succeeds
      | some own =>
          simp only [resolved] at succeeds
          obtain ⟨found, later, -, succeeds⟩ := bind_eq_ok succeeds
          cases found with
          | none => exact ih succeeds
          | some referenced =>
              obtain ⟨pairs, rfl, refer⟩ := ih succeeds
              refine ⟨(entry.constraint, ⟨own, referenced, entry.schema, entry.table⟩) :: pairs,
                rfl, ?_⟩
              intro pair member
              rcases List.mem_cons.mp member with rfl | more
              · exact Table.hasRef_of_resolve? resolved
              · exact refer pair more

/-- Loaded foreign keys are filled and point to columns of the table. -/
theorem holds_of_loadForeignKeys {keys : ForeignKeys}
    (succeeds : loadForeignKeys connection table before = .ok keys after) :
    table.Holds ForeignPair.own keys := by
  obtain ⟨rows, between, -, succeeds⟩ := bind_eq_ok succeeds
  obtain ⟨pairs, rfl, refer⟩ := gathered_of_addForeignRows succeeds
  exact Table.holds_gather refer

end Parts

section Populate

variable {start loaded : Table} {before after : σ}

/-- Loading the parts of a table, one after another. -/
def loadParts (connection : Connection σ) : EStateM IntrospectionError (Table × σ) Unit := do
  loadPart (loadColumns connection) fun table columns => { table with columns }
  loadPart (loadPrimaryKey connection) fun table primaryKey => { table with primaryKey }
  loadPart (loadUniqueKeys connection) fun table uniqueKeys => { table with uniqueKeys }
  loadPart (loadNonUniqueKeys connection) fun table nonUniqueKeys => { table with nonUniqueKeys }
  loadPart (loadForeignKeys connection) fun table foreignKeys => { table with foreignKeys }
  modify fun (table, state) => ({ table with loaded := true }, state)

/-- A table that is not loaded is loaded part by part. -/
theorem populate_of_bare (bare : start.loaded = false) :
    populate connection (start, before) = loadParts connection (start, before) := by
  have current : (get : EStateM IntrospectionError (Table × σ) (Table × σ)) (start, before) =
      .ok (start, before) (start, before) := rfl
  rw [populate, bind_of_ok current]
  simp only [bare, Bool.false_eq_true, ↓reduceIte]
  rfl

/-- A table that is loaded is left alone. -/
theorem populate_of_loaded (loaded : start.loaded = true) :
    populate connection (start, before) = .ok () (start, before) := by
  have current : (get : EStateM IntrospectionError (Table × σ) (Table × σ)) (start, before) =
      .ok (start, before) (start, before) := rfl
  rw [populate, bind_of_ok current]
  simp only [loaded, ↓reduceIte]
  rfl

/-- A part that is loaded is stored before the next one. -/
theorem loadPart_of_ok {α : Type} {load : Table → Introspect σ α} {store : Table → α → Table}
    {next : Unit → EStateM IntrospectionError (Table × σ) Unit} {part : α}
    (loads : load start before = .ok part after) :
    (loadPart load store >>= next) (start, before) = next () (store start part, after) := by
  simp only [bind, EStateM.bind, loadPart, loads]

/-- A part that cannot be loaded ends the loading. -/
theorem loadPart_of_error {α : Type} {load : Table → Introspect σ α} {store : Table → α → Table}
    {next : Unit → EStateM IntrospectionError (Table × σ) Unit} {failure : IntrospectionError}
    (fails : load start before = .error failure after) :
    (loadPart load store >>= next) (start, before) = .error failure (start, after) := by
  simp only [bind, EStateM.bind, loadPart, fails]

/-- Loading a part and going on succeeds where both do. -/
theorem loadPart_bind_eq_ok_iff {α : Type} {load : Table → Introspect σ α}
    {store : Table → α → Table}
    {next : Unit → EStateM IntrospectionError (Table × σ) Unit} {table : Table}
    {result : Table × σ} :
    (loadPart load store >>= next) (table, before) = .ok () result ↔
      ∃ part between, load table before = .ok part between ∧
        next () (store table part, between) = .ok () result := by
  simp only [bind, EStateM.bind, loadPart]
  cases load table before with
  | ok part between => simp
  | error failure between => simp

theorem modify_eq_ok_iff {change : Table × σ → Table × σ} {before after : Table × σ} :
    (modify change : EStateM IntrospectionError (Table × σ) Unit) before = .ok () after ↔
      after = change before := by
  constructor
  · intro done
    cases done
    rfl
  · rintro rfl
    rfl

/-- **A table is loaded part after part.** -/
theorem populate_eq_ok_iff (bare : start.loaded = false) :
    populate connection (start, before) = .ok () (loaded, after) ↔
      ∃ columns afterColumns,
        loadColumns connection start before = .ok columns afterColumns ∧
      ∃ primaryKey afterPrimary,
        loadPrimaryKey connection { start with columns } afterColumns =
          .ok primaryKey afterPrimary ∧
      ∃ uniqueKeys afterUnique,
        loadUniqueKeys connection { start with columns, primaryKey } afterPrimary =
          .ok uniqueKeys afterUnique ∧
      ∃ nonUniqueKeys afterNonUnique,
        loadNonUniqueKeys connection { start with columns, primaryKey, uniqueKeys } afterUnique =
          .ok nonUniqueKeys afterNonUnique ∧
      ∃ foreignKeys,
        loadForeignKeys connection { start with columns, primaryKey, uniqueKeys, nonUniqueKeys }
          afterNonUnique = .ok foreignKeys after ∧
        loaded =
          { start with columns, primaryKey, uniqueKeys, nonUniqueKeys, foreignKeys,
                       loaded := true } := by
  rw [populate_of_bare bare, loadParts]
  simp only [loadPart_bind_eq_ok_iff, modify_eq_ok_iff, Prod.mk.injEq]
  constructor
  · rintro ⟨columns, s₁, h₁, primaryKey, s₂, h₂, uniqueKeys, s₃, h₃, nonUniqueKeys, s₄, h₄,
      foreignKeys, s₅, h₅, rfl, rfl⟩
    exact ⟨columns, s₁, h₁, primaryKey, s₂, h₂, uniqueKeys, s₃, h₃, nonUniqueKeys, s₄, h₄,
      foreignKeys, h₅, rfl⟩
  · rintro ⟨columns, s₁, h₁, primaryKey, s₂, h₂, uniqueKeys, s₃, h₃, nonUniqueKeys, s₄, h₄,
      foreignKeys, h₅, rfl⟩
    exact ⟨columns, s₁, h₁, primaryKey, s₂, h₂, uniqueKeys, s₃, h₃, nonUniqueKeys, s₄, h₄,
      foreignKeys, _, h₅, rfl, rfl⟩

/-- Whatever a connection answers, the table that is loaded from the answers is whole. -/
theorem isWhole_of_populate (bare : start.loaded = false)
    (succeeds : populate connection (start, before) = .ok () (loaded, after)) :
    loaded.IsWhole := by
  obtain ⟨columns, s₁, -, primaryKey, s₂, primary, uniqueKeys, s₃, unique, nonUniqueKeys, s₄,
    nonUnique, foreignKeys, foreign, rfl⟩ := (populate_eq_ok_iff bare).mp succeeds
  have inPrimary := hasRef_of_loadPrimaryKey primary
  have inUnique := holds_of_loadUniqueKeys unique
  have inNonUnique := holds_of_loadIndexGroups nonUnique
  have inForeign := holds_of_loadForeignKeys foreign
  exact ⟨inPrimary, inUnique, inNonUnique, inForeign⟩

end Populate

/-- Tables that classes are made for: loaded through some connection or put together from columns,
and then perhaps given more keys. -/
inductive Loaded : Table → Prop where
  | populated {σ : Type} (connection : Connection σ) {start loaded : Table} {before after : σ}
      (bare : start.loaded = false)
      (succeeds : populate connection (start, before) = .ok () (loaded, after)) : Loaded loaded
  | ofColumns (schema name : String) (columns : List Column) :
      Loaded (Table.ofColumns schema name columns)
  | withPrimaryKey {table : Table} (names : List String) (loaded : Loaded table) :
      Loaded (table.withPrimaryKey names)
  | withUniqueKey {table : Table} (key : String) (names : List String) (loaded : Loaded table) :
      Loaded (table.withUniqueKey key names)
  | withNonUniqueKey {table : Table} (key : String) (names : List String)
      (loaded : Loaded table) : Loaded (table.withNonUniqueKey key names)
  | withForeignKey {table : Table} (constraint : String)
      (pairs : List (String × String × Column)) (loaded : Loaded table) :
      Loaded (table.withForeignKey constraint pairs)

/-- **Every loaded table is whole.** -/
theorem Loaded.isWhole {table : Table} (loaded : Loaded table) : table.IsWhole := by
  induction loaded with
  | populated connection bare succeeds => exact isWhole_of_populate bare succeeds
  | ofColumns schema name columns => exact Table.isWhole_ofColumns schema name columns
  | withPrimaryKey names _ whole => exact whole.withPrimaryKey names
  | withUniqueKey key names _ whole => exact whole.withUniqueKey key names
  | withNonUniqueKey key names _ whole => exact whole.withNonUniqueKey key names
  | withForeignKey constraint pairs _ whole => exact whole.withForeignKey constraint pairs

end DataAccess.Catalog
