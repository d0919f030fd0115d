import DataAccess.Proofs.Entries.Stored
import DataAccess.Schema.Table

/-!
# Tables that are built in steps

A table starts with its columns and gets its keys step by step. What it holds in the end can be told
from the columns and the steps alone (`IsBuilt`): a position is the first one of a column's name,
groups have members, and a key stands where the first step under its name put it, with the columns
that the last such step named. A step changes no other kind of key.
-/

namespace DataAccess.Schema

/-- The kinds of keys that a table has. -/
inductive KeyKind where
  | primary
  | unique
  | nonUnique
  | foreign
  deriving DecidableEq

/-- A step that gives keys to a table. -/
inductive KeyStep where
  | primaryKey (names : List String)
  | uniqueKey (key : String) (names : List String)
  | nonUniqueKey (key : String) (names : List String)
  /-- From own column names, referenced tables and referenced columns. -/
  | foreignKey (constraint : String) (pairs : List (String × String × Column))

namespace KeyStep

/-- The kind of key that a step adds. -/
def kind : KeyStep → KeyKind
  | primaryKey _ => .primary
  | uniqueKey _ _ => .unique
  | nonUniqueKey _ _ => .nonUnique
  | foreignKey _ _ => .foreign

/-- The table with the key of a step. -/
def apply (table : Table) : KeyStep → Table
  | primaryKey names => table.withPrimaryKey names
  | uniqueKey key names => table.withUniqueKey key names
  | nonUniqueKey key names => table.withNonUniqueKey key names
  | foreignKey constraint pairs => table.withForeignKey constraint pairs

end KeyStep

namespace Table

/-- The table after steps, one after another. -/
def withKeys (table : Table) (steps : List KeyStep) : Table :=
  steps.foldl KeyStep.apply table

/-- The table with none of the keys of a kind, and all else as it is. -/
def without (kind : KeyKind) (table : Table) : Table :=
  match kind with
  | .primary => { table with primaryKey := [] }
  | .unique => { table with uniqueKeys := [] }
  | .nonUnique => { table with nonUniqueKeys := [] }
  | .foreign => { table with foreignKeys := [] }

/-- Every position that a key of the table refers to. -/
def refs (table : Table) : List ColumnRef :=
  table.primaryKey ++ (table.uniqueKeys ++ table.nonUniqueKeys).flatMap Prod.snd ++
    table.foreignKeys.flatMap fun group => group.2.map ForeignPair.own

end Table

/-- Items are read where they are kept, and the others are left out. -/
theorem filterMap_ite {α β : Type _} (keeps : α → Bool) (read : α → β) (items : List α) :
    (items.filterMap fun item => if keeps item then some (read item) else none) =
      (items.filter keeps).map read := by
  induction items with
  | nil => rfl
  | cons item rest ih =>
      cases kept : keeps item <;> simp [kept, ih]

section Positions

variable (columns : List Column)

/-- Whether a position is that of a column, and of the first one with its name. -/
def IsFirstPosition (ref : ColumnRef) : Prop :=
  ∃ column, columns[ref]? = some column ∧
    ∀ earlier ∈ columns.take ref, earlier.name ≠ column.name

/-- Whether a column has the name. -/
def hasName (name : String) : Bool :=
  columns.any (·.name == name)

/-- The position of the first column with the name. -/
def firstPosition (name : String) : ColumnRef :=
  columns.findIdx (·.name == name)

/-- The positions of those names that columns have, in the order of the names. -/
def positions (names : List String) : List ColumnRef :=
  (names.filter (hasName columns)).map (firstPosition columns)

/-- The column pairs of those own names that columns have, in the order of the pairs, to tables of a
schema. -/
def references (schema : String) (pairs : List (String × String × Column)) : List ForeignPair :=
  (pairs.filter fun pair => hasName columns pair.1).map fun pair =>
    { own := firstPosition columns pair.1
      referenced := pair.2.2
      referencedSchema := schema
      referencedTable := pair.2.1 }

variable {columns}

/-- The first position of a name that a column has is one. -/
theorem isFirstPosition_of_hasName {name : String} (has : hasName columns name = true) :
    IsFirstPosition columns (firstPosition columns name) := by
  have bound : columns.findIdx (·.name == name) < columns.length :=
    List.findIdx_lt_length.mpr (List.any_eq_true.mp has)
  refine ⟨columns[firstPosition columns name], List.getElem?_eq_getElem bound, ?_⟩
  have named : columns[firstPosition columns name].name = name :=
    eq_of_beq (List.findIdx_getElem (w := bound))
  intro earlier before same
  obtain ⟨index, within, rfl⟩ := List.mem_take_iff_getElem.mp before
  have less : index < columns.findIdx (·.name == name) :=
    Nat.lt_of_lt_of_le within (Nat.min_le_left ..)
  exact (beq_eq_false_iff_ne.mp (List.not_of_lt_findIdx less)) (same.trans named)

/-- Each position of names is the first one of its name. -/
theorem isFirstPosition_of_mem_positions {names : List String} {ref : ColumnRef}
    (member : ref ∈ positions columns names) : IsFirstPosition columns ref := by
  obtain ⟨name, kept, rfl⟩ := List.mem_map.mp member
  exact isFirstPosition_of_hasName (List.mem_filter.mp kept).2

/-- The own columns of column pairs are at first positions. -/
theorem isFirstPosition_of_mem_references {schema : String}
    {pairs : List (String × String × Column)} {pair : ForeignPair}
    (member : pair ∈ references columns schema pairs) : IsFirstPosition columns pair.own := by
  obtain ⟨given, kept, rfl⟩ := List.mem_map.mp member
  exact isFirstPosition_of_hasName (List.mem_filter.mp kept).2

end Positions

namespace Table

/-- A name is resolved to its first position, if a column has it. -/
theorem resolve?_eq_ite (table : Table) (name : String) :
    table.resolve? name =
      if hasName table.columns name then some (firstPosition table.columns name) else none := by
  cases has : hasName table.columns name with
  | true =>
      have bound : firstPosition table.columns name < table.columns.length :=
        List.findIdx_lt_length.mpr (List.any_eq_true.mp has)
      exact List.findIdx?_eq_some_iff_findIdx_eq.mpr ⟨bound, rfl⟩
  | false =>
      refine List.findIdx?_eq_none_iff.mpr fun column member => ?_
      exact (Bool.not_eq_true _).mp (List.any_eq_false.mp has column member)

/-- Names are resolved to the positions of those that columns have. -/
theorem resolveAll_eq (table : Table) (names : List String) :
    table.resolveAll names = positions table.columns names := by
  rw [positions, ← filterMap_ite, resolveAll]
  exact congrArg (names.filterMap ·) (funext table.resolve?_eq_ite)

/-- The column pairs of a foreign key are the references whose own column exists. -/
theorem foreignPairs_eq (table : Table) (pairs : List (String × String × Column)) :
    (pairs.filterMap fun (own, referencedTable, referenced) =>
        table.foreignPair? own referencedTable referenced) =
      references table.columns table.schema pairs := by
  rw [references, ← filterMap_ite]
  refine congrArg (pairs.filterMap ·) (funext fun pair => ?_)
  change (table.resolve? pair.1).map _ = _
  rw [resolve?_eq_ite]
  cases hasName table.columns pair.1 <;> rfl

end Table

section Stored

/-- The columns of the primary key that a step asks for. -/
def KeyStep.primary? (columns : List Column) : KeyStep → Option (List ColumnRef)
  | primaryKey names => some (positions columns names)
  | _ => none

/-- The group of columns that a step of the kind hands in. -/
def KeyStep.group? (kind : KeyKind) (columns : List Column) (step : KeyStep) :
    Option (String × List ColumnRef) :=
  match step with
  | uniqueKey key names | nonUniqueKey key names =>
    if step.kind = kind then some (key, positions columns names) else none
  | _ => none

/-- The column pairs that a step stores as a foreign key. -/
def KeyStep.foreign? (schema : String) (columns : List Column) :
    KeyStep → Option (String × List ForeignPair)
  | foreignKey constraint pairs => some (constraint, references columns schema pairs)
  | _ => none

variable {α : Type _} (group? : KeyStep → Option (String × List α))

/-- The groups that steps hand in and that are stored: those with a member. -/
def storedGroups (steps : List KeyStep) : List (String × List α) :=
  (steps.filterMap group?).filter fun group => !group.2.isEmpty

/-- The groups after one more was handed in. -/
def storeIfAny (groups : Entries (List α)) : Option (String × List α) → Entries (List α)
  | some (key, members) => Table.storeGroup groups key members
  | none => groups

/-- What a step stores comes before what the later steps store. -/
theorem storeAll_storedGroups_cons (step : KeyStep) (steps : List KeyStep)
    (groups : Entries (List α)) :
    Entries.storeAll (storedGroups group? (step :: steps)) groups =
      Entries.storeAll (storedGroups group? steps) (storeIfAny groups (group? step)) := by
  rw [storedGroups, List.filterMap_cons]
  cases handed : group? step with
  | none => rfl
  | some group =>
      obtain ⟨key, members⟩ := group
      cases members with
      | nil => rfl
      | cons first rest => rfl

end Stored

namespace KeyStep

variable (table : Table) (step : KeyStep)

/-- **A step changes the keys of its kind only.** -/
theorem without_apply : (step.apply table).without step.kind = table.without step.kind := by
  cases step <;> rfl

theorem columns_apply : (step.apply table).columns = table.columns := by
  cases step <;> rfl

theorem schema_apply : (step.apply table).schema = table.schema := by
  cases step <;> rfl

/-- A step for a primary key replaces it; other steps leave it alone. -/
theorem primaryKey_apply :
    (step.apply table).primaryKey = (step.primary? table.columns).getD table.primaryKey := by
  cases step with
  | primaryKey names => exact table.resolveAll_eq names
  | _ => rfl

/-- A step for a unique key stores it, unless it has no column. -/
theorem uniqueKeys_apply :
    (step.apply table).uniqueKeys =
      storeIfAny table.uniqueKeys (step.group? .unique table.columns) := by
  cases step with
  | uniqueKey key names =>
      exact congrArg (Table.storeGroup table.uniqueKeys key) (table.resolveAll_eq names)
  | _ => rfl

/-- A step for a non-unique key stores it, unless it has no column. -/
theorem nonUniqueKeys_apply :
    (step.apply table).nonUniqueKeys =
      storeIfAny table.nonUniqueKeys (step.group? .nonUnique table.columns) := by
  cases step with
  | nonUniqueKey key names =>
      exact congrArg (Table.storeGroup table.nonUniqueKeys key) (table.resolveAll_eq names)
  | _ => rfl

/-- A step for a foreign key stores it, unless it has no column. -/
theorem foreignKeys_apply :
    (step.apply table).foreignKeys =
      storeIfAny table.foreignKeys (step.foreign? table.schema table.columns) := by
  cases step with
  | foreignKey constraint pairs =>
      exact congrArg (Table.storeGroup table.foreignKeys constraint) (table.foreignPairs_eq pairs)
  | _ => rfl

end KeyStep

namespace Table

/-- Keys do not change the columns. -/
theorem columns_withKeys (table : Table) (steps : List KeyStep) :
    (table.withKeys steps).columns = table.columns := by
  induction steps generalizing table with
  | nil => rfl
  | cons step steps ih => exact (ih (step.apply table)).trans (step.columns_apply table)

/-- The primary key is that of the last step for one. -/
theorem primaryKey_withKeys (table : Table) (steps : List KeyStep) :
    (table.withKeys steps).primaryKey =
      ((steps.filterMap (KeyStep.primary? table.columns)).getLast?).getD table.primaryKey := by
  induction steps generalizing table with
  | nil => rfl
  | cons step steps ih =>
      have run : table.withKeys (step :: steps) = (step.apply table).withKeys steps := rfl
      rw [run, ih, step.columns_apply, step.primaryKey_apply, List.filterMap_cons]
      cases step.primary? table.columns with
      | none => rfl
      | some refs => rw [List.getLast?_cons]; rfl

/-- Steps store their groups one after another, where each step stores its own. -/
theorem groups_withKeys {α : Type _} {groups : Table → Entries (List α)}
    {group? : Table → KeyStep → Option (String × List α)}
    (stores : ∀ (table : Table) (step : KeyStep),
      groups (step.apply table) = storeIfAny (groups table) (group? table step))
    (same : ∀ (table : Table) (step : KeyStep), group? (step.apply table) = group? table)
    (table : Table) (steps : List KeyStep) :
    groups (table.withKeys steps) =
      Entries.storeAll (storedGroups (group? table) steps) (groups table) := by
  induction steps generalizing table with
  | nil => rfl
  | cons step steps ih =>
      have run : table.withKeys (step :: steps) = (step.apply table).withKeys steps := rfl
      rw [run, ih, same, stores, storeAll_storedGroups_cons]

/-- Where steps store groups of a kind in a table that has none, each name keeps its first place and
its last group. -/
theorem isLatest_withKeys {α : Type _} {groups : Table → Entries (List α)}
    {group? : Table → KeyStep → Option (String × List α)}
    (stores : ∀ (table : Table) (step : KeyStep),
      groups (step.apply table) = storeIfAny (groups table) (group? table step))
    (same : ∀ (table : Table) (step : KeyStep), group? (step.apply table) = group? table)
    {table : Table} (bare : groups table = []) (steps : List KeyStep) :
    Entries.IsLatest (storedGroups (group? table) steps) (groups (table.withKeys steps)) := by
  rw [groups_withKeys stores same, bare]
  exact Entries.isLatest_ofList _

end Table

/-- What a table of a schema is after steps, told from its columns and the steps. -/
structure Table.IsBuilt (schema : String) (columns : List Column) (steps : List KeyStep)
    (table : Table) : Prop where
  columns_eq : table.columns = columns
  isFirstPosition : ∀ ref ∈ table.refs, IsFirstPosition columns ref
  uniqueKeys_ne_nil : ∀ group ∈ table.uniqueKeys, group.2 ≠ []
  nonUniqueKeys_ne_nil : ∀ group ∈ table.nonUniqueKeys, group.2 ≠ []
  foreignKeys_ne_nil : ∀ group ∈ table.foreignKeys, group.2 ≠ []
  primaryKey_eq :
    table.primaryKey = ((steps.filterMap (KeyStep.primary? columns)).getLast?).getD []
  uniqueKeys_isLatest :
    Entries.IsLatest (storedGroups (KeyStep.group? .unique columns) steps) table.uniqueKeys
  nonUniqueKeys_isLatest :
    Entries.IsLatest (storedGroups (KeyStep.group? .nonUnique columns) steps) table.nonUniqueKeys
  foreignKeys_isLatest :
    Entries.IsLatest (storedGroups (KeyStep.foreign? schema columns) steps) table.foreignKeys

/-- A group of a built table has members, and some step handed it in. -/
theorem handed_of_isLatest {α : Type _} {group? : KeyStep → Option (String × List α)}
    {steps : List KeyStep} {groups : Entries (List α)}
    (latest : Entries.IsLatest (storedGroups group? steps) groups) {group : String × List α}
    (member : group ∈ groups) : group.2 ≠ [] ∧ ∃ step ∈ steps, group? step = some group := by
  obtain ⟨handed, filled⟩ := List.mem_filter.mp (latest.mem member)
  obtain ⟨step, taken, hands⟩ := List.mem_filterMap.mp handed
  refine ⟨?_, step, taken, hands⟩
  intro empty
  rw [empty] at filled
  cases filled

namespace KeyStep

variable {columns : List Column} {step : KeyStep} {ref : ColumnRef}

/-- A step for a primary key points to first positions. -/
theorem isFirstPosition_of_primary? {refs : List ColumnRef}
    (asks : step.primary? columns = some refs) (member : ref ∈ refs) :
    IsFirstPosition columns ref := by
  cases step with
  | primaryKey names =>
      cases asks
      exact isFirstPosition_of_mem_positions member
  | _ => cases asks

/-- A step for a unique or non-unique key points to first positions. -/
theorem isFirstPosition_of_group? {kind : KeyKind} {group : String × List ColumnRef}
    (hands : step.group? kind columns = some group) (member : ref ∈ group.2) :
    IsFirstPosition columns ref := by
  cases step with
  | uniqueKey key names | nonUniqueKey key names =>
      obtain ⟨-, made⟩ := Option.ite_none_right_eq_some.mp hands
      cases made
      exact isFirstPosition_of_mem_positions member
  | _ => cases hands

/-- A step for a foreign key points to first positions. -/
theorem isFirstPosition_of_foreign? {schema : String} {group : String × List ForeignPair}
    (hands : step.foreign? schema columns = some group) {pair : ForeignPair}
    (member : pair ∈ group.2) : IsFirstPosition columns pair.own := by
  cases step with
  | foreignKey constraint pairs =>
      cases hands
      exact isFirstPosition_of_mem_references member
  | _ => cases hands

end KeyStep

namespace Table

section Built

variable (schema name : String) (columns : List Column) (steps : List KeyStep)

/-- Unique keys are the latest ones of the steps. -/
theorem uniqueKeys_isLatest :
    Entries.IsLatest (storedGroups (KeyStep.group? .unique columns) steps)
      ((ofColumns schema name columns).withKeys steps).uniqueKeys :=
  @isLatest_withKeys _ _ (fun table => KeyStep.group? .unique table.columns)
    (fun table step => step.uniqueKeys_apply table)
    (fun table step => congrArg (KeyStep.group? .unique) (step.columns_apply table))
    (ofColumns schema name columns) rfl steps

/-- Non-unique keys are the latest ones of the steps. -/
theorem nonUniqueKeys_isLatest :
    Entries.IsLatest (storedGroups (KeyStep.group? .nonUnique columns) steps)
      ((ofColumns schema name columns).withKeys steps).nonUniqueKeys :=
  @isLatest_withKeys _ _ (fun table => KeyStep.group? .nonUnique table.columns)
    (fun table step => step.nonUniqueKeys_apply table)
    (fun table step => congrArg (KeyStep.group? .nonUnique) (step.columns_apply table))
    (ofColumns schema name columns) rfl steps

/-- Foreign keys are the latest ones of the steps. -/
theorem foreignKeys_isLatest :
    Entries.IsLatest (storedGroups (KeyStep.foreign? schema columns) steps)
      ((ofColumns schema name columns).withKeys steps).foreignKeys :=
  @isLatest_withKeys _ _ (fun table => KeyStep.foreign? table.schema table.columns)
    (fun table step => step.foreignKeys_apply table)
    (fun table step => by rw [step.columns_apply, step.schema_apply])
    (ofColumns schema name columns) rfl steps

/-- The primary key points to first positions. -/
theorem isFirstPosition_of_mem_primaryKey {ref : ColumnRef}
    (member : ref ∈ ((ofColumns schema name columns).withKeys steps).primaryKey) :
    IsFirstPosition columns ref := by
  have given : (ofColumns schema name columns).columns = columns := rfl
  rw [primaryKey_withKeys, given] at member
  cases last : (steps.filterMap (KeyStep.primary? columns)).getLast? with
  | none =>
      rw [last] at member
      cases member
  | some refs =>
      rw [last] at member
      obtain ⟨step, -, asks⟩ := List.mem_filterMap.mp (List.mem_of_getLast? last)
      exact KeyStep.isFirstPosition_of_primary? asks member

/-- All keys point to first positions. -/
theorem isFirstPosition_of_mem_refs {ref : ColumnRef}
    (member : ref ∈ ((ofColumns schema name columns).withKeys steps).refs) :
    IsFirstPosition columns ref := by
  rw [refs, List.mem_append, List.mem_append] at member
  rcases member with (inPrimary | inColumns) | inForeign
  · exact isFirstPosition_of_mem_primaryKey schema name columns steps inPrimary
  · obtain ⟨group, stored, inGroup⟩ := List.mem_flatMap.mp inColumns
    rcases List.mem_append.mp stored with unique | nonUnique
    · obtain ⟨-, step, -, hands⟩ :=
        handed_of_isLatest (uniqueKeys_isLatest schema name columns steps) unique
      exact KeyStep.isFirstPosition_of_group? hands inGroup
    · obtain ⟨-, step, -, hands⟩ :=
        handed_of_isLatest (nonUniqueKeys_isLatest schema name columns steps) nonUnique
      exact KeyStep.isFirstPosition_of_group? hands inGroup
  · obtain ⟨group, stored, inGroup⟩ := List.mem_flatMap.mp inForeign
    obtain ⟨pair, paired, rfl⟩ := List.mem_map.mp inGroup
    obtain ⟨-, step, -, hands⟩ :=
      handed_of_isLatest (foreignKeys_isLatest schema name columns steps) stored
    exact KeyStep.isFirstPosition_of_foreign? hands paired

/-- **Built tables are well-formed, and hold what their steps say.** Besides, a step leaves the
columns and the keys of all other kinds alone, whatever the table is. -/
theorem isBuilt_withKeys :
    ((ofColumns schema name columns).withKeys steps).IsBuilt schema columns steps ∧
      ∀ (table : Table) (step : KeyStep),
        (step.apply table).without step.kind = table.without step.kind := by
  have unique := uniqueKeys_isLatest schema name columns steps
  have nonUnique := nonUniqueKeys_isLatest schema name columns steps
  have foreign := foreignKeys_isLatest schema name columns steps
  refine ⟨?_, fun table step => step.without_apply table⟩
  exact
    { columns_eq := columns_withKeys (ofColumns schema name columns) steps
      isFirstPosition := fun ref => isFirstPosition_of_mem_refs schema name columns steps
      uniqueKeys_ne_nil := fun group member => (handed_of_isLatest unique member).1
      nonUniqueKeys_ne_nil := fun group member => (handed_of_isLatest nonUnique member).1
      foreignKeys_ne_nil := fun group member => (handed_of_isLatest foreign member).1
      primaryKey_eq := primaryKey_withKeys (ofColumns schema name columns) steps
      uniqueKeys_isLatest := unique
      nonUniqueKeys_isLatest := nonUnique
      foreignKeys_isLatest := foreign }

/-- A later step under a name replaces its columns in place, unless it knows none of them. -/
example :
    let column (name : String) : Column :=
      { name, nativeType := "int", extendedType := "int", nullable := false, comment := "",
        isPrimary := false }
    ((ofColumns "shop" "users" [column "id", column "mail", column "id"]).withKeys
        [.uniqueKey "first" ["mail"], .uniqueKey "second" ["id"],
          .uniqueKey "first" ["id", "fax", "mail"], .uniqueKey "second" ["fax"]]).uniqueKeys =
      [("first", [0, 1]), ("second", [0])] := by
  decide

end Built

end Table

end DataAccess.Schema
