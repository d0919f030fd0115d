import DataAccess.Proofs.Entries.Groups
import DataAccess.Schema.Table

/-!
# Whole tables

A table is whole if its keys refer to its own columns and no key group is empty. The steps by which
a table is built keep it whole, because names that the table does not have are left out.
-/

namespace DataAccess.Schema

/-- The groups that a table can have: each has a member, and members refer to columns. -/
def Table.Holds {α : Type _} (table : Table) (own : α → ColumnRef) (groups : Entries (List α)) :
    Prop :=
  ∀ group ∈ groups, group.2 ≠ [] ∧ ∀ member ∈ group.2, table.HasRef (own member)

/-- Keys refer to columns of the table, and no key group is empty. -/
structure Table.IsWhole (table : Table) : Prop where
  primaryKey : ∀ ref ∈ table.primaryKey, table.HasRef ref
  uniqueKeys : table.Holds id table.uniqueKeys
  nonUniqueKeys : table.Holds id table.nonUniqueKeys
  foreignKeys : table.Holds ForeignPair.own table.foreignKeys

namespace Table

variable {table : Table}

section Groups

variable {α : Type _} {own : α → ColumnRef}

theorem holds_nil : table.Holds own [] := nofun

theorem holds_storeGroup {groups : Entries (List α)} (holds : table.Holds own groups)
    (name : String) {members : List α} (refer : ∀ member ∈ members, table.HasRef (own member)) :
    table.Holds own (storeGroup groups name members) := by
  cases members with
  | nil => exact holds
  | cons first rest =>
      intro group member
      rcases Entries.mem_insert member with old | rfl
      · exact holds group old
      · exact ⟨List.cons_ne_nil first rest, refer⟩

theorem holds_gather {pairs : List (String × α)}
    (refer : ∀ pair ∈ pairs, table.HasRef (own pair.2)) :
    table.Holds own (Entries.gather pairs []) := by
  rintro ⟨name, members⟩ group
  obtain ⟨filled, rfl⟩ := Entries.mem_gather_iff.mp group
  exact ⟨filled, fun member inGroup => refer _ (Entries.mem_membersOf.mp inGroup)⟩

end Groups

theorem isWhole_ofColumns (schema name : String) (columns : List Column) :
    (ofColumns schema name columns).IsWhole where
  primaryKey := nofun
  uniqueKeys := holds_nil
  nonUniqueKeys := holds_nil
  foreignKeys := holds_nil

theorem IsWhole.withPrimaryKey (whole : table.IsWhole) (names : List String) :
    (table.withPrimaryKey names).IsWhole :=
  { whole with primaryKey := fun _ member => hasRef_of_mem_resolveAll member }

theorem IsWhole.withUniqueKey (whole : table.IsWhole) (key : String) (names : List String) :
    (table.withUniqueKey key names).IsWhole :=
  { whole with
    uniqueKeys := holds_storeGroup whole.uniqueKeys key fun _ => hasRef_of_mem_resolveAll }

theorem IsWhole.withNonUniqueKey (whole : table.IsWhole) (key : String) (names : List String) :
    (table.withNonUniqueKey key names).IsWhole :=
  { whole with
    nonUniqueKeys := holds_storeGroup whole.nonUniqueKeys key fun _ => hasRef_of_mem_resolveAll }

theorem IsWhole.withForeignKey (whole : table.IsWhole) (constraint : String)
    (pairs : List (String × String × Column)) : (table.withForeignKey constraint pairs).IsWhole :=
  { whole with
    foreignKeys := holds_storeGroup whole.foreignKeys constraint fun member found => by
      obtain ⟨⟨own, referencedTable, referenced⟩, -, made⟩ := List.mem_filterMap.mp found
      obtain ⟨ref, resolved, rfl⟩ := Option.map_eq_some_iff.mp made
      exact hasRef_of_resolve? resolved }

theorem columnsOf_eq_nil_iff {refs : List ColumnRef} (refer : ∀ ref ∈ refs, table.HasRef ref) :
    table.columnsOf refs = [] ↔ refs = [] := by
  constructor
  · intro none
    cases refs with
    | nil => rfl
    | cons ref rest =>
        have missing : table.columns[ref]? = .none :=
          List.filterMap_eq_nil_iff.mp none ref List.mem_cons_self
        exact absurd (refer ref List.mem_cons_self)
          (Nat.not_lt.mpr (List.getElem?_eq_none_iff.mp missing))
  · rintro rfl
    rfl

theorem IsWhole.primaryColumns_eq_nil_iff (whole : table.IsWhole) :
    table.primaryColumns = [] ↔ table.hasPrimaryKey = false := by
  rw [primaryColumns, columnsOf_eq_nil_iff whole.primaryKey, hasPrimaryKey]
  simp

end Table

end DataAccess.Schema
