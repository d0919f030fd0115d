import DataAccess.Entries
import DataAccess.Schema.Column

/-!
# Tables and their keys

A table starts as a bare name in a schema. Once its columns are there, keys refer to them by
position. Key groups keep the order in which they were found.
-/

namespace DataAccess.Schema

/-- The position of a column in its table. -/
abbrev ColumnRef := Nat

/-- The columns of each key, by the name of the key. -/
abbrev KeyGroups := Entries (List ColumnRef)

/-- One column of a foreign key and the column that it refers to. -/
structure ForeignPair where
  own : ColumnRef
  referenced : Column
  referencedSchema : String
  referencedTable : String
  deriving DecidableEq

/-- The column pairs of each foreign key, by the name of the constraint. -/
abbrev ForeignKeys := Entries (List ForeignPair)

/-- A table with its columns and keys. -/
structure Table where
  schema : String
  name : String
  columns : List Column := []
  primaryKey : List ColumnRef := []
  uniqueKeys : KeyGroups := []
  nonUniqueKeys : KeyGroups := []
  foreignKeys : ForeignKeys := []
  /-- Whether columns and keys have been loaded. -/
  loaded : Bool := false
  deriving DecidableEq

namespace Table

/-- The name of a table with its schema. -/
def qualifiedName (table : Table) : String :=
  table.schema ++ "." ++ table.name

/-- A loaded table with columns and no keys. -/
def ofColumns (schema name : String) (columns : List Column) : Table :=
  { schema, name, columns, loaded := true }

/-- The first column of a name. -/
def resolve? (table : Table) (name : String) : Option ColumnRef :=
  table.columns.findIdx? (·.name == name)

/-- The positions of the named columns; names that the table does not have are left out. -/
def resolveAll (table : Table) (names : List String) : List ColumnRef :=
  names.filterMap table.resolve?

/-- The column at a position. -/
def column? (table : Table) (ref : ColumnRef) : Option Column :=
  table.columns[ref]?

/-- The columns that a key refers to, in the order of the key. -/
def columnsOf (table : Table) (refs : List ColumnRef) : List Column :=
  refs.filterMap table.column?

/-- The columns of the primary key. -/
def primaryColumns (table : Table) : List Column :=
  table.columnsOf table.primaryKey

/-- Whether a table has a primary key. -/
def hasPrimaryKey (table : Table) : Bool :=
  !table.primaryKey.isEmpty

/-- Stores a group under its name unless it is empty. -/
def storeGroup {α : Type _} (groups : Entries (List α)) (name : String) (members : List α) :
    Entries (List α) :=
  if members.isEmpty then groups else groups.insert name members

/-- The table with the primary key over the named columns. -/
def withPrimaryKey (table : Table) (names : List String) : Table :=
  { table with primaryKey := table.resolveAll names }

/-- The table with one more unique key over the named columns. -/
def withUniqueKey (table : Table) (key : String) (names : List String) : Table :=
  { table with uniqueKeys := storeGroup table.uniqueKeys key (table.resolveAll names) }

/-- The table with one more key over the named columns that is not unique. -/
def withNonUniqueKey (table : Table) (key : String) (names : List String) : Table :=
  { table with nonUniqueKeys := storeGroup table.nonUniqueKeys key (table.resolveAll names) }

/-- A pair of a foreign key to a table of the same schema, if the table has the own column. -/
def foreignPair? (table : Table) (own referencedTable : String) (referenced : Column) :
    Option ForeignPair :=
  (table.resolve? own).map fun ref =>
    { own := ref, referenced, referencedSchema := table.schema, referencedTable }

/-- The table with one more foreign key, from own column names, referenced tables and referenced
columns. -/
def withForeignKey (table : Table) (constraint : String)
    (pairs : List (String × String × Column)) : Table :=
  let members := pairs.filterMap fun (own, referencedTable, referenced) =>
    table.foreignPair? own referencedTable referenced
  { table with foreignKeys := storeGroup table.foreignKeys constraint members }

/-- Whether a position is one of a column of the table. -/
def HasRef (table : Table) (ref : ColumnRef) : Prop :=
  ref < table.columns.length

instance (table : Table) (ref : ColumnRef) : Decidable (table.HasRef ref) := by
  unfold HasRef; infer_instance

theorem hasRef_of_resolve? {table : Table} {name : String} {ref : ColumnRef}
    (found : table.resolve? name = some ref) : table.HasRef ref := by
  obtain ⟨bound, -⟩ := List.findIdx?_eq_some_iff_getElem.mp found
  exact bound

theorem hasRef_of_mem_resolveAll {table : Table} {names : List String} {ref : ColumnRef}
    (member : ref ∈ table.resolveAll names) : table.HasRef ref := by
  obtain ⟨name, -, found⟩ := List.mem_filterMap.mp member
  exact hasRef_of_resolve? found

end Table

end DataAccess.Schema
