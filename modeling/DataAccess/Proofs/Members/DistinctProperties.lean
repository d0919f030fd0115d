import DataAccess.Proofs.Members.Lifecycle
import DataAccess.Proofs.Members.MovedNames
import DataAccess.Proofs.Members.Properties

/-!
# Properties of their own

Columns with distinct names have distinct properties exactly where the properties that are moved
aside find room among the others (`Deployment.separatesColumns_iff`). They always do where
properties are written in a style. Without one, the property of a column `add` is the property of
a column `add_` (`Deployment.columns_meet_ledger`), and objects keep what was read for the later of
the two.
-/

namespace DataAccess

/-- The field of an object that a statement stores a value under. -/
def Code.Stmt.assignedField? : Code.Stmt → Option String
  | .assign (.field _ name) _ => some name
  | _ => none

/-- The fields that a method stores values under, in the order in which it does. -/
def Code.Method.assignedFields (method : Code.Method) : List String :=
  method.body.filterMap Code.Stmt.assignedField?

theorem Entries.last?_append {α : Type _} (name : String) (front back : List (String × α)) :
    last? name (front ++ back) = (last? name back).or (last? name front) := by
  induction front with
  | nil => rw [List.nil_append, last?, Option.or_none]
  | cons pair rest ih =>
      obtain ⟨key, value⟩ := pair
      rw [List.cons_append, last?, last?, ih, Option.or_assoc]

namespace Members

open Code Naming Schema Evaluation

/-- Of the items that share a name, one is the last. -/
theorem exists_last_of_not_nodup {α β : Type} {name : α → β} {items : List α}
    (meet : ¬ (items.map name).Nodup) :
    ∃ front first between last back,
      items = front ++ first :: (between ++ last :: back) ∧ name first = name last ∧
        name last ∉ back.map name := by
  induction items with
  | nil => exact absurd List.nodup_nil meet
  | cons item rest ih =>
      by_cases later : (rest.map name).Nodup
      · have again : name item ∈ rest.map name := by
          by_contra fresh
          exact meet (List.nodup_cons.mpr ⟨fresh, later⟩)
        obtain ⟨last, found, same⟩ := List.mem_map.mp again
        obtain ⟨between, back, rfl⟩ := List.append_of_mem found
        refine ⟨[], item, between, last, back, rfl, same.symm, ?_⟩
        rw [List.map_append, List.map_cons] at later
        exact (List.nodup_cons.mp (List.nodup_append.mp later).2.1).1
      · obtain ⟨front, first, between, last, back, rfl, same, none⟩ := ih later
        exact ⟨item :: front, first, between, last, back, rfl, same, none⟩

namespace Plan

variable (plan : Plan)

/-- What columns are called where no name is moved aside. -/
def plainNames (columns : List Column) : List String :=
  columns.map fun column => plan.naming.propertyName column.name

theorem areWords_isTaken : AreWords plan.isTaken := by
  intro name taken
  have words : AreWords (objectMethodNames ++ [connectionName]).contains :=
    areWords_contains (by decide)
  refine words name (List.contains_iff_mem.mpr ?_)
  rcases Bool.or_eq_true_iff.mp taken with method | link
  · exact List.mem_append_left _ (List.contains_iff_mem.mp method)
  · obtain ⟨-, same⟩ := Bool.and_eq_true_iff.mp link
    exact List.mem_append_right _ (List.mem_singleton.mpr (beq_iff_eq.mp same))

theorem map_propertyName (columns : List Column) :
    columns.map plan.propertyName = (plan.plainNames columns).map (moved plan.isTaken) := by
  rw [plainNames, List.map_map]
  rfl

/-- Names in a style leave room. -/
theorem leavesRoom_plainNames {taken : String → Bool} (words : AreWords taken) {style : CaseStyle}
    (styled : plan.naming.properties = some style) (columns : List Column) :
    LeavesRoom taken (plan.plainNames columns) := by
  refine leavesRoom_of_style words style fun name member => ?_
  obtain ⟨column, -, rfl⟩ := List.mem_map.mp member
  exact ⟨column.name, by rw [Convention.propertyName, styled]⟩

/-- The method that makes objects from rows stores one field after another for the columns. -/
theorem assignedFields_fromRecord :
    plan.fromRecord.assignedFields = plan.table.columns.map plan.propertyName := by
  have stored : (plan.table.columns.map fun column =>
      Stmt.assign (.field (.var "instance") (plan.propertyName column))
        (hydratedValue column)).filterMap Stmt.assignedField? =
      plan.table.columns.map plan.propertyName := by
    rw [List.filterMap_map]
    exact congrFun (@List.filterMap_eq_map _ _ plan.propertyName) _
  rw [Method.assignedFields, fromRecord, fromRecordBody, List.cons_append, List.filterMap_cons,
    List.filterMap_append, stored]
  exact List.append_nil _

end Plan

namespace Deployment

variable {site : Deployment}

/-- What a class keeps for every column of its table. -/
structure SeparatesColumns (site : Deployment) : Prop where
  names : (site.table.columns.map site.plan.propertyName).Nodup
  /-- One property for every column, in order, and nothing but the connection besides. -/
  properties : site.recordClass.properties =
    site.plan.columnProperties ++ if site.plan.isBound then [Plan.connectionProperty] else []
  /-- The method that makes objects from rows is in the class and stores every column under a field
  of its own. -/
  assigned : ∃ method ∈ site.recordClass.methods, method.name = fromRecordName ∧
    method.assignedFields.length = site.table.columns.length ∧ method.assignedFields.Nodup
  /-- Objects hold under every property what was read for its column, and their connection. -/
  hydrated : ∀ {link record : Value} {values : List Value} (log : Log),
    site.table.columns.mapM (readFrom record) = .ok values →
      site.scene.callStatic fromRecordName (site.plan.fromRecordArgs link record) log =
        .ok (.object site.plan.className
          ((site.table.columns.map site.plan.propertyName).zip values ++ site.linkFields link)) log

/-- For some column, objects hold what was read for another one. -/
def LosesColumn (site : Deployment) : Prop :=
  ∃ lost ∈ site.table.columns, ∃ keeper ∈ site.table.columns, lost ≠ keeper ∧
    ∀ {link record object : Value} {before after : Log},
      site.scene.callStatic fromRecordName (site.plan.fromRecordArgs link record) before =
          .ok object after →
        ∃ value, readFrom record keeper = .ok value ∧
          fieldIn (site.plan.propertyName lost) object = .ok value

/-- An object holds under a property what was read for the last column that has it. -/
theorem fieldIn_objectOf_of_last {link record object : Value} {front back : List Column}
    {column : Column} (split : site.table.columns = front ++ column :: back)
    (last : site.plan.propertyName column ∉ back.map site.plan.propertyName)
    (made : site.objectOf link record = .ok object) :
    ∃ value, readFrom record column = .ok value ∧
      fieldIn (site.plan.propertyName column) object = .ok value := by
  obtain ⟨values, read, rfl⟩ := objectOf_eq_ok made
  have placed := forall₂_of_mapM read
  rw [split] at placed
  obtain ⟨before, value, behind, rfl, earlier, here⟩ := exists_append_of_forall₂ placed
  refine ⟨value, here, ?_⟩
  have pairs : (site.table.columns.map site.plan.propertyName).zip (before ++ value :: behind) =
      (front.map site.plan.propertyName).zip before ++
        (site.plan.propertyName column, value) ::
          (back.map site.plan.propertyName).zip behind := by
    rw [split, List.map_append, List.map_cons, List.zip_append, List.zip_cons_cons]
    rw [List.length_map, earlier.length_eq]
  have later : Entries.last? (site.plan.propertyName column)
      ((back.map site.plan.propertyName).zip behind) = none := by
    refine Entries.last?_eq_none_iff.mpr fun member => last ?_
    obtain ⟨pair, paired, same⟩ := List.mem_map.mp member
    exact same ▸ (List.of_mem_zip paired).1
  rw [fieldIn, Plan.storedIn, Entries.find?_storeAll, pairs, Entries.last?_append, Entries.last?,
    later, if_pos rfl, Option.none_or, Option.some_or, Option.some_or, Option.getD_some]

/-- Where two columns have one property, the later one has it. -/
theorem losesColumn_of_not_nodup
    (distinct : (site.plan.plainNames site.table.columns).Nodup)
    (meet : ¬ (site.table.columns.map site.plan.propertyName).Nodup) : site.LosesColumn := by
  have columns : site.table.columns.Nodup := List.Nodup.of_map _ distinct
  obtain ⟨front, lost, between, keeper, back, split, same, last⟩ :=
    exists_last_of_not_nodup meet
  have behind : site.table.columns = (front ++ lost :: between) ++ keeper :: back := by
    rw [split, List.append_assoc, List.cons_append]
  refine ⟨lost, by simp [split], keeper, by simp [split], ?_, fun called => ?_⟩
  · rintro rfl
    rw [behind] at columns
    exact (List.nodup_append.mp columns).2.2 lost (by simp) lost List.mem_cons_self rfl
  · rw [same]
    exact fieldIn_objectOf_of_last behind last (callStatic_fromRecord_eq_ok_iff.mp called).1

/-- **A class keeps the columns apart exactly where moved properties find room**, and elsewhere its
objects lose a column. In a style there is always room. -/
theorem separatesColumns_iff (site : Deployment)
    (distinct : (site.plan.plainNames site.table.columns).Nodup) :
    (site.SeparatesColumns ↔
      LeavesRoom site.plan.isTaken (site.plan.plainNames site.table.columns)) ∧
    (¬ site.SeparatesColumns → site.LosesColumn) ∧
    ∀ style, site.assembler.naming.properties = some style → site.SeparatesColumns := by
  have apart : (site.table.columns.map site.plan.propertyName).Nodup ↔
      LeavesRoom site.plan.isTaken (site.plan.plainNames site.table.columns) := by
    rw [Plan.map_propertyName]
    exact nodup_map_moved_iff site.plan.areWords_isTaken distinct
  have separates (names : (site.table.columns.map site.plan.propertyName).Nodup) :
      site.SeparatesColumns := by
    have fields : site.plan.fromRecord.assignedFields =
        site.table.columns.map site.plan.propertyName := site.plan.assignedFields_fromRecord
    refine ⟨names, properties_eq names, ⟨site.plan.fromRecord, fromRecord_mem, rfl, ?_⟩, ?_⟩
    · rw [fields, List.length_map]
      exact ⟨rfl, names⟩
    · intro link record values log read
      rw [callStatic_fromRecord, objectOf_eq names, read]
      rfl
  refine ⟨⟨fun kept => apart.mp kept.names, fun room => separates (apart.mpr room)⟩,
    fun not => losesColumn_of_not_nodup distinct fun names => not (separates names),
    fun style styled => separates (apart.mpr ?_)⟩
  exact site.plan.leavesRoom_plainNames site.plan.areWords_isTaken styled _

theorem separatesColumns_visits :
    (visits.plan.plainNames visits.table.columns).Nodup ∧ visits.SeparatesColumns := by
  have distinct : (visits.plan.plainNames visits.table.columns).Nodup := by decide
  exact ⟨distinct, (separatesColumns_iff visits distinct).1.mpr (by decide)⟩

/-- Entries with an amount that is called like a method, and one that is called like its
property. -/
def ledgerTable : Table :=
  { schema := "shop"
    name := "ledger"
    columns :=
      [ { name := "id", nativeType := "int", extendedType := "int", nullable := false,
          comment := "", isPrimary := true },
        { name := "add", nativeType := "int", extendedType := "int", nullable := false,
          comment := "", isPrimary := false },
        { name := "add_", nativeType := "int", extendedType := "int", nullable := false,
          comment := "", isPrimary := false } ]
    primaryKey := [0]
    loaded := true }

def ledger : Deployment :=
  { assembler := {}, table := ledgerTable, target := {} }

def ledgerRow : Database.Row :=
  ⟨[("id", .int 7), ("add", .int 1), ("add_", .int 2)]⟩

/-- Two columns with different names can have one property, and then the value of the first one is
lost. -/
theorem columns_meet_ledger :
    Catalog.Loaded ledger.table ∧ (ledger.plan.plainNames ledger.table.columns).Nodup ∧
      ledger.table.columns.map ledger.plan.propertyName = ["id", "add_", "add_"] ∧
      ledger.recordClass.properties.map (·.name) = ["id", "add_"] ∧
      (∀ log, ledger.scene.callStatic fromRecordName
          (ledger.plan.fromRecordArgs .connection (Value.ofRow ledgerRow)) log =
        .ok (.object "ledger" [("id", .int 7), ("add_", .int 2)]) log) ∧
      ¬ ledger.SeparatesColumns := by
  have built : ledgerTable =
      (Table.ofColumns "shop" "ledger" ledgerTable.columns).withPrimaryKey ["id"] := by rfl
  have loaded : Catalog.Loaded ledger.table := by
    rw [show ledger.table = ledgerTable from rfl, built]
    exact .withPrimaryKey ["id"] (.ofColumns _ _ _)
  have names : ledger.table.columns.map ledger.plan.propertyName = ["id", "add_", "add_"] := by
    decide
  have properties : ledger.recordClass.properties.map (·.name) = ["id", "add_"] := by
    rw [RecordClass.properties, members_eq]
    rfl
  refine ⟨loaded, by decide, names, properties, fun log => ?_, fun kept => ?_⟩
  · refine callStatic_fromRecord_eq_ok_iff.mpr ⟨?_, rfl⟩
    rfl
  · have distinct := kept.names
    rw [names] at distinct
    exact absurd distinct (by decide)

end Deployment

end Members

end DataAccess
