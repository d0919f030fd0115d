import DataAccess.Proofs.Members.Hydration
import DataAccess.Proofs.Members.Mutation

/-!
# Writing an object and reading it back

The values that an insertion binds for an object are the row that the object is made from again
(`Deployment.fromRecord_add`). One column is the step: what was read for it is what its property
holds, and what is bound for the property is read as the same value. All columns follow, because
distinct properties keep the columns apart on the way out and their names on the way back.
-/

namespace DataAccess.Members

open Code Schema Evaluation

/-- The arguments of mutators: the connection, unless the object has its own. -/
def Plan.mutatorArgs (plan : Plan) (link : Value) : List Value :=
  if plan.isBound then [] else [link]

/-- No moment in a property of a temporal column has a fraction of a second. -/
def Plan.HoldsWholeMoments (plan : Plan) (object : Value) : Prop :=
  ∀ column ∈ plan.table.columns, column.isTemporal = true →
    ∀ moment, object.member? (plan.propertyName column) = some (.dateTime moment) → moment.IsWhole

/-- The text in a form leaves nothing of the moments in properties of temporal columns out. -/
def Plan.KeepsMoments (form : TimestampForm) (plan : Plan) (object : Value) : Prop :=
  ∀ column ∈ plan.table.columns, column.isTemporal = true →
    ∀ moment, object.member? (plan.propertyName column) = some (.dateTime moment) →
      Keeps form moment

/-- What is written in a form for the property of a column. -/
def Plan.writtenProperty (form : TimestampForm) (plan : Plan) (this : Value) (column : Column) :
    Except EvalError Value := do
  writtenAs form column (← fieldIn (plan.propertyName column) this)

theorem member?_of_fieldIn {name : String} {object value : Value}
    (held : fieldIn name object = .ok value) (present : value ≠ .null) :
    object.member? name = some value := by
  cases object with
  | object className fields =>
      cases found : Entries.find? name fields with
      | none =>
          rw [fieldIn, found] at held
          exact absurd (Except.ok.inj held).symm present
      | some other =>
          rw [fieldIn, found] at held
          rw [Value.member?, found, ← Except.ok.inj held, Option.getD_some]
  | map entries =>
      cases found : Entries.find? name entries with
      | none =>
          rw [fieldIn, found] at held
          exact absurd (Except.ok.inj held).symm present
      | some other =>
          rw [fieldIn, found] at held
          rw [Value.member?, found, ← Except.ok.inj held, Option.getD_some]
  | _ => cases held

theorem mem_columns_of_mem_columnsOf {table : Table} {refs : List ColumnRef} {column : Column}
    (member : column ∈ table.columnsOf refs) : column ∈ table.columns := by
  obtain ⟨ref, -, found⟩ := List.mem_filterMap.mp member
  exact List.mem_of_getElem? found

theorem nodup_names {plan : Plan} {columns : List Column}
    (distinct : (columns.map plan.propertyName).Nodup) : (columns.map (·.name)).Nodup := by
  let rename (name : String) : String :=
    aside (plan.isTaken (plan.naming.propertyName name)) (plan.naming.propertyName name)
  have renamed : columns.map plan.propertyName = (columns.map (·.name)).map rename := by
    rw [List.map_map]
    rfl
  rw [renamed] at distinct
  exact distinct.of_map rename

namespace Deployment

variable {site : Deployment} {link record object : Value}

theorem mutatorLink_objectOf (name : String)
    (made : site.objectOf .connection record = .ok object) :
    site.plan.mutatorLink name object (site.plan.mutatorArgs .connection) = .ok .connection := by
  cases bound : site.plan.isBound with
  | false => simp only [Plan.mutatorLink, Plan.mutatorArgs, bound, Bool.false_eq_true, ↓reduceIte]
  | true =>
      simp only [Plan.mutatorLink, bound, ↓reduceIte]
      exact fieldIn_connection_objectOf bound made

/-- **One column.** What is written for the property of a column is read as the value that was read
for the column before. -/
theorem readAs_writtenProperty {form : TimestampForm}
    (distinct : (site.table.columns.map site.plan.propertyName).Nodup)
    (made : site.objectOf link record = .ok object) (kept : site.plan.KeepsMoments form object)
    {column : Column} (member : column ∈ site.table.columns) :
    ∃ written, site.plan.writtenProperty form object column = .ok written ∧
      readAs column written = readFrom record column := by
  obtain ⟨value, read, held⟩ := fieldIn_objectOf distinct made member
  obtain ⟨cell, -, readCell⟩ := bind_eq_ok read
  have keptValue (temporal : column.isTemporal = true) (moment : Calendar.Timestamp)
      (same : value = .dateTime moment) : Keeps form moment := by
    subst same
    exact kept column member temporal moment (member?_of_fieldIn held nofun)
  obtain ⟨written, writes, again⟩ := readAs_writtenAs readCell keptValue
  refine ⟨written, ?_, again.trans read.symm⟩
  rw [Plan.writtenProperty, held, ok_bind, writes]

/-- A mutator over columns of the table binds a value for each of them. -/
theorem mapM_boundProperty (distinct : (site.table.columns.map site.plan.propertyName).Nodup)
    (made : site.objectOf .connection record = .ok object)
    (whole : site.plan.HoldsWholeMoments object) {columns : List Column}
    (own : ∀ column ∈ columns, column ∈ site.table.columns) :
    ∃ params, columns.mapM (site.plan.boundProperty object) = .ok params := by
  have kept : site.plan.KeepsMoments .sql object := whole
  refine mapM_succeeds fun column member => ?_
  obtain ⟨bound, binds, -⟩ := readAs_writtenProperty distinct made kept (own column member)
  exact ⟨bound, binds⟩

/-- What is written for the columns of an object is the row that the object is made from again. -/
theorem objectOf_zip {form : TimestampForm}
    (distinct : (site.table.columns.map site.plan.propertyName).Nodup)
    (made : site.objectOf link record = .ok object) (kept : site.plan.KeepsMoments form object)
    {values : List Value}
    (writes : site.table.columns.mapM (site.plan.writtenProperty form object) = .ok values) :
    site.objectOf link (.map (site.plan.columnNames.zip values)) = .ok object := by
  have placed := forall₂_of_mapM writes
  have lengths : site.table.columns.length = values.length := placed.length_eq
  have each (column : Column) (member : column ∈ site.table.columns) :
      readFrom (.map (site.plan.columnNames.zip values)) column = readFrom record column := by
    have firsts : (site.table.columns.zip values).map Prod.fst = site.table.columns :=
      List.map_fst_zip (Nat.le_of_eq lengths)
    have found := member
    rw [← firsts] at found
    obtain ⟨⟨column, value⟩, paired, rfl⟩ := List.mem_map.mp found
    -- Names are distinct because properties are, so the row has the written value of this column.
    have cell : cellIn column.name (.map (site.plan.columnNames.zip values)) = .ok value := by
      have found : Entries.find? column.name (site.plan.columnNames.zip values) = some value :=
        Entries.find?_zip_of_mem (nodup_names distinct) lengths.symm paired
      rw [cellIn, found, Option.getD_some]
    obtain ⟨written, writtenSame, again⟩ := readAs_writtenProperty distinct made kept member
    have same : value = written :=
      Except.ok.inj (((List.forall₂_iff_zip.mp placed).2 paired).symm.trans writtenSame)
    rw [readFrom, cell, ok_bind, same, again]
  rw [← made, objectOf, objectOf, mapM_congr each]

/-- The row of the bound values has, for each column, the value that was read before. -/
theorem objectOf_written (distinct : (site.table.columns.map site.plan.propertyName).Nodup)
    (made : site.objectOf .connection record = .ok object)
    (whole : site.plan.HoldsWholeMoments object) {params : List Value}
    (binds : site.table.columns.mapM (site.plan.boundProperty object) = .ok params) :
    site.objectOf .connection (.map (site.plan.columnNames.zip params)) = .ok object := by
  have kept : site.plan.KeepsMoments .sql object := whole
  exact objectOf_zip distinct made kept binds

theorem callOnObject_mutator {name description : String} {statement : Sql.Statement}
    {columns : List Column} {params : List Value}
    (member : site.plan.mutator name description statement (site.plan.propertyArgs columns) ∈
      site.recordClass.methods)
    (made : site.objectOf .connection record = .ok object)
    (binds : columns.mapM (site.plan.boundProperty object) = .ok params) (log : Log) :
    site.scene.callOnObject object name (site.plan.mutatorArgs .connection) log =
      .ok (.bool (decide (0 < site.affected)), object)
        (log ++ [{ kind := .execute, sql := site.plan.sql statement, params }]) := by
  have prepared : site.plan.mutation name statement columns object
      (site.plan.mutatorArgs .connection) =
        .ok { kind := .execute, sql := site.plan.sql statement, params } := by
    rw [Plan.mutation, mutatorLink_objectOf name made, ok_bind, binds, ok_bind]
    rfl
  have called := callOnObject_of_mem member object (site.plan.mutatorArgs .connection)
  rw [Plan.invoke_mutator, prepared, Scene.affected_surroundings] at called
  refine (congrFun called log).trans ?_
  rfl

/-- **Writing an object and reading it back gives the same object.** Take any object that was made
from a row, with distinct properties and whole moments. Its insertion sends one statement with one
value for each column, the row of these values makes the same object, and writing the object back
binds the same values first. -/
theorem fromRecord_add (site : Deployment) {record object : Value} {before after : Log}
    (distinct : (site.table.columns.map site.plan.propertyName).Nodup)
    (enabled : site.target.mutators.add = true)
    (made : site.scene.callStatic fromRecordName
      (site.plan.fromRecordArgs .connection record) before = .ok object after)
    (whole : site.plan.HoldsWholeMoments object) :
    ∃ params : List Value, params.length = site.table.columns.length ∧
      (∀ log, site.scene.callOnObject object "add" (site.plan.mutatorArgs .connection) log =
        .ok (.bool (decide (0 < site.affected)), object)
          (log ++ [{ kind := .execute, sql := site.plan.sql site.plan.insertion, params }])) ∧
      (∀ log, site.scene.callStatic fromRecordName
          (site.plan.fromRecordArgs .connection (.map (site.plan.columnNames.zip params))) log =
        .ok object log) ∧
      ∀ method, site.recordClass.method? "update" = some method →
        ∃ keys, ∀ log,
          site.scene.callOnObject object "update" (site.plan.mutatorArgs .connection) log =
            .ok (.bool (decide (0 < site.affected)), object)
              (log ++ [{ kind := .execute, sql := site.plan.sql site.plan.writeBack,
                         params := params ++ keys }]) := by
  obtain ⟨hydrated, -⟩ := callStatic_fromRecord_eq_ok_iff.mp made
  have keysOwn (column : Column) (key : column ∈ site.table.primaryColumns) :
      column ∈ site.table.columns := mem_columns_of_mem_columnsOf key
  obtain ⟨params, binds⟩ := mapM_boundProperty distinct hydrated whole fun column own => own
  obtain ⟨keys, bindsKeys⟩ := mapM_boundProperty distinct hydrated whole keysOwn
  have bindsBoth : (site.table.columns ++ site.table.primaryColumns).mapM
      (site.plan.boundProperty object) = .ok (params ++ keys) := by
    rw [List.mapM_append, binds, ok_bind, bindsKeys, ok_bind]
    rfl
  refine ⟨params, (forall₂_of_mapM binds).length_eq.symm, fun log => ?_, fun log => ?_,
    fun method found => ⟨keys, fun log => ?_⟩⟩
  · exact callOnObject_mutator (addMutator_mem enabled) hydrated binds log
  · exact callStatic_fromRecord_eq_ok_iff.mpr ⟨objectOf_written distinct hydrated whole binds, rfl⟩
  · obtain ⟨-, member⟩ :=
      eq_of_method? site.plan.updateMutator (by simp [Plan.namedMethods]) found
    rw [Plan.updateMutator_eq] at member
    exact callOnObject_mutator member hydrated bindsBoth log

theorem fromRecord_add_visits :
    ∃ params : List Value, params.length = 3 ∧
      (∀ log, visits.scene.callOnObject visit "add" (visits.plan.mutatorArgs .connection) log =
        .ok (.bool true, visit)
          (log ++ [{ kind := .execute, sql := visits.plan.sql visits.plan.insertion, params }])) ∧
      (∀ log, visits.scene.callStatic fromRecordName
          (visits.plan.fromRecordArgs .connection (.map (visits.plan.columnNames.zip params))) log =
        .ok visit log) ∧
      ∀ method, visits.recordClass.method? "update" = some method →
        ∃ keys, ∀ log,
          visits.scene.callOnObject visit "update" (visits.plan.mutatorArgs .connection) log =
            .ok (.bool true, visit)
              (log ++ [{ kind := .execute, sql := visits.plan.sql visits.plan.writeBack,
                         params := params ++ keys }]) := by
  have whole : visits.plan.HoldsWholeMoments visit := by
    intro column member temporal moment held
    have columns : column ∈ visitsTable.columns := member
    simp only [visitsTable, List.mem_cons, List.not_mem_nil, or_false] at columns
    rcases columns with rfl | rfl | rfl
    · exact absurd temporal (by decide)
    · cases held
      decide
    · exact absurd temporal (by decide)
  have made : visits.scene.callStatic fromRecordName
      (visits.plan.fromRecordArgs .connection (Value.ofRow visitRow)) [] = .ok visit [] :=
    callStatic_fromRecord_eq_ok_iff.mpr ⟨objectOf_visitRow, rfl⟩
  exact fromRecord_add visits (by decide) rfl made whole

end Deployment

end DataAccess.Members
