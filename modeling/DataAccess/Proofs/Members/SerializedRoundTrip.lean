import DataAccess.Proofs.Entries.Stored
import DataAccess.Proofs.Members.RoundTrip
import DataAccess.Proofs.Members.Serialization

/-!
# Serializing an object and reading it back

Where property names are not restyled and no name of a column needs cleaning, an object is
serialized under the names of its columns. So what was serialized is a row, and the object that is
made from that row is the same again (`Deployment.fromRecord_serialize`), although its moments were
text in between.
-/

namespace DataAccess.Members

open Code Schema Evaluation

namespace Plan

variable {plan : Plan} {this : Value}

/-- Serialized columns stand under their keys in the order of the columns. -/
theorem mapM_serializedEntry {columns : List Column} {values : List Value}
    (placed : List.Forall₂
      (fun column value => plan.writtenProperty .iso this column = .ok value) columns values) :
    columns.mapM (plan.serializedEntry this) =
      .ok ((columns.map plan.serializedKey).zip values) := by
  induction placed with
  | nil => rfl
  | @cons column value columns values writes _ ih =>
      have entry : plan.serializedEntry this column = .ok (plan.serializedKey column, value) := by
        obtain ⟨held, found, written⟩ := bind_eq_ok writes
        rw [serializedEntry, found, ok_bind, written]
        rfl
      rw [List.mapM_cons, entry, ih]
      rfl

/-- The serialized form has one entry for each column, under the name of the column. -/
theorem serialized_eq {values : List Value} (keys : plan.table.columns.map plan.serializedKey =
      plan.columnNames) (distinct : plan.columnNames.Nodup)
    (writes : plan.table.columns.mapM (plan.writtenProperty .iso this) = .ok values) :
    plan.serialized this = .ok (.map (plan.columnNames.zip values)) := by
  have placed := forall₂_of_mapM writes
  have lengths : values.length = plan.table.columns.length := placed.length_eq.symm
  have names : (plan.columnNames.zip values).map Prod.fst = plan.columnNames :=
    Entries.map_fst_zip_map lengths
  have stored : Entries.ofList (plan.columnNames.zip values) = plan.columnNames.zip values :=
    Entries.ofList_of_nodup (by rw [names]; exact distinct)
  rw [serialized, mapM_serializedEntry placed, keys, ok_bind, stored]
  rfl

end Plan

namespace Deployment

/-- **Serializing an object and reading it back gives the same object.** Take any object that was
made from a row, where property names are the names of the columns as they are, properties are
distinct, and moments fall on milliseconds. It is serialized as a map with one entry for each
column, under the names of the columns and in their order, and the object made from this map is the
one that was serialized. Neither step sends a request. -/
theorem fromRecord_serialize (site : Deployment) {link record object : Value} {before after : Log}
    (plain : site.plan.naming.properties = none)
    (clean : ∀ column ∈ site.table.columns, Naming.sanitize column.name = column.name)
    (distinct : (site.table.columns.map site.plan.propertyName).Nodup)
    (made : site.scene.callStatic fromRecordName (site.plan.fromRecordArgs link record) before =
      .ok object after)
    (exact : site.plan.KeepsMoments .iso object) :
    ∃ values : List Value, values.length = site.table.columns.length ∧
      (∀ log, site.scene.callOnObject object "serialize" [] log =
        .ok (.map (site.plan.columnNames.zip values), object) log) ∧
      ∀ log, site.scene.callStatic fromRecordName
          (site.plan.fromRecordArgs link (.map (site.plan.columnNames.zip values))) log =
        .ok object log := by
  obtain ⟨hydrated, -⟩ := callStatic_fromRecord_eq_ok_iff.mp made
  obtain ⟨values, writes⟩ : ∃ values,
      site.table.columns.mapM (site.plan.writtenProperty .iso object) = .ok values := by
    refine mapM_succeeds fun column member => ?_
    obtain ⟨written, writes, -⟩ := readAs_writtenProperty distinct hydrated exact member
    exact ⟨written, writes⟩
  have keys : site.table.columns.map site.plan.serializedKey = site.plan.columnNames := by
    refine List.map_congr_left fun column member => ?_
    have unstyled : site.plan.serializedKey column = Naming.sanitize column.name := by
      rw [Plan.serializedKey, Naming.Convention.propertyName, plain]
      rfl
    rw [unstyled, clean column member]
  have form := Plan.serialized_eq keys (nodup_names distinct) writes
  have member : site.plan.serialize ∈ site.recordClass.methods :=
    mem_methods_of_offered .serialize rfl (List.mem_singleton_self _) (by simp [Plan.namedMethods])
  have called := callOnObject_of_mem member object []
  rw [Plan.invoke_serialize, form] at called
  refine ⟨values, (forall₂_of_mapM writes).length_eq.symm, fun log => ?_, fun log => ?_⟩
  · exact congrFun called log
  · exact callStatic_fromRecord_eq_ok_iff.mpr ⟨objectOf_zip distinct hydrated exact writes, rfl⟩

theorem fromRecord_serialize_visits :
    ∃ values : List Value, values.length = 3 ∧
      (∀ log, visits.scene.callOnObject visit "serialize" [] log =
        .ok (.map (visits.plan.columnNames.zip values), visit) log) ∧
      ∀ log, visits.scene.callStatic fromRecordName
          (visits.plan.fromRecordArgs .connection (.map (visits.plan.columnNames.zip values))) log =
        .ok visit log := by
  have clean : ∀ column ∈ visits.table.columns, Naming.sanitize column.name = column.name := by
    decide
  have exact : visits.plan.KeepsMoments .iso visit := by
    intro column member temporal moment held
    have columns : column ∈ visitsTable.columns := member
    simp only [visitsTable, List.mem_cons, List.not_mem_nil, or_false] at columns
    rcases columns with rfl | rfl | rfl
    · exact absurd temporal (by decide)
    · cases held
      exact (by decide : visitMoment.IsMilli)
    · exact absurd temporal (by decide)
  have made : visits.scene.callStatic fromRecordName
      (visits.plan.fromRecordArgs .connection (Value.ofRow visitRow)) [] = .ok visit [] :=
    callStatic_fromRecord_eq_ok_iff.mpr ⟨objectOf_visitRow, rfl⟩
  exact fromRecord_serialize visits rfl clean (by decide) made exact

end Deployment

end DataAccess.Members
