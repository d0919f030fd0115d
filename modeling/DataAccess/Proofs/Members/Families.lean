import DataAccess.Proofs.Members.RoundTrip

/-!
# The two families of a class

The class of a table in the bound family has what the class in the static family has, and a property
and a constructor for the connection. All other members are twins, in the same order
(`Deployment.forall₂_members`): they have the same places and names, and differ at most in where
their code takes the connection from. Which member keeps a name that several members want is decided
in the same way in both families, so a name stands for twins or for nothing
(`Deployment.method?_twins`).
-/

namespace DataAccess.Code

/-- The names of the methods that are called on the class, in order. -/
def RecordClass.staticNames (recordClass : RecordClass) : List String :=
  (recordClass.methods.filter fun method => method.kind = .static).map (·.name)

/-- The static names can be read off the keys. -/
theorem RecordClass.staticNames_eq (recordClass : RecordClass) :
    recordClass.staticNames =
      (recordClass.keys.filter fun key => key.1 = .static).map Prod.snd := by
  rw [staticNames, methods, keys]
  induction recordClass.members with
  | nil => rfl
  | cons member rest ih =>
      cases member with
      | property item => exact ih
      | method item =>
          by_cases static : item.kind = .static <;>
            simpa [List.filterMap_cons, Member.method?, Member.key, Member.scope, Member.name,
              static] using ih

end DataAccess.Code

namespace DataAccess.Members

open Code Schema Evaluation

namespace Deployment

/-- The deployment with a class of the family. -/
def inFamily (site : Deployment) (family : Family) : Deployment :=
  { site with
    assembler := { site.assembler with options := { site.assembler.options with family } } }

/-- The deployment with a class whose methods take the connection. -/
abbrev static (site : Deployment) : Deployment :=
  site.inFamily .static

/-- The deployment with a class whose objects own their connection. -/
abbrev bound (site : Deployment) : Deployment :=
  site.inFamily .bound

/-- No column has a property that is called like the connection. -/
def KeepsClear (site : Deployment) : Prop :=
  ∀ column ∈ site.table.columns,
    site.assembler.naming.propertyName column.name ≠ connectionName

instance (site : Deployment) : Decidable site.KeepsClear := by
  unfold KeepsClear; infer_instance

variable {site : Deployment} {columns : List Column}

/-- Both classes name the property of a column alike. -/
theorem propertyName_bound (clear : site.KeepsClear) {column : Column}
    (known : column ∈ site.table.columns) :
    site.bound.plan.propertyName column = site.static.plan.propertyName column := by
  have differ : (site.assembler.naming.propertyName column.name == connectionName) = false :=
    beq_false_of_ne (clear column known)
  have taken (family : Family) :
      (site.inFamily family).plan.isTaken (site.assembler.naming.propertyName column.name) =
        objectMethodNames.contains (site.assembler.naming.propertyName column.name) := by
    rw [Plan.isTaken, differ, Bool.and_false, Bool.or_false]
  exact congrArg (aside · _) ((taken .bound).trans (taken .static).symm)

/-- Both classes name the properties of columns alike. -/
theorem map_propertyName_bound (clear : site.KeepsClear) (known : columns ⊆ site.table.columns) :
    columns.map site.bound.plan.propertyName = columns.map site.static.plan.propertyName :=
  List.map_congr_left fun _ member => propertyName_bound clear (known member)

/-- Both classes name the parameter of a column alike. -/
theorem keyParamName_bound (clear : site.KeepsClear) {column : Column}
    (known : column ∈ site.table.columns) :
    site.bound.plan.keyParamName column = site.static.plan.keyParamName column := by
  rw [Plan.keyParamName, Plan.keyParamName, propertyName_bound clear known]

/-- Both classes name the parameters of a key alike. -/
theorem map_keyParamName_bound (clear : site.KeepsClear) (known : columns ⊆ site.table.columns) :
    columns.map site.bound.plan.keyParamName = columns.map site.static.plan.keyParamName :=
  List.map_congr_left fun _ member => keyParamName_bound clear (known member)

/-- Both classes name the accessor over a key alike. -/
theorem keyFetcherName_bound (clear : site.KeepsClear) (known : columns ⊆ site.table.columns) :
    site.bound.plan.keyFetcherName columns = site.static.plan.keyFetcherName columns := by
  rw [Plan.keyFetcherName, Plan.keyFetcherName, map_propertyName_bound clear known]
  rfl

/-- Members of the two families that stand for each other. -/
inductive Twins (site : Deployment) : Member → Member → Prop where
  | property (item : Property) (notLink : item.name ≠ connectionName)
      (notConstructor : item.name ≠ constructorName) : Twins site (.property item) (.property item)
  | all : Twins site (.method site.static.plan.allFetcher) (.method site.bound.plan.allFetcher)
  | count :
      Twins site (.method site.static.plan.countFetcher) (.method site.bound.plan.countFetcher)
  | key (description : String) {columns : List Column} (known : columns ⊆ site.table.columns) :
      Twins site (.method (site.static.plan.keyFetcher description columns))
        (.method (site.bound.plan.keyFetcher description columns))
  | keyPage (description : String) {columns : List Column} (known : columns ⊆ site.table.columns) :
      Twins site (.method (site.static.plan.keyPageFetcher description columns))
        (.method (site.bound.plan.keyPageFetcher description columns))
  | add : Twins site (.method site.static.plan.addMutator) (.method site.bound.plan.addMutator)
  | delete :
      Twins site (.method site.static.plan.deleteMutator) (.method site.bound.plan.deleteMutator)
  | update :
      Twins site (.method site.static.plan.updateMutator) (.method site.bound.plan.updateMutator)
  | fromRecord :
      Twins site (.method site.static.plan.fromRecord) (.method site.bound.plan.fromRecord)
  | serialize : Twins site (.method site.static.plan.serialize) (.method site.bound.plan.serialize)

/-- The places and names of what binds objects to their connection. -/
def bindingKeys : List (Scope × String) :=
  [(.ofObject, connectionName), (.ofObject, constructorName)]

/-- Whether a member with the place and name belongs to both families. -/
def isShared (key : Scope × String) : Bool :=
  !bindingKeys.contains key

/-- Static members are in both classes. -/
theorem isShared_static (name : String) : isShared (.static, name) = true := by
  simp [isShared, bindingKeys]

/-- Members of objects are in both classes, but for the connection and its constructor. -/
theorem isShared_ofObject {name : String} :
    isShared (.ofObject, name) = true ↔ name ≠ connectionName ∧ name ≠ constructorName := by
  simp [isShared, bindingKeys]

/-- Twins have one place and name, and it does not belong to one family alone. -/
theorem Twins.keys (clear : site.KeepsClear) {first second : Member}
    (twins : site.Twins first second) :
    ∃ key, first.key = key ∧ second.key = key ∧ isShared key = true := by
  cases twins with
  | property item notLink notConstructor =>
      exact ⟨(.ofObject, item.name), rfl, rfl, isShared_ofObject.mpr ⟨notLink, notConstructor⟩⟩
  | all => exact ⟨(.static, "all"), rfl, rfl, isShared_static _⟩
  | count => exact ⟨(.static, "count"), rfl, rfl, isShared_static _⟩
  | key description known =>
      refine ⟨(.static, site.static.plan.keyFetcherName _), rfl, ?_, isShared_static _⟩
      rw [← keyFetcherName_bound clear known]
      rfl
  | keyPage description known =>
      refine ⟨(.static, site.static.plan.keyFetcherName _), rfl, ?_, isShared_static _⟩
      rw [← keyFetcherName_bound clear known]
      rfl
  | fromRecord => exact ⟨(.static, fromRecordName), rfl, rfl, isShared_static _⟩
  | add => exact ⟨(.ofObject, "add"), rfl, rfl, by decide⟩
  | delete => exact ⟨(.ofObject, "delete"), rfl, rfl, by decide⟩
  | update => exact ⟨(.ofObject, "update"), rfl, rfl, by decide⟩
  | serialize => exact ⟨(.ofObject, "serialize"), rfl, rfl, by decide⟩

/-- Twins have the same name in the same scope. -/
theorem Twins.key_eq (clear : site.KeepsClear) {first second : Member}
    (twins : site.Twins first second) : first.key = second.key := by
  obtain ⟨key, firstKey, secondKey, -⟩ := twins.keys clear
  exact firstKey.trans secondKey.symm

/-- Members with twins are all shared. -/
theorem filter_of_twins (clear : site.KeepsClear) {members others : List Member}
    (twins : List.Forall₂ site.Twins members others) :
    (others.filter fun member => isShared member.key) = others := by
  refine List.filter_eq_self.mpr fun member found => ?_
  obtain ⟨index, bound, rfl⟩ := List.getElem_of_mem found
  obtain ⟨key, -, same, shared⟩ :=
    (twins.get (twins.length_eq ▸ bound) bound).keys clear
  exact (congrArg isShared same).trans shared

/-- The properties of a column are twins. -/
theorem twins_property (clear : site.KeepsClear) {column : Column}
    (known : column ∈ site.table.columns) :
    site.Twins (.property (site.static.plan.columnProperty column))
      (.property (site.bound.plan.columnProperty column)) := by
  have same := propertyName_bound clear known
  have notLink := propertyName_ne_connection site.bound.plan column rfl
  have notConstructor : site.bound.plan.propertyName column ≠ constructorName := by
    intro named
    have taken : constructorName ∈ objectMethodNames := by decide
    rw [← named] at taken
    exact propertyName_notMem site.bound.plan column taken
  have properties : site.static.plan.columnProperty column =
      site.bound.plan.columnProperty column := by
    rw [Plan.columnProperty, Plan.columnProperty, same]
    rfl
  rw [properties]
  exact .property _ notLink notConstructor

/-- The parts of the two classes are twins, but for the one that binds objects. -/
theorem forall₂_part (clear : site.KeepsClear) {part : Part} (shared : part ≠ .constructor) :
    List.Forall₂ site.Twins (part.members site.static.plan) (part.members site.bound.plan) := by
  have known (refs : List ColumnRef) : site.table.columnsOf refs ⊆ site.table.columns :=
    fun _ => mem_columns_of_mem_columnsOf
  have counterparts := @Plan.forall₂_counterparts site.static.plan site.bound.plan rfl part
    fun binds => absurd binds shared
  refine counterparts.imp fun member counterpart made => ?_
  cases made with
  | property inTable => exact twins_property clear inTable
  | connection bound | constructor bound => exact absurd rfl shared
  | all => exact .all
  | count keyed => exact .count
  | primaryKey means keyed => exact .key _ (known _)
  | uniqueKey means inTable => exact .key _ (known _)
  | nonUniqueKey means inTable => exact .keyPage _ (known _)
  | foreignKey means inTable => exact .keyPage _ (known _)
  | add => exact .add
  | delete keyed => exact .delete
  | update keyed => exact .update
  | fromRecord => exact .fromRecord
  | serialize => exact .serialize

/-- **Every member is in both classes but for the ones that bind objects**, in the same order. -/
theorem forall₂_members (clear : site.KeepsClear) :
    List.Forall₂ site.Twins site.static.recordClass.members
      (site.bound.recordClass.members.filter fun member => isShared member.key) := by
  have part (part : Part) :
      List.Forall₂ site.Twins (part.members site.static.plan)
        ((part.members site.bound.plan).filter fun member => isShared member.key) := by
    by_cases binds : part = .constructor
    · subst binds
      exact .nil
    · have twins := forall₂_part clear binds
      rw [filter_of_twins clear twins]
      exact twins
  have offered : List.Forall₂ site.Twins (site.static.plan.offered site.target.mutators)
      ((site.bound.plan.offered site.target.mutators).filter fun member =>
        isShared member.key) := by
    rw [Plan.offered, Plan.offered, List.filter_flatMap]
    refine List.rel_flatMap (@List.forall₂_refl Part Eq _ _) ?_
    rintro enabled _ rfl
    exact part enabled
  have bare : site.static.bare.members =
      site.bound.bare.members.filter fun member => isShared member.key := rfl
  rw [members_recordClass, members_recordClass, ← RecordClass.filter_pushAll bare]
  exact RecordClass.forall₂_pushAll (Twins.key_eq clear) .nil offered

/-- The one class has the shared names of the other, in the same order. -/
theorem keys_static (clear : site.KeepsClear) :
    site.static.recordClass.keys = site.bound.recordClass.keys.filter isShared := by
  rw [RecordClass.keys, RecordClass.keys, List.filter_map]
  exact map_eq_of_forall₂ (forall₂_members clear) (Twins.key_eq clear)

/-- **Both classes have the same static methods.** -/
theorem staticNames_eq (clear : site.KeepsClear) :
    site.static.recordClass.staticNames = site.bound.recordClass.staticNames := by
  have both (key : Scope × String) :
      (decide (key.1 = .static) && isShared key) = decide (key.1 = .static) := by
    obtain ⟨scope, name⟩ := key
    cases scope with
    | static => rw [isShared_static, Bool.and_true]
    | ofObject => rfl
  rw [RecordClass.staticNames_eq, RecordClass.staticNames_eq, keys_static clear, List.filter_filter]
  simp only [both]

/-- Objects of the static class have every property but the connection. -/
theorem properties_static (clear : site.KeepsClear) :
    site.static.recordClass.properties =
      site.bound.recordClass.properties.filter fun item => item.name ≠ connectionName := by
  have alike {first second : Member} (twins : site.Twins first second) :
      first.property? = second.property? := by
    cases twins <;> simp only [Member.property?]
  have same := congrArg (List.filterMap id) (map_eq_of_forall₂ (forall₂_members clear) alike)
  rw [List.filterMap_map, List.filterMap_map, List.filterMap_filter] at same
  rw [RecordClass.properties, RecordClass.properties, List.filter_filterMap]
  refine same.trans (List.filterMap_congr fun member found => ?_)
  cases member with
  | method item => simp [Member.property?]
  | property item =>
      obtain ⟨part, offered⟩ := mem_part_of_mem found
      have notConstructor : item.name ≠ constructorName := by
        rcases Plan.property_or_generates offered with ⟨_, made, free⟩ | ⟨_, made, -⟩
        · cases made
          intro named
          rw [named] at free
          exact free (by decide)
        · cases made
      have shared : isShared (Member.property item).key = decide (item.name ≠ connectionName) := by
        rw [Bool.eq_iff_iff, decide_eq_true_iff]
        exact isShared_ofObject.trans (and_iff_left notConstructor)
      simp only [shared, Member.property?, Function.comp_apply, id_eq, Option.filter_some]

/-- A method of the bound class other than the constructor is in both classes. -/
theorem isShared_method {method : Method} (member : method ∈ site.bound.recordClass.methods)
    (shared : method.name ≠ constructorName) : isShared (Member.method method).key = true := by
  have generated := generates_of_mem member
  by_cases static : method.kind = .static
  · rw [Member.key, Member.scope, if_pos static]
    exact isShared_static method.name
  · rw [Member.key, Member.scope, if_neg static]
    have taken := mt generated.isStatic_iff.mpr static
    refine isShared_ofObject.mpr ⟨fun named => taken ?_, shared⟩
    rw [show method.name = connectionName from named]
    decide

/-- A method of the one class has a twin in the other. -/
theorem exists_twin (clear : site.KeepsClear) {method : Method}
    (member : method ∈ site.static.recordClass.methods) :
    ∃ other ∈ site.bound.recordClass.methods,
      other.name = method.name ∧ site.Twins (.method method) (.method other) := by
  obtain ⟨second, found, twins⟩ :=
    exists_of_mem_left (forall₂_members clear) (RecordClass.mem_methods.mp member)
  cases second with
  | property item => cases twins
  | method other =>
      exact ⟨other, RecordClass.mem_methods.mpr (List.mem_of_mem_filter found),
        congrArg Prod.snd (twins.key_eq clear).symm, twins⟩

/-- A method of the other class has a twin as well, unless it is the constructor. -/
theorem exists_twin_of_bound (clear : site.KeepsClear) {other : Method}
    (member : other ∈ site.bound.recordClass.methods) (shared : other.name ≠ constructorName) :
    ∃ method ∈ site.static.recordClass.methods,
      method.name = other.name ∧ site.Twins (.method method) (.method other) := by
  have inBoth : Member.method other ∈
      site.bound.recordClass.members.filter fun member => isShared member.key :=
    List.mem_filter.mpr ⟨RecordClass.mem_methods.mp member, isShared_method member shared⟩
  obtain ⟨first, found, twins⟩ := exists_of_mem_left (forall₂_members clear).flip inBoth
  cases first with
  | property item => cases twins
  | method method =>
      exact ⟨method, RecordClass.mem_methods.mpr found,
        congrArg Prod.snd (twins.key_eq clear), twins⟩

/-- **A name stands for twins, or for nothing in either class**, but for the constructor. -/
theorem method?_twins (clear : site.KeepsClear) {name : String} (shared : name ≠ constructorName) :
    site.static.recordClass.method? name = none ∧ site.bound.recordClass.method? name = none ∨
      ∃ method other, site.static.recordClass.method? name = some method ∧
        site.bound.recordClass.method? name = some other ∧
          site.Twins (.method method) (.method other) := by
  cases found : site.static.recordClass.method? name with
  | some method =>
      obtain ⟨member, named⟩ := RecordClass.mem_of_method? found
      obtain ⟨other, inBound, sameName, twins⟩ := exists_twin clear member
      have otherFound := method?_of_mem inBound
      rw [sameName, named] at otherFound
      exact Or.inr ⟨method, other, rfl, otherFound, twins⟩
  | none =>
      refine Or.inl ⟨rfl, Option.eq_none_iff_forall_ne_some.mpr fun other otherFound => ?_⟩
      obtain ⟨member, named⟩ := RecordClass.mem_of_method? otherFound
      obtain ⟨method, inStatic, sameName, -⟩ :=
        exists_twin_of_bound clear member (named ▸ shared)
      have methodFound := method?_of_mem inStatic
      rw [sameName, named, found] at methodFound
      cases methodFound

end Deployment

end DataAccess.Members
