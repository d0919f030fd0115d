import DataAccess.Proofs.Members.Assembled
import DataAccess.Proofs.Naming.Identifiers
import DataAccess.Proofs.TypeScript.PrintedNames

/-!
# Names in generated code

All names in the members of a class come from the generators and from identifiers, whatever the
catalog holds. So neither a comment nor a literal begins in any of them, if none does in the name
that was chosen for the class (`Plan.areOrdinary_of_mem`).
-/

namespace DataAccess.Members

open Code Naming Schema TypeScript

/-- Neither a comment nor a literal begins in an identifier. -/
theorem isOrdinary_of_isIdentifier {name : String} (chars : IsIdentifier name.toList) :
    IsOrdinary name :=
  isOrdinary_iff.mpr fun c member => isOrdinary_of_class (by decide) (chars c member)

/-- A name stays ordinary when it makes way. -/
theorem isOrdinary_aside {taken : Bool} {name : String} (ordinary : IsOrdinary name) :
    IsOrdinary (aside taken name) := by
  cases taken with
  | true => exact ordinary.append (by decide)
  | false => exact ordinary

/-- The types of columns name no classes. -/
theorem typeNames_ofSemantic (type : SemanticType) :
    typeNames (Ty.ofSemantic type) = [] ∧ typeNames (Ty.ofSemantic type).orNull = [] := by
  cases type <;> exact ⟨rfl, rfl⟩

/-- The types of properties name no classes. -/
theorem typeNames_propertyType (column : Column) : typeNames (Plan.propertyType column) = [] := by
  obtain ⟨plain, orNull⟩ := typeNames_ofSemantic column.semanticType
  rw [Plan.propertyType]
  split
  · exact orNull
  · exact plain

/-- The names in the arguments of a call, one after another. -/
def OrdinaryArgs (args : List Expr) : Prop :=
  ∀ part ∈ Expr.partsOfAll args, AreOrdinary (ownNames part)

/-- Arguments are ordinary where each is for its column. -/
theorem ordinaryArgs_map {columns : List Column} {value : Column → Expr}
    (each : ∀ column, AreOrdinary (exprNames (value column))) :
    OrdinaryArgs (columns.map value) := by
  intro part member
  rw [Expr.partsOfAll_eq] at member
  obtain ⟨arg, inArgs, inside⟩ := List.mem_flatMap.mp member
  obtain ⟨column, -, rfl⟩ := List.mem_map.mp inArgs
  exact areOrdinary_flatMap.mp (each column) part inside

/-- Writing a value adds no names to those of the value. -/
theorem areOrdinary_writtenValue (form : TimestampForm) (column : Column) {value : Expr}
    (names : AreOrdinary (exprNames value)) :
    AreOrdinary (exprNames (writtenValue form column value)) := by
  rw [exprNames] at names
  rw [writtenValue, nullGuarded]
  split
  · split <;> simpa [exprNames, Expr.parts, ownNames] using names
  · exact names

/-- Reading the value of a column adds no names. -/
theorem areOrdinary_hydratedValue (column : Column) :
    AreOrdinary (exprNames (hydratedValue column)) := by
  have record : IsOrdinary "record" := by decide
  rw [hydratedValue, nullGuarded]
  split <;> split <;>
    simp [exprNames, Expr.parts, ownNames, record, typeNames_ofSemantic]

namespace Plan

variable (plan : Plan)

/-- Properties have ordinary names. -/
theorem isOrdinary_propertyName (column : Column) : IsOrdinary (plan.propertyName column) :=
  isOrdinary_aside (isOrdinary_of_isIdentifier (isIdentifier_identifier _ _))

/-- Parameters of keys have ordinary names. -/
theorem isOrdinary_keyParamName (column : Column) : IsOrdinary (plan.keyParamName column) :=
  isOrdinary_aside (plan.isOrdinary_propertyName column)

/-- Accessors over keys have ordinary names. -/
theorem isOrdinary_keyFetcherName (columns : List Column) :
    IsOrdinary (plan.keyFetcherName columns) :=
  isOrdinary_of_isIdentifier (isIdentifier_identifier _ _)

/-- The arguments for keys have ordinary names. -/
theorem ordinaryArgs_keyArgs (columns : List Column) : OrdinaryArgs (plan.keyArgs columns) := by
  refine ordinaryArgs_map fun column => areOrdinary_writtenValue .sql column ?_
  exact areOrdinary_cons.mpr ⟨plan.isOrdinary_keyParamName column, areOrdinary_nil⟩

theorem areOrdinary_ownProperty (column : Column) :
    AreOrdinary (exprNames (.field .this (plan.propertyName column))) :=
  areOrdinary_cons.mpr ⟨plan.isOrdinary_propertyName column, areOrdinary_nil⟩

/-- The arguments for properties have ordinary names. -/
theorem ordinaryArgs_propertyArgs (columns : List Column) :
    OrdinaryArgs (plan.propertyArgs columns) :=
  ordinaryArgs_map fun column =>
    areOrdinary_writtenValue .sql column (plan.areOrdinary_ownProperty column)

theorem areOrdinary_keyParams (columns : List Column) :
    AreOrdinary ((plan.keyParams columns).flatMap paramNames) := by
  refine areOrdinary_flatMap.mpr fun param member => ?_
  obtain ⟨column, -, rfl⟩ := List.mem_map.mp member
  simp [paramNames, plan.isOrdinary_keyParamName column, typeNames_propertyType]

variable {plan}

/-- The body of a fetcher of one record has ordinary names. -/
theorem areOrdinary_fetchOneBody {args : List Expr} (ordinary : OrdinaryArgs args)
    (sql : String) : AreOrdinary (bodyNames (plan.fetchOneBody sql args)) := by
  rw [OrdinaryArgs] at ordinary
  cases bound : plan.isBound <;>
    simpa +decide [fetchOneBody, queryRows, hydrated, bound, bodyNames, stmtNames, exprNames,
      Expr.parts, Expr.partsOfAll, ownNames] using ordinary

/-- The body of a fetcher of a page has ordinary names. -/
theorem areOrdinary_fetchPageBody (isName : IsOrdinary plan.className) {args : List Expr}
    (ordinary : OrdinaryArgs args) (sql : String) :
    AreOrdinary (bodyNames (plan.fetchPageBody sql args)) := by
  rw [OrdinaryArgs] at ordinary
  cases bound : plan.isBound <;>
    simpa +decide [fetchPageBody, pageStep, queryRows, hydrated, bound, bodyNames, stmtNames,
      exprNames, Expr.parts, Expr.partsOfAll, ownNames, typeNames, classType, isName]
      using ordinary

theorem areOrdinary_countBody : AreOrdinary (bodyNames plan.countBody) := by
  simp +decide [countBody, queryRows, bodyNames, stmtNames, exprNames, Expr.parts,
    Expr.partsOfAll, ownNames, typeNames]

/-- A mutator has ordinary names. -/
theorem areOrdinary_mutator {name : String} (named : IsOrdinary name) (description : String)
    (statement : Sql.Statement) {args : List Expr} (ordinary : OrdinaryArgs args) :
    AreOrdinary (memberNames (.method (plan.mutator name description statement args))) := by
  rw [OrdinaryArgs] at ordinary
  cases bound : plan.isBound <;>
    simpa +decide [mutator, mutatorParams, ownConnection, bound, memberNames, paramNames,
      connectionParam, bodyNames, stmtNames, exprNames, Expr.parts, Expr.partsOfAll, ownNames,
      typeNames, named] using ordinary

/-- A fetcher has ordinary names where its parts do. -/
theorem areOrdinary_fetcher {name description : String} (named : IsOrdinary name)
    {params : List Parameter} (declared : AreOrdinary (params.flatMap paramNames)) {returns : Ty}
    (result : AreOrdinary (typeNames returns)) {body : List Stmt}
    (names : AreOrdinary (bodyNames body)) :
    AreOrdinary (memberNames (.method (plan.fetcher name description params returns body))) := by
  rw [areOrdinary_flatMap] at declared
  simpa [fetcher, memberNames, named, result, names] using declared

/-- A fetcher of pages has ordinary names. -/
theorem areOrdinary_pageFetcher (isName : IsOrdinary plan.className) {name : String}
    (named : IsOrdinary name) (description : String) (defaultCount : Int64)
    (columns : List Column) :
    AreOrdinary
      (memberNames (.method (plan.pageFetcher name description defaultCount columns))) := by
  have keys := plan.areOrdinary_keyParams columns
  have page : AreOrdinary ((pageParams defaultCount).flatMap paramNames) := by
    simp +decide [pageParams, paramNames, exprNames, Expr.parts, ownNames, typeNames]
  have connection : AreOrdinary (paramNames connectionParam) := by decide
  refine areOrdinary_fetcher named ?_ ?_
    (areOrdinary_fetchPageBody isName (plan.ordinaryArgs_keyArgs columns) _)
  · rw [List.cons_append, List.flatMap_cons, List.flatMap_append]
    exact areOrdinary_append.mpr ⟨connection, areOrdinary_append.mpr ⟨keys, page⟩⟩
  · exact areOrdinary_cons.mpr ⟨isName, areOrdinary_nil⟩

/-- A fetcher of one record has ordinary names. -/
theorem areOrdinary_keyFetcher (isName : IsOrdinary plan.className) (description : String)
    (columns : List Column) :
    AreOrdinary (memberNames (.method (plan.keyFetcher description columns))) := by
  have keys := plan.areOrdinary_keyParams columns
  have connection : AreOrdinary (paramNames connectionParam) := by decide
  refine areOrdinary_fetcher (plan.isOrdinary_keyFetcherName columns) ?_ ?_
    (areOrdinary_fetchOneBody (plan.ordinaryArgs_keyArgs columns) _)
  · rw [List.flatMap_cons]
    exact areOrdinary_append.mpr ⟨connection, keys⟩
  · exact areOrdinary_cons.mpr ⟨isName, areOrdinary_nil⟩

/-- The method that makes objects from rows has ordinary names. -/
theorem areOrdinary_fromRecord (isName : IsOrdinary plan.className) :
    AreOrdinary (memberNames (.method plan.fromRecord)) := by
  have assigned (columns : List Column) : AreOrdinary (bodyNames (columns.map fun column =>
      .assign (.field (.var "instance") (plan.propertyName column)) (hydratedValue column))) := by
    induction columns with
    | nil => exact areOrdinary_nil
    | cons column rest ih =>
        have target : AreOrdinary
            (exprNames (.field (.var "instance") (plan.propertyName column))) := by
          simp +decide [exprNames, Expr.parts, ownNames, plan.isOrdinary_propertyName column]
        rw [List.map_cons, bodyNames, stmtNames]
        exact areOrdinary_append.mpr
          ⟨areOrdinary_append.mpr ⟨target, areOrdinary_hydratedValue column⟩, ih⟩
  have body : AreOrdinary (bodyNames plan.fromRecordBody) := by
    rw [fromRecordBody, List.cons_append, bodyNames, bodyNames_append]
    refine areOrdinary_append.mpr ⟨?_, areOrdinary_append.mpr ⟨assigned _, by decide⟩⟩
    cases plan.isBound <;>
      simp +decide [stmtNames, exprNames, Expr.parts, Expr.partsOfAll, ownNames, isName]
  cases bound : plan.isBound <;>
    simp +decide [fromRecord, fromRecordParams, bound, memberNames, paramNames, connectionParam,
      typeNames, classType, isName, body]

theorem areOrdinary_serialize : AreOrdinary (memberNames (.method plan.serialize)) := by
  have value (column : Column) : AreOrdinary (exprNames (plan.serializedValue column)) := by
    rw [serializedValue]
    exact areOrdinary_writtenValue .iso column (plan.areOrdinary_ownProperty column)
  have form : AreOrdinary (exprNames (.map (plan.table.columns.map fun column =>
      (plan.serializedKey column, plan.serializedValue column)))) := by
    rw [exprNames_eq, Expr.children, List.map_map]
    refine areOrdinary_append.mpr ⟨areOrdinary_nil, areOrdinary_flatMap.mpr fun child member => ?_⟩
    obtain ⟨column, -, rfl⟩ := List.mem_map.mp member
    simpa only [Function.comp_apply] using value column
  simp +decide [serialize, memberNames, typeNames, bodyNames, stmtNames, form]

theorem areOrdinary_connectionConstructor :
    AreOrdinary (memberNames (.method plan.connectionConstructor)) := by
  simp +decide [connectionConstructor, memberNames, paramNames, connectionParam, bodyNames,
    stmtNames, exprNames, Expr.parts, ownNames, typeNames]

/-- **Every name in a generated method is an identifier**, if the name of the class is one. -/
theorem areOrdinary_generated (isName : IsOrdinary plan.className) {method : Method}
    (generated : plan.Generates method) : AreOrdinary (memberNames (.method method)) := by
  cases generated with
  | constructor bound => exact areOrdinary_connectionConstructor
  | all => exact areOrdinary_pageFetcher isName (by decide) _ _ []
  | count =>
      exact areOrdinary_fetcher (by decide) (by decide) (by decide) areOrdinary_countBody
  | key description columns => exact areOrdinary_keyFetcher isName description columns
  | keyPage description columns =>
      exact areOrdinary_pageFetcher isName (plan.isOrdinary_keyFetcherName columns) _ _ columns
  | add => exact areOrdinary_mutator (by decide) _ _ (plan.ordinaryArgs_propertyArgs _)
  | delete => exact areOrdinary_mutator (by decide) _ _ (plan.ordinaryArgs_propertyArgs _)
  | update =>
      refine areOrdinary_mutator (by decide) _ _ ?_
      rw [propertyArgs, propertyArgs, ← List.map_append]
      exact plan.ordinaryArgs_propertyArgs _
  | fromRecord => exact areOrdinary_fromRecord isName
  | serialize => exact areOrdinary_serialize

/-- The names in a member are identifiers as well. -/
theorem areOrdinary_of_mem (isName : IsOrdinary plan.className) {part : Part} {member : Member}
    (found : member ∈ part.members plan) : AreOrdinary (memberNames member) := by
  rcases property_or_generates found with ⟨item, rfl, -⟩ | ⟨method, rfl, generated⟩
  · cases counterparts_self found with
    | @property column inTable =>
        simp [memberNames, columnProperty, plan.isOrdinary_propertyName column,
          typeNames_propertyType]
    | connection bound => decide
  · exact areOrdinary_generated isName generated

end Plan

end DataAccess.Members
