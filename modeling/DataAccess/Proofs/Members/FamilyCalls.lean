import DataAccess.Proofs.Evaluation.Stripping
import DataAccess.Proofs.Members.Families
import DataAccess.Proofs.Members.Positions

/-!
# Both families behave the same

Whether methods take the connection or objects own it makes no difference to what is recorded and
found (`Deployment.familiesAgree`). Fetchers of both families are exchanges over the same request,
and the objects that they find differ in the connection only. Mutators read properties of columns
from their object, and what they read is the same in both families.
-/

namespace DataAccess.Members

open Code Schema Evaluation

/-- Without one field the others are found as before. -/
theorem fieldIn_withoutField {name other : String} (differ : other ≠ name) (value : Value) :
    fieldIn other (value.withoutField name) = fieldIn other value := by
  cases value with
  | object className fields =>
      rw [Value.withoutField, fieldIn, fieldIn, Entries.find?_erase_of_ne differ]
  | _ => rfl

/-- What is seen of a value where the connection is taken out of its objects. -/
abbrev unlinked (value : Value) : Value :=
  value.stripped connectionName

namespace Deployment

variable {site : Deployment} {columns : List Column}

/-- Objects of one class start with the fields of the other, but for the connection. -/
theorem blankFields_static (clear : site.KeepsClear) :
    site.static.blankFields = Entries.erase connectionName site.bound.blankFields := by
  have erased : Entries.erase connectionName (site.bound.recordClass.properties.map
      fun property => (property.name, Value.null)) =
        site.static.recordClass.properties.map fun property => (property.name, Value.null) := by
    rw [properties_static clear, Entries.erase, List.filter_map]
    rfl
  rw [blankFields, blankFields, ← erased]
  exact (Entries.erase_storeAll connectionName _ []).symm

/-- New objects of one class have the fields of the other, but for the connection. -/
theorem freshFields_static (clear : site.KeepsClear) (other link : Value) :
    site.static.freshFields other =
      Entries.erase connectionName (site.bound.freshFields link) := by
  have unbound : site.static.plan.isBound = false := rfl
  have linked : site.bound.plan.isBound = true := rfl
  rw [freshFields, freshFields, unbound, linked, if_neg Bool.false_ne_true, if_pos rfl,
    Entries.erase_insert_self, blankFields_static clear]

/-- **The objects of a row differ in the connection only.** -/
theorem objectOf_static (clear : site.KeepsClear) (other link record : Value) :
    site.static.objectOf other record =
      Value.withoutField connectionName <$> site.bound.objectOf link record := by
  have names := map_propertyName_bound clear (List.Subset.refl site.table.columns)
  have untouched (values : List Value) :
      Entries.erase connectionName
          ((site.table.columns.map site.bound.plan.propertyName).zip values) =
        (site.table.columns.map site.bound.plan.propertyName).zip values := by
    refine Entries.erase_of_notMem fun taken => ?_
    obtain ⟨entry, paired, named⟩ := List.mem_map.mp taken
    obtain ⟨column, -, same⟩ := List.mem_map.mp (List.of_mem_zip paired).1
    exact propertyName_ne_connection site.bound.plan column rfl (same.trans named)
  have stored (values : List Value) :
      site.static.plan.storedIn site.table.columns values (site.static.freshFields other) =
        Entries.erase connectionName
          (site.bound.plan.storedIn site.table.columns values (site.bound.freshFields link)) := by
    rw [Plan.storedIn, Plan.storedIn, Entries.erase_storeAll, untouched, names,
      freshFields_static clear other link]
  have made (family : Family) (link : Value) :
      (site.inFamily family).objectOf link record = (do
        let values ← site.table.columns.mapM (readFrom record)
        pure (.object site.plan.className
          ((site.inFamily family).plan.storedIn site.table.columns values
            ((site.inFamily family).freshFields link)))) := rfl
  rw [made, made, map_bind]
  refine bind_congr fun values => ?_
  rw [map_pure, Value.withoutField, stored]

/-- Both classes make the same object of a row, but for the connection. -/
theorem unlinked_objectOf (clear : site.KeepsClear) (other link record : Value) :
    unlinked <$> site.static.objectOf other record =
      unlinked <$> site.bound.objectOf link record := by
  rw [objectOf_static clear other link, Functor.map_map]
  simp only [Value.stripped_withoutField]

/-- Both classes make the same objects of the rows, but for the connection. -/
theorem unlinked_objects (clear : site.KeepsClear) (link : Value) :
    List.map unlinked <$> site.static.objects link =
      List.map unlinked <$> site.bound.objects link := by
  rw [objects, objects, map_mapM, map_mapM]
  exact mapM_congr fun row _ => unlinked_objectOf clear link link (Value.ofRow row)

/-- Both classes make the same object of the first row, but for the connection. -/
theorem unlinked_firstObject (clear : site.KeepsClear) (link : Value) :
    unlinked <$> site.static.firstObject link = unlinked <$> site.bound.firstObject link := by
  have served (family : Family) : (site.inFamily family).rows = site.rows := rfl
  rw [firstObject, firstObject, served, served]
  cases site.rows with
  | nil => rfl
  | cons row rest => exact unlinked_objectOf clear link link (Value.ofRow row)

/-- Both classes bind the same keys. -/
theorem boundKeys_bound (clear : site.KeepsClear) (known : columns ⊆ site.table.columns)
    (keys : List Value) :
    site.bound.plan.boundKeys columns keys = site.static.plan.boundKeys columns keys := by
  rw [Plan.boundKeys, Plan.boundKeys]
  refine mapM_congr fun column member => ?_
  rw [Plan.keyValue, Plan.keyValue, map_keyParamName_bound clear known,
    keyParamName_bound clear (known member)]

/-- Both classes send the same request for a page. -/
theorem pageRequest_bound (clear : site.KeepsClear) (known : columns ⊆ site.table.columns)
    (link : Value) (keys : List Value) (count skip : Value) :
    site.bound.plan.pageRequest columns link keys count skip =
      site.static.plan.pageRequest columns link keys count skip := by
  rw [Plan.pageRequest, Plan.pageRequest, boundKeys_bound clear known]
  rfl

/-- Both classes send the same request for a record. -/
theorem keyRequest_bound (clear : site.KeepsClear) (known : columns ⊆ site.table.columns)
    (link : Value) (keys : List Value) :
    site.bound.plan.keyRequest columns link keys =
      site.static.plan.keyRequest columns link keys := by
  rw [Plan.keyRequest, Plan.keyRequest, boundKeys_bound clear known]
  rfl

/-- Both classes miss the same arguments. -/
theorem requiredNames_bound (clear : site.KeepsClear) (known : columns ⊆ site.table.columns) :
    site.bound.plan.requiredNames columns = site.static.plan.requiredNames columns := by
  rw [Plan.requiredNames, Plan.requiredNames, map_keyParamName_bound clear known]

/-- What is seen of a call of a method on the class. -/
def seen (site : Deployment) (method : Method) (args : List Value) : Eval Value :=
  (fun outcome => unlinked outcome.1) <$>
    invoke (site.scene.surroundings Scene.callLimit) method none args

theorem seen_of_exchange {method : Method} {args : List Value}
    {prepared : Except EvalError Request} {result : Except EvalError (Value × Option Value)}
    (sends : invoke (site.scene.surroundings Scene.callLimit) method none args =
      exchange prepared result) :
    site.seen method args = exchange prepared ((fun outcome => unlinked outcome.1) <$> result) := by
  rw [seen, sends, map_exchange]

theorem seen_of_throw {method : Method} {args : List Value} {failure : EvalError}
    (fails : invoke (site.scene.surroundings Scene.callLimit) method none args = throw failure) :
    site.seen method args = throw failure := by
  rw [seen, fails]
  rfl

/-- With too few arguments, fetchers of both families miss the same one. -/
theorem seen_missing (clear : site.KeepsClear) (known : columns ⊆ site.table.columns)
    {method other : Method} {args : List Value} (back : List Parameter)
    (static : method.kind = .static) (otherStatic : other.kind = .static)
    (named : other.name = method.name)
    (params : method.params = connectionParam :: site.static.plan.keyParams columns ++ back)
    (otherParams : other.params = connectionParam :: site.bound.plan.keyParams columns ++ back)
    (missing : args.length < (site.static.plan.requiredNames columns).length) :
    site.static.seen method args = site.bound.seen other args := by
  have names := requiredNames_bound clear known
  have missingToo : args.length < (site.bound.plan.requiredNames columns).length :=
    names ▸ missing
  rw [seen_of_throw (site.static.plan.invoke_missing _ method none back static params missing),
    seen_of_throw (site.bound.plan.invoke_missing _ other none back otherStatic otherParams
      missingToo)]
  simp only [named, names]

theorem seen_pageFetcher (clear : site.KeepsClear) (known : columns ⊆ site.table.columns)
    {name other : String} (named : other = name) (description : String) (defaultCount : Int64)
    (args : List Value) :
    site.static.seen (site.static.plan.pageFetcher name description defaultCount columns) args =
      site.bound.seen (site.bound.plan.pageFetcher other description defaultCount columns)
        args := by
  have page (found : Except EvalError (List Value)) :
      (fun outcome : Value × Option Value => unlinked outcome.1) <$> (do
          let objects ← found
          pure (Value.list objects, none)) =
        Value.list <$> List.map unlinked <$> found := by
    cases found with
    | error failure => rfl
    | ok objects =>
        have items : unlinked (.list objects) = .list (objects.map unlinked) :=
          congrArg Value.list (Value.strippedItems_eq connectionName objects)
        exact congrArg Except.ok items
  rcases site.static.plan.keys_or_missing columns args with
    ⟨link, keys, rest, rfl, enough⟩ | missing
  · rw [seen_of_exchange
        (invoke_pageFetcher site.static 998 name description defaultCount none link enough rest),
      seen_of_exchange
        (invoke_pageFetcher site.bound 998 other description defaultCount none link enough rest),
      pageRequest_bound clear known, page, page, unlinked_objects clear]
  · exact seen_missing clear known (pageParams defaultCount) rfl rfl named rfl rfl missing

theorem seen_keyFetcher (clear : site.KeepsClear) (known : columns ⊆ site.table.columns)
    (description : String) (args : List Value) :
    site.static.seen (site.static.plan.keyFetcher description columns) args =
      site.bound.seen (site.bound.plan.keyFetcher description columns) args := by
  have single (found : Except EvalError Value) :
      (fun outcome : Value × Option Value => unlinked outcome.1) <$> (do
          let object ← found
          pure (object, none)) = unlinked <$> found := by
    cases found <;> rfl
  rcases site.static.plan.keys_or_missing columns args with
    ⟨link, keys, rest, rfl, enough⟩ | missing
  · rw [seen_of_exchange (invoke_keyFetcher site.static 998 description none link enough rest),
      seen_of_exchange (invoke_keyFetcher site.bound 998 description none link enough rest),
      keyRequest_bound clear known, single, single, unlinked_firstObject clear]
  · have params (plan : Plan) : (plan.keyFetcher description columns).params =
        connectionParam :: plan.keyParams columns ++ [] := by
      rw [List.append_nil]
      rfl
    exact seen_missing clear known [] rfl rfl (keyFetcherName_bound clear known) (params _)
      (params _) missing

theorem seen_countFetcher (args : List Value) :
    site.static.seen site.static.plan.countFetcher args =
      site.bound.seen site.bound.plan.countFetcher args := by
  cases args with
  | nil =>
      have fails (family : Family) :
          (site.inFamily family).seen (site.inFamily family).plan.countFetcher [] =
            throw (.missingArgument "count" connectionName) := seen_of_throw rfl
      rw [fails, fails]
  | cons link rest =>
      rw [seen_of_exchange (invoke_countFetcher site.static Scene.callLimit none link rest),
        seen_of_exchange (invoke_countFetcher site.bound Scene.callLimit none link rest)]
      rfl

/-- What is seen of a call on the class does not depend on the family, but for the method that makes
objects from rows, which takes other arguments. -/
theorem seen_twins (clear : site.KeepsClear) {method other : Method}
    (twins : site.Twins (.method method) (.method other)) (fetches : method.name ≠ fromRecordName)
    (args : List Value) : site.static.seen method args = site.bound.seen other args := by
  have noReceiver {site : Deployment} {method : Method} (ofObject : method.kind = .ofObject) :
      site.seen method args = throw .noReceiver := by
    refine seen_of_throw ?_
    rw [invoke, if_pos ⟨ofObject ▸ ofObject_ne_static, rfl⟩]
  cases twins with
  | all => exact seen_pageFetcher clear (List.nil_subset _) rfl _ _ args
  | count => exact seen_countFetcher args
  | key description known => exact seen_keyFetcher clear known description args
  | keyPage description known =>
      exact seen_pageFetcher clear known (keyFetcherName_bound clear known) description 0 args
  | fromRecord => exact absurd rfl fetches
  | _ => rw [noReceiver rfl, noReceiver rfl]

theorem seen_eq {name : String} {method : Method}
    (found : site.recordClass.method? name = some method) (args : List Value) :
    unlinked <$> site.scene.callStatic name args = site.seen method args := by
  obtain ⟨member, rfl⟩ := RecordClass.mem_of_method? found
  rw [callStatic_of_mem member, seen]
  simp only [map_eq_pure_bind, bind_assoc, pure_bind]

/-- **Calls on the class do not depend on the family**, but for the connection in the objects that
they find. -/
theorem callStatic_static (clear : site.KeepsClear) {name : String}
    (shared : name ≠ constructorName) (fetches : name ≠ fromRecordName) (args : List Value) :
    unlinked <$> site.static.scene.callStatic name args =
      unlinked <$> site.bound.scene.callStatic name args := by
  rcases method?_twins clear shared with
    ⟨noMethod, noOther⟩ | ⟨method, other, isMethod, isOther, twins⟩
  · have fails : site.static.scene.callStatic name args =
        throw (.unknownMethod site.plan.className name) := call_of_absent noMethod args none
    have failsToo : site.bound.scene.callStatic name args =
        throw (.unknownMethod site.plan.className name) := call_of_absent noOther args none
    rw [fails, failsToo]
  · obtain ⟨-, named⟩ := RecordClass.mem_of_method? isMethod
    rw [seen_eq isMethod, seen_eq isOther, seen_twins clear twins (named.symm ▸ fetches)]

variable {record own linked : Value}

theorem mutation_bound (clear : site.KeepsClear) (known : columns ⊆ site.table.columns)
    (ownMade : site.static.objectOf .connection record = .ok own)
    (linkedMade : site.bound.objectOf .connection record = .ok linked)
    (name : String) (statement : Sql.Statement) :
    site.bound.plan.mutation name statement columns linked [] =
      site.static.plan.mutation name statement columns own [.connection] := by
  have same : own = linked.withoutField connectionName := by
    rw [objectOf_static clear .connection .connection, linkedMade] at ownMade
    exact (Except.ok.inj ownMade).symm
  have ownLink : site.static.plan.mutatorLink name own [.connection] = .ok .connection := rfl
  have objectLink : site.bound.plan.mutatorLink name linked [] = .ok .connection :=
    fieldIn_connection_objectOf rfl linkedMade
  have params : columns.mapM (site.bound.plan.boundProperty linked) =
      columns.mapM (site.static.plan.boundProperty own) := by
    refine mapM_congr fun column member => ?_
    have apart := propertyName_ne_connection site.bound.plan column rfl
    rw [Plan.boundProperty, Plan.boundProperty, same,
      ← propertyName_bound clear (known member), fieldIn_withoutField apart]
  rw [Plan.mutation, Plan.mutation, ownLink, objectLink, params]
  rfl

/-- A mutator over columns of the table does the same in both families. -/
theorem call_mutator_bound (clear : site.KeepsClear) (known : columns ⊆ site.table.columns)
    (ownMade : site.static.objectOf .connection record = .ok own)
    (linkedMade : site.bound.objectOf .connection record = .ok linked)
    (name description : String) (statement : Sql.Statement)
    (fixed : site.static.plan.mutator name description statement
      (site.static.plan.propertyArgs columns) ∈ site.static.plan.namedMethods)
    (otherFixed : site.bound.plan.mutator name description statement
      (site.bound.plan.propertyArgs columns) ∈ site.bound.plan.namedMethods)
    (shared : name ≠ constructorName) :
    site.static.call name [.connection] (some own) = site.bound.call name [] (some linked) := by
  rcases method?_twins clear shared with
    ⟨noMethod, noOther⟩ | ⟨method, other, isMethod, isOther, -⟩
  · rw [call_of_absent noMethod, call_of_absent noOther]
    rfl
  · obtain ⟨-, member⟩ := eq_of_method? _ fixed isMethod
    obtain ⟨-, otherMember⟩ := eq_of_method? _ otherFixed isOther
    have own := call_of_mem member [.connection] (some own)
    have linked := call_of_mem otherMember [] (some linked)
    rw [Plan.invoke_mutator, Scene.affected_surroundings, exchange_bind_pure] at own linked
    rw [mutation_bound clear known ownMade linkedMade] at linked
    exact own.trans linked.symm

/-- The names of the methods that change the table. -/
def mutatorNames : List String :=
  ["add", "update", "delete"]

theorem call_mutatorNames (clear : site.KeepsClear)
    (ownMade : site.static.objectOf .connection record = .ok own)
    (linkedMade : site.bound.objectOf .connection record = .ok linked)
    {name : String} (mutates : name ∈ mutatorNames) :
    site.static.call name [.connection] (some own) = site.bound.call name [] (some linked) := by
  have all : site.table.columns ⊆ site.table.columns := List.Subset.refl _
  have primary : site.table.primaryColumns ⊆ site.table.columns :=
    fun _ => mem_columns_of_mem_columnsOf
  have addFixed (plan : Plan) : plan.addMutator ∈ plan.namedMethods := by
    simp [Plan.namedMethods]
  have updateFixed (plan : Plan) : plan.mutator "update" "Write this record back." plan.writeBack
      (plan.propertyArgs (plan.table.columns ++ plan.table.primaryColumns)) ∈
        plan.namedMethods := by
    rw [← Plan.updateMutator_eq]
    simp [Plan.namedMethods]
  have deleteFixed (plan : Plan) : plan.deleteMutator ∈ plan.namedMethods := by
    simp [Plan.namedMethods]
  rw [mutatorNames, List.mem_cons, List.mem_cons, List.mem_singleton] at mutates
  rcases mutates with rfl | rfl | rfl
  · exact call_mutator_bound clear all ownMade linkedMade "add" _ _ (addFixed _) (addFixed _)
      (by decide)
  · exact call_mutator_bound clear (List.append_subset.mpr ⟨all, primary⟩) ownMade linkedMade
      "update" _ _ (updateFixed _) (updateFixed _) (by decide)
  · exact call_mutator_bound clear primary ownMade linkedMade "delete" _ _ (deleteFixed _)
      (deleteFixed _) (by decide)

/-- What users of both families can rely on. -/
structure FamiliesAgree (site : Deployment) : Prop where
  /-- Both classes have the same static methods. -/
  staticNames : site.static.recordClass.staticNames = site.bound.recordClass.staticNames
  /-- Fetchers record the same, and find or fail with the same but for the connection of objects. -/
  fetchers : ∀ name ∈ site.static.recordClass.staticNames, name ≠ fromRecordName → ∀ args,
    unlinked <$> site.static.scene.callStatic name args =
      unlinked <$> site.bound.scene.callStatic name args
  /-- The objects of a row are the same but for the connection. -/
  objects : ∀ record,
    unlinked <$> site.static.scene.callStatic fromRecordName [record] =
      unlinked <$> site.bound.scene.callStatic fromRecordName [.connection, record]
  /-- Mutators of the objects of a row record the same and end with the same. -/
  mutators : ∀ record own linked (before after before' after' : Log),
    site.static.scene.callStatic fromRecordName [record] before = .ok own after →
    site.bound.scene.callStatic fromRecordName [.connection, record] before' = .ok linked after' →
    ∀ name ∈ mutatorNames,
      site.static.call name [.connection] (some own) = site.bound.call name [] (some linked)

/-- **Static and bound classes of a table behave the same**, as long as no property of a column
would be called like the connection. -/
theorem familiesAgree (clear : site.KeepsClear) : site.FamiliesAgree where
  staticNames := staticNames_eq clear
  fetchers := by
    intro name static fetches args
    obtain ⟨method, isStatic, rfl⟩ := List.mem_map.mp static
    obtain ⟨member, kind⟩ := List.mem_filter.mp isStatic
    have free : method.name ∉ objectMethodNames :=
      (generates_of_mem member).isStatic_iff.mp (of_decide_eq_true kind)
    refine callStatic_static clear (fun named => ?_) fetches args
    rw [named] at free
    exact free (by decide)
  objects := by
    intro record
    have own : site.static.scene.callStatic fromRecordName [record] =
        settled (site.static.objectOf .connection record) :=
      callStatic_fromRecord site.static .connection record
    have linked : site.bound.scene.callStatic fromRecordName [.connection, record] =
        settled (site.bound.objectOf .connection record) :=
      callStatic_fromRecord site.bound .connection record
    have view (result : Except EvalError Value) :
        unlinked <$> settled result = settled (unlinked <$> result) := by
      cases result <;> rfl
    rw [own, linked, view, view, unlinked_objectOf clear]
  mutators := by
    intro record own linked before after before' after' ownRan linkedRan name mutates
    obtain ⟨ownMade, -⟩ :=
      (@callStatic_fromRecord_eq_ok_iff site.static .connection _ _ _ _).mp ownRan
    obtain ⟨linkedMade, -⟩ :=
      (@callStatic_fromRecord_eq_ok_iff site.bound .connection _ _ _ _).mp linkedRan
    exact call_mutatorNames clear ownMade linkedMade mutates

theorem familiesAgree_visits :
    visits.KeepsClear ∧ visits.FamiliesAgree ∧
      visits.static.call "update" [.connection] (some (visit.withoutField connectionName)) =
        visits.bound.call "update" [] (some visit) := by
  have clear : visits.KeepsClear := by decide
  have agree : visits.FamiliesAgree := familiesAgree clear
  have own : visits.static.scene.callStatic fromRecordName [Value.ofRow visitRow] [] =
      .ok (visit.withoutField connectionName) [] :=
    (@callStatic_fromRecord_eq_ok_iff visits.static .connection _ _ _ _).mpr ⟨rfl, rfl⟩
  have linked : visits.bound.scene.callStatic fromRecordName
      [.connection, Value.ofRow visitRow] [] = .ok visit [] :=
    (@callStatic_fromRecord_eq_ok_iff visits.bound .connection _ _ _ _).mpr ⟨rfl, rfl⟩
  exact ⟨clear, agree, agree.mutators _ _ _ _ _ _ _ own linked "update" (by decide)⟩

end Deployment

end DataAccess.Members
