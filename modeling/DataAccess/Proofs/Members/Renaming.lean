import DataAccess.Proofs.Members.KeyAccessors
import DataAccess.Proofs.Members.Ownership
import DataAccess.Proofs.Members.Positions
import DataAccess.Proofs.Members.Properties
import DataAccess.Proofs.Members.SerializedRoundTrip

/-!
# Naming conventions

A naming convention only renames what is generated (`Deployment.renames_member`). Under two
conventions a table gets classes whose parts offer the same members in the same order, under other
names (`Deployment.forall₂_alike`). A method that both classes keep records the same requests in
both, and its results differ in the name of the class and in the names of properties and serialized
keys only. What a class calls its methods and parameters shows in one failure: where an argument is
missing, each class names the parameter as its own (`Deployment.missingArgument_visits`).
-/

namespace DataAccess.Members

open Code Schema Evaluation

section Names

variable {γ : Type} {items : List γ} {name other : γ → String}

/-- A name of an item in another naming of the items. Names of nothing stay as they are. -/
def renamedName (items : List γ) (name other : γ → String) (text : String) : String :=
  (Entries.find? text (items.map fun item => (name item, other item))).getD text

/-- The fields under their other names. -/
def renamedFields (items : List γ) (name other : γ → String) (fields : Entries Value) :
    Entries Value :=
  fields.map fun field => (renamedName items name other field.1, field.2)

/-- The name of an item becomes its other name, if names are distinct. -/
theorem renamedName_of_mem (distinct : (items.map name).Nodup) {item : γ} (member : item ∈ items) :
    renamedName items name other (name item) = other item := by
  have listed : (name item, other item) ∈ items.map fun item => (name item, other item) :=
    List.mem_map_of_mem member
  rw [renamedName, Entries.find?_of_mem ?_ listed, Option.getD_some]
  rwa [Entries.names, List.map_map]

/-- A text that names no item stays as it is. -/
theorem renamedName_of_notMem {text : String} (free : text ∉ items.map name) :
    renamedName items name other text = text := by
  have absent : text ∉ Entries.names (items.map fun item => (name item, other item)) := by
    rwa [Entries.names, List.map_map]
  rw [renamedName, Entries.find?_eq_none_iff.mpr absent, Option.getD_none]

/-- Fields under the names of items come to stand under their other names. -/
theorem renamedFields_zip (distinct : (items.map name).Nodup) (values : List Value)
    {rest : Entries Value} (free : ∀ field ∈ rest, field.1 ∉ items.map name) :
    renamedFields items name other ((items.map name).zip values ++ rest) =
      (items.map other).zip values ++ rest := by
  have named : renamedFields items name other ((items.map name).zip values) =
      (items.map other).zip values := by
    rw [renamedFields, List.zip_map_left, List.zip_map_left, List.map_map]
    refine List.map_congr_left fun pair paired => ?_
    exact Prod.ext (renamedName_of_mem distinct (List.of_mem_zip paired).1) rfl
  have same : renamedFields items name other rest = rest := by
    have each : ∀ field ∈ rest, (renamedName items name other field.1, field.2) = id field :=
      fun field member => Prod.ext (renamedName_of_notMem (free field member)) rfl
    rw [renamedFields, List.map_congr_left each, List.map_id]
  rw [← named, renamedFields, List.map_append]
  exact congrArg (_ ++ ·) same

end Names

namespace Plan

/-- An object of one class as an object of the other. -/
def renamedObject (plan other : Plan) : Value → Value
  | .object _ fields =>
    .object other.className
      (renamedFields plan.table.columns plan.propertyName other.propertyName fields)
  | value => value

/-- A result of one class as a result of the other: an object or a list of them, a serialized form,
or a value without names. -/
def renamed (plan other : Plan) : Value → Value
  | .list items => .list (items.map (plan.renamedObject other))
  | .map entries =>
    .map (renamedFields plan.table.columns plan.serializedKey other.serializedKey entries)
  | value => plan.renamedObject other value

/-- Only objects have names to change. -/
theorem renamed_of_isScalar {plan other : Plan} {value : Value} (scalar : IsScalar value) :
    plan.renamed other value = value := by
  cases scalar <;> rfl

/-- Properties are told apart by their serialized keys already. -/
theorem nodup_serializedKeys {plan : Plan} {columns : List Column}
    (distinct : (columns.map plan.propertyName).Nodup) :
    (columns.map plan.serializedKey).Nodup := by
  have named : columns.map plan.propertyName =
      (columns.map plan.serializedKey).map fun key => aside (plan.isTaken key) key := by
    rw [List.map_map]
    rfl
  rw [named] at distinct
  exact distinct.of_map _

end Plan

/-- The ends of one call under two conventions, from a view of the first result: the results
correspond, or both calls fail in the same way. Where an argument is missing, each failure names the
method and the parameter as its class does. -/
inductive EndsAlike {α β : Type} (view : α → β) (method other : Method) :
    EStateM.Result EvalError Log α → EStateM.Result EvalError Log β → Prop where
  | value (result : α) (log : Log) :
      EndsAlike view method other (.ok result log) (.ok (view result) log)
  | failure (failure : EvalError) (log : Log) :
      EndsAlike view method other (.error failure log) (.error failure log)
  | missing {index : Nat} (here : index < method.params.length)
      (there : index < other.params.length) (log : Log) :
      EndsAlike view method other
        (.error (.missingArgument method.name method.params[index].name) log)
        (.error (.missingArgument other.name other.params[index].name) log)

/-- Where runs are the same but for a view of their results, they end alike. -/
theorem EndsAlike.of_map {α β : Type} {view : α → β} {method other : Method} {first : Eval α}
    {second : Eval β} (same : view <$> first = second) (log : Log) :
    EndsAlike view method other (first log) (second log) := by
  subst same
  rw [map_eq_pure_bind]
  change EndsAlike view method other (first log) (EStateM.bind first (fun a => pure (view a)) log)
  rw [EStateM.bind]
  cases first log with
  | ok result after => exact .value result after
  | error failure after => exact .failure failure after

namespace Deployment

/-- The same table, options and rows under another naming convention. -/
def withNaming (site : Deployment) (naming : Naming.Convention) : Deployment :=
  { site with assembler := { site.assembler with naming } }

/-- Columns have distinct properties, and the columns of each key have distinct parameters. -/
structure NamesApart (site : Deployment) : Prop where
  properties : (site.table.columns.map site.plan.propertyName).Nodup
  keyParams : ∀ columns ∈ site.table.keyGroups, (columns.map site.plan.keyParamName).Nodup

/-- What naming leaves alone of a method of one class, beside the method of another class. -/
structure RenamesCalls (site other : Deployment) (method twin : Method) : Prop where
  kind : twin.kind = method.kind
  /-- Calls on the class. -/
  ofClass : method.kind = .static → ∀ args log,
    EndsAlike (site.plan.renamed other.plan) method twin
      (site.scene.callStatic method.name args log) (other.scene.callStatic twin.name args log)
  /-- Calls on objects of one row, with what they leave of the objects. -/
  ofObject : method.kind = .ofObject → ∀ link record object counterpart before after before' after',
    site.scene.callStatic fromRecordName (site.plan.fromRecordArgs link record) before =
      .ok object after →
    other.scene.callStatic fromRecordName (other.plan.fromRecordArgs link record) before' =
      .ok counterpart after' →
    counterpart = site.plan.renamedObject other.plan object ∧
    ∀ args log,
      EndsAlike (Prod.map (site.plan.renamed other.plan) (site.plan.renamedObject other.plan))
        method twin (site.scene.callOnObject object method.name args log)
        (other.scene.callOnObject counterpart twin.name args log)
  /-- The making of objects. -/
  constructs : method.kind = .constructor → ∀ args log,
    EndsAlike (site.plan.renamedObject other.plan) method twin
      (site.scene.instantiate args log) (other.scene.instantiate args log)

variable {site : Deployment} {naming : Naming.Convention} {columns : List Column}

/-- The connection of an object is under no name of a column. -/
theorem linkFields_free {link : Value} :
    ∀ field ∈ site.linkFields link,
      field.1 ∉ site.table.columns.map site.plan.propertyName := by
  intro field member taken
  rw [linkFields] at member
  cases bound : site.plan.isBound with
  | false =>
      rw [bound] at member
      cases member
  | true =>
      rw [bound, if_pos rfl] at member
      obtain rfl := List.mem_singleton.mp member
      obtain ⟨column, -, same⟩ := List.mem_map.mp taken
      exact propertyName_ne_connection site.plan column bound same

/-- **The objects of a row under two conventions differ in names only.** -/
theorem objectOf_withNaming (apart : site.NamesApart)
    (otherApart : (site.withNaming naming).NamesApart) (link record : Value) :
    (site.withNaming naming).objectOf link record =
      site.plan.renamedObject (site.withNaming naming).plan <$> site.objectOf link record := by
  have fields (values : List Value) :
      site.plan.renamedObject (site.withNaming naming).plan
          (.object site.plan.className
            ((site.table.columns.map site.plan.propertyName).zip values ++ site.linkFields link)) =
        .object (site.withNaming naming).plan.className
          ((site.table.columns.map (site.withNaming naming).plan.propertyName).zip values ++
            (site.withNaming naming).linkFields link) :=
    congrArg (Value.object _) (renamedFields_zip apart.properties values linkFields_free)
  rw [objectOf_eq apart.properties, objectOf_eq otherApart.properties, Functor.map_map]
  exact congrArg (· <$> _) (funext fun values => (fields values).symm)

/-- Rows make the same objects under another convention, up to names. -/
theorem objects_withNaming (apart : site.NamesApart)
    (otherApart : (site.withNaming naming).NamesApart) (link : Value) :
    (site.withNaming naming).objects link =
      List.map (site.plan.renamedObject (site.withNaming naming).plan) <$> site.objects link := by
  rw [objects, objects, map_mapM]
  exact mapM_congr fun row _ => objectOf_withNaming apart otherApart link (Value.ofRow row)

/-- The first row makes the same object under another convention, up to names. -/
theorem firstObject_withNaming (apart : site.NamesApart)
    (otherApart : (site.withNaming naming).NamesApart) (link : Value) :
    (site.withNaming naming).firstObject link =
      site.plan.renamed (site.withNaming naming).plan <$> site.firstObject link := by
  have rows : (site.withNaming naming).rows = site.rows := rfl
  rw [firstObject, firstObject, rows]
  cases site.rows with
  | nil => rfl
  | cons row rest =>
      have object : site.plan.renamed (site.withNaming naming).plan <$>
            site.objectOf link (Value.ofRow row) =
          site.plan.renamedObject (site.withNaming naming).plan <$>
            site.objectOf link (Value.ofRow row) := by
        rw [objectOf_eq apart.properties, Functor.map_map, Functor.map_map]
        rfl
      exact (objectOf_withNaming apart otherApart link _).trans object.symm

/-- Another convention binds the same keys. -/
theorem boundKeys_withNaming {keys : List Value}
    (distinct : (columns.map site.plan.keyParamName).Nodup)
    (otherDistinct : (columns.map (site.withNaming naming).plan.keyParamName).Nodup)
    (enough : keys.length = columns.length) :
    (site.withNaming naming).plan.boundKeys columns keys = site.plan.boundKeys columns keys := by
  rw [Plan.boundKeys_eq distinct enough, Plan.boundKeys_eq otherDistinct enough]

/-- Another convention sends the same request for a page. -/
theorem pageRequest_withNaming {keys : List Value}
    (distinct : (columns.map site.plan.keyParamName).Nodup)
    (otherDistinct : (columns.map (site.withNaming naming).plan.keyParamName).Nodup)
    (enough : keys.length = columns.length) (link count skip : Value) :
    (site.withNaming naming).plan.pageRequest columns link keys count skip =
      site.plan.pageRequest columns link keys count skip := by
  rw [Plan.pageRequest, Plan.pageRequest, boundKeys_withNaming distinct otherDistinct enough]
  rfl

/-- Another convention sends the same request for a record. -/
theorem keyRequest_withNaming {keys : List Value}
    (distinct : (columns.map site.plan.keyParamName).Nodup)
    (otherDistinct : (columns.map (site.withNaming naming).plan.keyParamName).Nodup)
    (enough : keys.length = columns.length) (link : Value) :
    (site.withNaming naming).plan.keyRequest columns link keys =
      site.plan.keyRequest columns link keys := by
  rw [Plan.keyRequest, Plan.keyRequest, boundKeys_withNaming distinct otherDistinct enough]
  rfl

/-- With too few arguments, a fetcher misses a parameter. -/
theorem callStatic_missing {method : Method} {args : List Value} (back : List Parameter)
    (member : method ∈ site.recordClass.methods) (static : method.kind = .static)
    (params : method.params = connectionParam :: site.plan.keyParams columns ++ back)
    (missing : args.length < (site.plan.requiredNames columns).length) :
    ∃ here : args.length < method.params.length,
      site.scene.callStatic method.name args =
        throw (.missingArgument method.name method.params[args.length].name) := by
  have names : site.plan.requiredNames columns =
      (connectionParam :: site.plan.keyParams columns).map (·.name) := by
    rw [Plan.requiredNames, Plan.keyParams, List.map_cons, List.map_map]
    rfl
  have fewer : args.length < (connectionParam :: site.plan.keyParams columns).length := by
    rwa [names, List.length_map] at missing
  have here : args.length < method.params.length := by
    rw [params, List.length_append]
    exact Nat.lt_add_right _ fewer
  have same : (site.plan.requiredNames columns)[args.length] = method.params[args.length].name := by
    simp only [names, List.getElem_map, params, List.getElem_append_left fewer]
  have fails := site.plan.invoke_missing (site.scene.surroundings Scene.callLimit) method none back
    static params missing
  refine ⟨here, (callStatic_of_mem member args).trans ?_⟩
  rw [fails, throw_bind, same]

/-- Calls with too few arguments for the keys end alike: both miss a parameter at the same place. -/
theorem endsAlike_missing {method twin : Method} {args : List Value} (back : List Parameter)
    {view : Value → Value} (member : method ∈ site.recordClass.methods)
    (twinMember : twin ∈ (site.withNaming naming).recordClass.methods)
    (static : method.kind = .static) (twinStatic : twin.kind = .static)
    (params : method.params = connectionParam :: site.plan.keyParams columns ++ back)
    (twinParams : twin.params =
      connectionParam :: (site.withNaming naming).plan.keyParams columns ++ back)
    (missing : args.length < (site.plan.requiredNames columns).length) (log : Log) :
    EndsAlike view method twin (site.scene.callStatic method.name args log)
      ((site.withNaming naming).scene.callStatic twin.name args log) := by
  have twinMissing :
      args.length < ((site.withNaming naming).plan.requiredNames columns).length := by
    simpa only [Plan.requiredNames, List.length_cons, List.length_map] using missing
  obtain ⟨here, fails⟩ := callStatic_missing back member static params missing
  obtain ⟨there, twinFails⟩ :=
    callStatic_missing back twinMember twinStatic twinParams twinMissing
  rw [fails, twinFails]
  exact .missing here there log

/-- Fetchers of pages end alike under another convention. -/
theorem endsAlike_pageFetcher (apart : site.NamesApart)
    (otherApart : (site.withNaming naming).NamesApart)
    (distinct : (columns.map site.plan.keyParamName).Nodup)
    (otherDistinct : (columns.map (site.withNaming naming).plan.keyParamName).Nodup)
    {name twinName description : String} {defaultCount : Int64}
    (member : site.plan.pageFetcher name description defaultCount columns ∈
      site.recordClass.methods)
    (twinMember : (site.withNaming naming).plan.pageFetcher twinName description defaultCount
      columns ∈ (site.withNaming naming).recordClass.methods)
    (args : List Value) (log : Log) :
    EndsAlike (site.plan.renamed (site.withNaming naming).plan)
      (site.plan.pageFetcher name description defaultCount columns)
      ((site.withNaming naming).plan.pageFetcher twinName description defaultCount columns)
      (site.scene.callStatic name args log)
      ((site.withNaming naming).scene.callStatic twinName args log) := by
  rcases site.plan.keys_or_missing columns args with
    ⟨link, keys, page, rfl, enough⟩ | missing
  · refine EndsAlike.of_map ?_ log
    rw [callStatic_pageFetcher member link enough page,
      callStatic_pageFetcher twinMember link enough page,
      pageRequest_withNaming distinct otherDistinct enough, objects_withNaming apart otherApart,
      map_exchange, Functor.map_map, Functor.map_map]
    rfl
  · exact endsAlike_missing (pageParams defaultCount) member twinMember rfl rfl rfl rfl missing log

/-- Fetchers of records end alike under another convention. -/
theorem endsAlike_keyFetcher (apart : site.NamesApart)
    (otherApart : (site.withNaming naming).NamesApart)
    (distinct : (columns.map site.plan.keyParamName).Nodup)
    (otherDistinct : (columns.map (site.withNaming naming).plan.keyParamName).Nodup)
    {description : String}
    (member : site.plan.keyFetcher description columns ∈ site.recordClass.methods)
    (twinMember : (site.withNaming naming).plan.keyFetcher description columns ∈
      (site.withNaming naming).recordClass.methods)
    (args : List Value) (log : Log) :
    EndsAlike (site.plan.renamed (site.withNaming naming).plan)
      (site.plan.keyFetcher description columns)
      ((site.withNaming naming).plan.keyFetcher description columns)
      (site.scene.callStatic (site.plan.keyFetcherName columns) args log)
      ((site.withNaming naming).scene.callStatic
        ((site.withNaming naming).plan.keyFetcherName columns) args log) := by
  rcases site.plan.keys_or_missing columns args with
    ⟨link, keys, rest, rfl, enough⟩ | missing
  · refine EndsAlike.of_map ?_ log
    rw [callStatic_keyFetcher member link enough rest,
      callStatic_keyFetcher twinMember link enough rest,
      keyRequest_withNaming distinct otherDistinct enough,
      firstObject_withNaming apart otherApart, map_exchange]
  · have params (plan : Plan) : (plan.keyFetcher description columns).params =
        connectionParam :: plan.keyParams columns ++ [] := by
      rw [List.append_nil]
      rfl
    exact endsAlike_missing [] member twinMember rfl rfl (params _) (params _) missing log

/-- The count of records ends alike under another convention. -/
theorem endsAlike_countFetcher
    (member : site.plan.countFetcher ∈ site.recordClass.methods)
    (twinMember : (site.withNaming naming).plan.countFetcher ∈
      (site.withNaming naming).recordClass.methods)
    (args : List Value) (log : Log) :
    EndsAlike (site.plan.renamed (site.withNaming naming).plan) site.plan.countFetcher
      (site.withNaming naming).plan.countFetcher (site.scene.callStatic "count" args log)
      ((site.withNaming naming).scene.callStatic "count" args log) := by
  have scalar : site.plan.renamed (site.withNaming naming).plan <$> site.firstCount =
      (site.withNaming naming).firstCount := by
    have settles := settles_firstCount site
    have same : (site.withNaming naming).firstCount = site.firstCount := rfl
    rw [same]
    cases counted : site.firstCount with
    | error failure => rfl
    | ok value =>
        rw [counted] at settles
        cases settles with
        | value scalar => exact congrArg Except.ok (Plan.renamed_of_isScalar scalar)
  refine EndsAlike.of_map ?_ log
  cases args with
  | nil =>
      have fails {site : Deployment} (member : site.plan.countFetcher ∈ site.recordClass.methods) :
          site.scene.callStatic "count" [] = throw (.missingArgument "count" connectionName) :=
        callStatic_of_mem member []
      rw [fails member, fails twinMember]
      rfl
  | cons link rest =>
      rw [callStatic_countFetcher member, callStatic_countFetcher twinMember, map_exchange, scalar]
      rfl

/-- Making an object from a row ends alike under another convention. -/
theorem endsAlike_fromRecord (apart : site.NamesApart)
    (otherApart : (site.withNaming naming).NamesApart) (args : List Value) (log : Log) :
    EndsAlike (site.plan.renamed (site.withNaming naming).plan) site.plan.fromRecord
      (site.withNaming naming).plan.fromRecord (site.scene.callStatic fromRecordName args log)
      ((site.withNaming naming).scene.callStatic fromRecordName args log) := by
  have called (site : Deployment) (link record : Value) (rest : List Value) :
      site.scene.callStatic fromRecordName (site.plan.fromRecordArgs link record ++ rest) =
        settled (site.objectOf link record) := by
    have ran := invoke_fromRecord site 999 none link record rest
    refine (callStatic_of_mem fromRecord_mem _).trans ?_
    refine (congrArg (· >>= _) ran).trans ?_
    cases site.objectOf link record <;> rfl
  have fails (site : Deployment) (missing : args.length < site.plan.fromRecordParams.length) :
      site.scene.callStatic fromRecordName args =
        throw (.missingArgument fromRecordName site.plan.fromRecordParams[args.length].name) := by
    have required : ∀ param ∈ site.plan.fromRecordParams, param.default = none := by
      rw [Plan.fromRecordParams]
      cases site.plan.isBound <;> simp [connectionParam]
    have binds := bindParams_of_missing (site.scene.surroundings Scene.callLimit) fromRecordName
      required missing {}
    refine (callStatic_of_mem fromRecord_mem _).trans ?_
    rw [invoke_eq (Or.inl rfl)]
    refine (congrArg (fun run => (run >>= _) >>= _) binds).trans ?_
    rfl
  refine EndsAlike.of_map ?_ log
  rcases site.plan.fromRecordArgs_or_missing args with ⟨link, record, rest, rfl⟩ | missing
  · have twinCalled : (site.withNaming naming).scene.callStatic fromRecordName
          (site.plan.fromRecordArgs link record ++ rest) =
        settled ((site.withNaming naming).objectOf link record) :=
      called (site.withNaming naming) link record rest
    rw [called, twinCalled, objectOf_withNaming apart otherApart, objectOf_eq apart.properties]
    cases site.table.columns.mapM (readFrom record) <;> rfl
  · rw [fails site missing, fails (site.withNaming naming) missing]
    rfl

/-- What is written for a property of an object of a row depends on the row alone. -/
theorem writtenProperty_objectOf (form : TimestampForm) {link record object : Value}
    (distinct : (site.table.columns.map site.plan.propertyName).Nodup)
    (made : site.objectOf link record = .ok object) {column : Column}
    (member : column ∈ site.table.columns) :
    site.plan.writtenProperty form object column =
      (readFrom record column >>= writtenAs form column) := by
  obtain ⟨value, read, held⟩ := fieldIn_objectOf distinct made member
  rw [Plan.writtenProperty, held, read]

/-- The objects of one row under two conventions. -/
structure HoldsRow (site other : Deployment) (link record object counterpart : Value) : Prop where
  made : site.objectOf link record = .ok object
  counterpartMade : other.objectOf link record = .ok counterpart

section Objects

variable {link record object counterpart : Value}

/-- An object and its counterpart of one row differ by names only. -/
theorem HoldsRow.counterpart_eq (apart : site.NamesApart)
    (otherApart : (site.withNaming naming).NamesApart)
    (holds : site.HoldsRow (site.withNaming naming) link record object counterpart) :
    counterpart = site.plan.renamedObject (site.withNaming naming).plan object := by
  have same := holds.counterpartMade
  rw [objectOf_withNaming apart otherApart, holds.made] at same
  exact (Except.ok.inj same).symm

/-- A mutator sends the same request for an object and its counterpart. -/
theorem mutation_withNaming (apart : site.NamesApart)
    (otherApart : (site.withNaming naming).NamesApart)
    (holds : site.HoldsRow (site.withNaming naming) link record object counterpart)
    (known : columns ⊆ site.table.columns) (name : String) (statement : Sql.Statement)
    (args : List Value) :
    (site.withNaming naming).plan.mutation name statement columns counterpart args =
      site.plan.mutation name statement columns object args := by
  have links : (site.withNaming naming).plan.mutatorLink name counterpart args =
      site.plan.mutatorLink name object args := by
    cases bound : site.plan.isBound with
    | false =>
        have otherBound : (site.withNaming naming).plan.isBound = false := bound
        simp only [Plan.mutatorLink, bound, otherBound, Bool.false_eq_true, ↓reduceIte]
    | true =>
        have otherBound : (site.withNaming naming).plan.isBound = true := bound
        simp only [Plan.mutatorLink, bound, otherBound, ↓reduceIte,
          fieldIn_connection_objectOf bound holds.made,
          fieldIn_connection_objectOf otherBound holds.counterpartMade]
  have params : columns.mapM ((site.withNaming naming).plan.boundProperty counterpart) =
      columns.mapM (site.plan.boundProperty object) := by
    refine mapM_congr fun column member => ?_
    have own := writtenProperty_objectOf .sql apart.properties holds.made (known member)
    have others := writtenProperty_objectOf .sql otherApart.properties
      holds.counterpartMade (known member)
    exact others.trans own.symm
  rw [Plan.mutation, Plan.mutation, links, params]
  rfl

/-- A mutator over columns of the table does the same under both conventions. -/
theorem endsAlike_mutator (apart : site.NamesApart)
    (otherApart : (site.withNaming naming).NamesApart)
    (holds : site.HoldsRow (site.withNaming naming) link record object counterpart)
    (known : columns ⊆ site.table.columns) {name description : String}
    {statement : Sql.Statement}
    (member : site.plan.mutator name description statement (site.plan.propertyArgs columns) ∈
      site.recordClass.methods)
    (twinMember : (site.withNaming naming).plan.mutator name description statement
      ((site.withNaming naming).plan.propertyArgs columns) ∈
        (site.withNaming naming).recordClass.methods)
    (args : List Value) (log : Log) :
    EndsAlike
      (Prod.map (site.plan.renamed (site.withNaming naming).plan)
        (site.plan.renamedObject (site.withNaming naming).plan))
      (site.plan.mutator name description statement (site.plan.propertyArgs columns))
      ((site.withNaming naming).plan.mutator name description statement
        ((site.withNaming naming).plan.propertyArgs columns))
      (site.scene.callOnObject object name args log)
      ((site.withNaming naming).scene.callOnObject counterpart name args log) := by
  have called {site : Deployment} {object : Value}
      (member : site.plan.mutator name description statement (site.plan.propertyArgs columns) ∈
        site.recordClass.methods) :
      site.scene.callOnObject object name args =
        exchange (site.plan.mutation name statement columns object args)
          (pure (.bool (decide (0 < site.affected)), object)) := by
    refine (callOnObject_of_mem member object args).trans ?_
    rw [Plan.invoke_mutator, Scene.affected_surroundings]
    exact exchange_bind_pure _ _ fun outcome : Value × Option Value =>
      (outcome.1, outcome.2.getD object)
  refine EndsAlike.of_map ?_ log
  rw [called member, called twinMember, map_exchange,
    mutation_withNaming apart otherApart holds known, map_pure]
  exact congrArg (fun receiver => exchange _ (pure (Value.bool _, receiver)))
    (holds.counterpart_eq apart otherApart).symm

/-- The serialized form of an object of a row: what is written for every column, under its key. -/
theorem serialized_objectOf (apart : site.NamesApart)
    (made : site.objectOf link record = .ok object) :
    site.plan.serialized object =
      (fun values => Value.map ((site.table.columns.map site.plan.serializedKey).zip values)) <$>
        site.table.columns.mapM fun column =>
          readFrom record column >>= writtenAs .iso column := by
  have entries : site.table.columns.mapM (site.plan.serializedEntry object) =
      (fun values => (site.table.columns.map site.plan.serializedKey).zip values) <$>
        site.table.columns.mapM fun column =>
          readFrom record column >>= writtenAs .iso column := by
    rw [← mapM_zip]
    refine mapM_congr fun column member => ?_
    rw [← writtenProperty_objectOf .iso apart.properties made member, Plan.serializedEntry,
      Plan.writtenProperty]
    simp only [map_eq_pure_bind, bind_assoc]
  have table : site.plan.table = site.table := rfl
  rw [Plan.serialized, table, entries]
  cases written : site.table.columns.mapM fun column =>
      readFrom record column >>= writtenAs .iso column with
  | error failure => rfl
  | ok values =>
      have lengths : values.length = site.table.columns.length :=
        (forall₂_of_mapM written).length_eq.symm
      have firsts : ((site.table.columns.map site.plan.serializedKey).zip values).map Prod.fst =
          site.table.columns.map site.plan.serializedKey := Entries.map_fst_zip_map lengths
      have stored := Entries.ofList_of_nodup
        (firsts.symm ▸ Plan.nodup_serializedKeys apart.properties)
      exact congrArg (fun entries => Except.ok (Value.map entries)) stored

/-- Serializing an object and its counterpart ends alike. -/
theorem endsAlike_serialize (apart : site.NamesApart)
    (otherApart : (site.withNaming naming).NamesApart)
    (holds : site.HoldsRow (site.withNaming naming) link record object counterpart)
    (member : site.plan.serialize ∈ site.recordClass.methods)
    (twinMember : (site.withNaming naming).plan.serialize ∈
      (site.withNaming naming).recordClass.methods)
    (args : List Value) (log : Log) :
    EndsAlike
      (Prod.map (site.plan.renamed (site.withNaming naming).plan)
        (site.plan.renamedObject (site.withNaming naming).plan))
      site.plan.serialize (site.withNaming naming).plan.serialize
      (site.scene.callOnObject object "serialize" args log)
      ((site.withNaming naming).scene.callOnObject counterpart "serialize" args log) := by
  have called {site : Deployment} {object : Value}
      (member : site.plan.serialize ∈ site.recordClass.methods) :
      site.scene.callOnObject object "serialize" args =
        settled ((fun form => (form, object)) <$> site.plan.serialized object) := by
    refine (callOnObject_of_mem member object args).trans ?_
    rw [Plan.invoke_serialize]
    cases site.plan.serialized object <;> rfl
  have forms : (site.withNaming naming).plan.serialized counterpart =
      site.plan.renamed (site.withNaming naming).plan <$> site.plan.serialized object := by
    have table : (site.withNaming naming).table = site.table := rfl
    have renames (values : List Value) :
        renamedFields site.table.columns site.plan.serializedKey
            (site.withNaming naming).plan.serializedKey
            ((site.table.columns.map site.plan.serializedKey).zip values) =
          (site.table.columns.map (site.withNaming naming).plan.serializedKey).zip values := by
      have keys := Plan.nodup_serializedKeys apart.properties
      have renamed := @renamedFields_zip Column site.table.columns site.plan.serializedKey
        (site.withNaming naming).plan.serializedKey keys values [] nofun
      rwa [List.append_nil, List.append_nil] at renamed
    rw [serialized_objectOf apart holds.made, serialized_objectOf otherApart holds.counterpartMade,
      Functor.map_map, table]
    exact congrArg (· <$> _) (funext fun values => congrArg Value.map (renames values).symm)
  have receiver := holds.counterpart_eq apart otherApart
  refine EndsAlike.of_map ?_ log
  rw [called member, called twinMember, forms, receiver]
  cases site.plan.serialized object <;> rfl

end Objects

/-- A new object is the same under another convention, up to names. -/
theorem blank_withNaming (apart : site.NamesApart)
    (otherApart : (site.withNaming naming).NamesApart) (link : Value) :
    .object (site.withNaming naming).plan.className ((site.withNaming naming).freshFields link) =
      site.plan.renamedObject (site.withNaming naming).plan
        (.object site.plan.className (site.freshFields link)) := by
  have nulls (site : Deployment) :
      (site.table.columns.map fun column => (site.plan.propertyName column, Value.null)) =
        (site.table.columns.map site.plan.propertyName).zip
          (site.table.columns.map fun _ => .null) := by
    rw [List.zip_map']
  rw [freshFields_eq apart.properties, freshFields_eq otherApart.properties, nulls, nulls]
  exact congrArg (Value.object _)
    (renamedFields_zip apart.properties _ linkFields_free).symm

/-- Creating an object ends alike under another convention. -/
theorem endsAlike_constructor (apart : site.NamesApart)
    (otherApart : (site.withNaming naming).NamesApart) (bound : site.plan.isBound = true)
    (args : List Value) (log : Log) :
    EndsAlike (site.plan.renamedObject (site.withNaming naming).plan)
      site.plan.connectionConstructor (site.withNaming naming).plan.connectionConstructor
      (site.scene.instantiate args log) ((site.withNaming naming).scene.instantiate args log) := by
  have made {site : Deployment} (link : Value) (rest : List Value) :
      site.scene.instantiate (link :: rest) =
        pure (.object site.plan.className (site.freshFields link)) :=
    instantiateIn_eq fun _ => rfl
  have fails {site : Deployment} (bound : site.plan.isBound = true) :
      site.scene.instantiate [] = throw (.missingArgument constructorName connectionName) := by
    rw [Scene.instantiate, Scene.instantiateIn, scene_recordClass, constructor?_eq, if_pos bound]
    rfl
  refine EndsAlike.of_map ?_ log
  cases args with
  | nil =>
      have otherBound : (site.withNaming naming).plan.isBound = true := bound
      rw [fails bound, fails otherBound]
      rfl
  | cons link rest => rw [made, made, map_pure, blank_withNaming apart otherApart]

/-- Members that the two classes are made with for the same purpose. -/
inductive Alike (site other : Deployment) : Member → Member → Prop where
  | property (item counterpart : Property) :
      Alike site other (.property item) (.property counterpart)
  | constructor (bound : site.plan.isBound = true) :
      Alike site other (.method site.plan.connectionConstructor)
        (.method other.plan.connectionConstructor)
  | all : Alike site other (.method site.plan.allFetcher) (.method other.plan.allFetcher)
  | count : Alike site other (.method site.plan.countFetcher) (.method other.plan.countFetcher)
  | key (description : String) {columns : List Column} (group : columns ∈ site.table.keyGroups) :
      Alike site other (.method (site.plan.keyFetcher description columns))
        (.method (other.plan.keyFetcher description columns))
  | keyPage (description : String) {columns : List Column}
      (group : columns ∈ site.table.keyGroups) :
      Alike site other (.method (site.plan.keyPageFetcher description columns))
        (.method (other.plan.keyPageFetcher description columns))
  | add : Alike site other (.method site.plan.addMutator) (.method other.plan.addMutator)
  | delete : Alike site other (.method site.plan.deleteMutator) (.method other.plan.deleteMutator)
  | update : Alike site other (.method site.plan.updateMutator) (.method other.plan.updateMutator)
  | fromRecord : Alike site other (.method site.plan.fromRecord) (.method other.plan.fromRecord)
  | serialize : Alike site other (.method site.plan.serialize) (.method other.plan.serialize)

/-- A primary key is one of the keys with accessors. -/
theorem primaryColumns_mem_keyGroups {table : Table}
    (filled : table.primaryColumns.isEmpty = false) :
    table.primaryColumns ∈ table.keyGroups := by
  have keyed : table.hasPrimaryKey = true := by
    cases none : table.hasPrimaryKey with
    | true => rfl
    | false =>
        have empty : table.primaryKey = [] := by
          simpa [Table.hasPrimaryKey] using none
        rw [Table.primaryColumns, empty] at filled
        cases filled
  simp only [Table.keyGroups, List.mem_append, keyed, ↓reduceIte]
  exact Or.inl (Or.inl (Or.inl (List.mem_singleton_self _)))

/-- **Every part offers the same members under both conventions**, in the same order. -/
theorem forall₂_alike (site : Deployment) (naming : Naming.Convention) (part : Part) :
    List.Forall₂ (site.Alike (site.withNaming naming)) (part.members site.plan)
      (part.members (site.withNaming naming).plan) := by
  have counterparts := @Plan.forall₂_counterparts site.plan (site.withNaming naming).plan rfl part
    fun _ => rfl
  refine counterparts.imp fun member counterpart made => ?_
  cases made with
  | property inTable => exact .property _ _
  | connection bound => exact .property _ _
  | constructor bound => exact .constructor bound
  | all => exact .all
  | count keyed => exact .count
  | primaryKey means keyed => exact .key _ (primaryColumns_mem_keyGroups keyed)
  | uniqueKey means inTable =>
      refine .key _ ?_
      simp only [Table.keyGroups, List.mem_append]
      exact Or.inl (Or.inl (Or.inr (List.mem_map_of_mem inTable)))
  | nonUniqueKey means inTable =>
      refine .keyPage _ ?_
      simp only [Table.keyGroups, List.mem_append]
      exact Or.inl (Or.inr (List.mem_map_of_mem inTable))
  | foreignKey means inTable =>
      refine .keyPage _ ?_
      simp only [Table.keyGroups, List.mem_append]
      exact Or.inr (List.mem_map_of_mem inTable)
  | add => exact .add
  | delete keyed => exact .delete
  | update keyed => exact .update
  | fromRecord => exact .fromRecord
  | serialize => exact .serialize

/-- A method of the class is renamed where its calls on the class end alike. -/
theorem renamesCalls_static {method twin : Method} (static : method.kind = .static)
    (twinStatic : twin.kind = .static)
    (ends : ∀ args log, EndsAlike (site.plan.renamed (site.withNaming naming).plan) method twin
      (site.scene.callStatic method.name args log)
      ((site.withNaming naming).scene.callStatic twin.name args log)) :
    site.RenamesCalls (site.withNaming naming) method twin where
  kind := twinStatic.trans static.symm
  ofClass := fun _ => ends
  ofObject := fun ofObject => absurd (ofObject.symm.trans static) ofObject_ne_static
  constructs := fun constructs => absurd (constructs.symm.trans static) constructor_ne_static

/-- A method of objects is renamed where its calls on an object and its counterpart end alike. -/
theorem renamesCalls_ofObject (apart : site.NamesApart)
    (otherApart : (site.withNaming naming).NamesApart) {method twin : Method}
    (kind : method.kind = .ofObject) (twinKind : twin.kind = .ofObject)
    (ends : ∀ {link record object counterpart},
      site.HoldsRow (site.withNaming naming) link record object counterpart → ∀ args log,
      EndsAlike
        (Prod.map (site.plan.renamed (site.withNaming naming).plan)
          (site.plan.renamedObject (site.withNaming naming).plan))
        method twin (site.scene.callOnObject object method.name args log)
        ((site.withNaming naming).scene.callOnObject counterpart twin.name args log)) :
    site.RenamesCalls (site.withNaming naming) method twin where
  kind := twinKind.trans kind.symm
  ofClass := fun static => absurd (kind.symm.trans static) ofObject_ne_static
  ofObject := by
    intro _ link record object counterpart before after before' after' ran counterpartRan
    have holds : site.HoldsRow (site.withNaming naming) link record object counterpart :=
      { made := (callStatic_fromRecord_eq_ok_iff.mp ran).1
        counterpartMade := (callStatic_fromRecord_eq_ok_iff.mp counterpartRan).1 }
    exact ⟨holds.counterpart_eq apart otherApart, ends holds⟩
  constructs := fun constructs => nomatch kind.symm.trans constructs

/-- Methods that stand for each other in the two classes behave the same but for names. -/
theorem Alike.renamesCalls (apart : site.NamesApart)
    (otherApart : (site.withNaming naming).NamesApart) {method twin : Method}
    (alike : site.Alike (site.withNaming naming) (.method method) (.method twin))
    (kept : method ∈ site.recordClass.methods)
    (twinKept : twin ∈ (site.withNaming naming).recordClass.methods) :
    site.RenamesCalls (site.withNaming naming) method twin := by
  have all : site.table.columns ⊆ site.table.columns := List.Subset.refl _
  have primary : site.table.primaryColumns ⊆ site.table.columns :=
    fun _ => mem_columns_of_mem_columnsOf
  cases alike with
  | constructor bound =>
      exact
        { kind := rfl
          ofClass := nofun
          ofObject := nofun
          constructs := fun _ => endsAlike_constructor apart otherApart bound }
  | all =>
      exact renamesCalls_static rfl rfl
        (@endsAlike_pageFetcher site naming [] apart otherApart List.nodup_nil List.nodup_nil
          _ _ _ _ kept twinKept)
  | count => exact renamesCalls_static rfl rfl (endsAlike_countFetcher kept twinKept)
  | key description group =>
      exact renamesCalls_static rfl rfl
        (endsAlike_keyFetcher apart otherApart (apart.keyParams _ group)
          (otherApart.keyParams _ group) kept twinKept)
  | keyPage description group =>
      exact renamesCalls_static rfl rfl
        (endsAlike_pageFetcher apart otherApart (apart.keyParams _ group)
          (otherApart.keyParams _ group) kept twinKept)
  | fromRecord => exact renamesCalls_static rfl rfl (endsAlike_fromRecord apart otherApart)
  | add =>
      exact renamesCalls_ofObject apart otherApart rfl rfl fun holds =>
        endsAlike_mutator apart otherApart holds all kept twinKept
  | delete =>
      exact renamesCalls_ofObject apart otherApart rfl rfl fun holds =>
        endsAlike_mutator apart otherApart holds primary kept twinKept
  | update =>
      rw [Plan.updateMutator_eq] at kept twinKept ⊢
      rw [Plan.updateMutator_eq]
      exact renamesCalls_ofObject apart otherApart rfl rfl fun holds =>
        endsAlike_mutator apart otherApart holds (List.append_subset.mpr ⟨all, primary⟩) kept
          twinKept
  | serialize =>
      exact renamesCalls_ofObject apart otherApart rfl rfl fun holds =>
        endsAlike_serialize apart otherApart holds kept twinKept

/-- **Naming is only a renaming.** Take any two conventions under which columns have distinct
properties and the columns of each key distinct parameters, and the methods that a part offers at
one place under the two. Where both classes keep them, their calls record the same requests. The
results are the same but for the names of the class, of properties and of serialized keys, or both
calls fail in the same way; where an argument is missing, each class names it as its own. -/
theorem renames_member (site : Deployment) (naming : Naming.Convention) (apart : site.NamesApart)
    (otherApart : (site.withNaming naming).NamesApart) {part : Part} {index : Nat}
    {method twin : Method} (offered : (part.members site.plan)[index]? = some (.method method))
    (twinOffered :
      (part.members (site.withNaming naming).plan)[index]? = some (.method twin))
    (kept : method ∈ site.recordClass.methods)
    (twinKept : twin ∈ (site.withNaming naming).recordClass.methods) :
    site.RenamesCalls (site.withNaming naming) method twin := by
  have alike : site.Alike (site.withNaming naming) (.method method) (.method twin) := by
    obtain ⟨here, same⟩ := List.getElem?_eq_some_iff.mp offered
    obtain ⟨there, twinSame⟩ := List.getElem?_eq_some_iff.mp twinOffered
    have pair := (forall₂_alike site naming part).get here there
    rwa [List.get_eq_getElem, List.get_eq_getElem, same, twinSame] at pair
  exact alike.renamesCalls apart otherApart kept twinKept

/-- A convention that changes every name of the class of visits. -/
def shouting : Naming.Convention :=
  { classes := some .upperCamel, methods := some .lowerSnake, properties := some .screamingSnake }

/-- The names of visits are apart under the default convention. -/
theorem namesApart_visits : visits.NamesApart where
  properties := by decide
  keyParams := by decide

/-- The names of visits are apart under the other convention. -/
theorem namesApart_shouting : (visits.withNaming shouting).NamesApart where
  properties := by decide
  keyParams := by decide

/-- The class of visits has the fetcher over its primary key under any convention. -/
theorem primaryKeyFetcher_mem_visits (naming : Naming.Convention) :
    (visits.withNaming naming).plan.primaryKeyFetcher ∈
      (visits.withNaming naming).recordClass.methods :=
  RecordClass.mem_methods.mpr
    (@primaryKeyFetcher_mem (visits.withNaming naming) loaded_visitsTable.isWhole rfl)

theorem renames_member_visits :
    visits.NamesApart ∧ (visits.withNaming shouting).NamesApart ∧
      visits.RenamesCalls (visits.withNaming shouting) visits.plan.primaryKeyFetcher
        (visits.withNaming shouting).plan.primaryKeyFetcher := by
  have offered (naming : Naming.Convention) :
      (Part.primaryKey.members (visits.withNaming naming).plan)[0]? =
        some (.method (visits.withNaming naming).plan.primaryKeyFetcher) := by rfl
  exact ⟨namesApart_visits, namesApart_shouting,
    renames_member visits shouting namesApart_visits namesApart_shouting (offered {})
      (offered shouting) (primaryKeyFetcher_mem_visits {})
      (primaryKeyFetcher_mem_visits shouting)⟩

/-- Without an argument for the key, the same call fails under each convention with the names of
that convention. -/
theorem missingArgument_visits :
    visits.NamesApart ∧ (visits.withNaming shouting).NamesApart ∧
      visits.scene.callStatic visits.plan.primaryKeyFetcher.name [.connection] [] =
        .error (.missingArgument "getById" "id") [] ∧
      (visits.withNaming shouting).scene.callStatic
          (visits.withNaming shouting).plan.primaryKeyFetcher.name [.connection] [] =
        .error (.missingArgument "get_by_id" "ID") [] ∧
      EvalError.missingArgument "getById" "id" ≠ .missingArgument "get_by_id" "ID" := by
  have fails (naming : Naming.Convention) :=
    @callStatic_missing (visits.withNaming naming) visits.table.primaryColumns _ [.connection] []
      (primaryKeyFetcher_mem_visits naming) rfl (List.append_nil _).symm (Nat.lt_succ_self 1)
  obtain ⟨_, plain⟩ := fails {}
  obtain ⟨_, shouted⟩ := fails shouting
  refine ⟨namesApart_visits, namesApart_shouting, ?_, ?_, nofun⟩
  · exact (congrFun plain []).trans (by rfl)
  · exact (congrFun shouted []).trans (by rfl)

end Deployment

end DataAccess.Members
