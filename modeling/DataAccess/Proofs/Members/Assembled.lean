import DataAccess.Evaluation.Run
import DataAccess.Members.Assembly
import DataAccess.Proofs.Code.RecordClass
import DataAccess.Proofs.Naming.AccessorNames

/-!
# Assembled classes

Which methods an assembled class can have, and that calls find them. Columns may be called
anything, but no property takes the name of a method of objects, and the names of accessors over
keys start with another letter than the names of all other methods. So a method of the class is
found under its bare name (`Deployment.method?_of_mem`), and a method with a fixed name is there
whenever it is offered (`Deployment.mem_methods_of_offered`). What the parts of a class make depends
on the plan in the details only: two plans of one table go through it member by member
(`Plan.forall₂_counterparts`).
-/

namespace DataAccess.Members

open Code Schema Naming Evaluation

/-- A name that is put aside where it is taken never is a taken name that ends otherwise. -/
theorem aside_ne {taken : Bool} {name other : String} (whenSame : name = other → taken = true)
    (plainEnd : other.toList.getLast? ≠ some '_') : aside taken name ≠ other := by
  intro same
  cases taken with
  | false => exact Bool.false_ne_true (whenSame same)
  | true =>
      refine plainEnd ?_
      rw [← same, aside, if_pos rfl, String.toList_append]
      exact List.getLast?_concat

section Names

variable (plan : Plan) (column : Column)

/-- No property is called like a method of objects. -/
theorem propertyName_notMem : plan.propertyName column ∉ objectMethodNames := by
  intro member
  have plainEnd : ∀ name ∈ objectMethodNames, name.toList.getLast? ≠ some '_' := by decide
  refine aside_ne (fun same => ?_) (plainEnd _ member) rfl
  rw [Plan.isTaken, same, List.contains_iff_mem.mpr member, Bool.true_or]

/-- No property is called like the connection that objects own. -/
theorem propertyName_ne_connection (bound : plan.isBound = true) :
    plan.propertyName column ≠ connectionName := by
  refine aside_ne (fun same => ?_) (by decide)
  rw [Plan.isTaken, same, bound, Bool.true_and, beq_self_eq_true, Bool.or_true]

/-- No parameter of a key is called like what fetchers have anyway. -/
theorem keyParamName_notMem : plan.keyParamName column ∉ fetcherNames := by
  intro member
  have plainEnd : ∀ name ∈ fetcherNames, name.toList.getLast? ≠ some '_' := by decide
  refine aside_ne (fun same => ?_) (plainEnd _ member) rfl
  rw [same]
  exact List.contains_iff_mem.mpr member

end Names

theorem ofObject_ne_static : MethodKind.ofObject ≠ .static := by decide

theorem constructor_ne_static : MethodKind.constructor ≠ .static := by decide

namespace Plan

variable {plan : Plan}

/-- The methods that the parts of a class are made of. -/
inductive Generates (plan : Plan) : Method → Prop where
  | constructor (bound : plan.isBound = true) : Generates plan plan.connectionConstructor
  | all : Generates plan plan.allFetcher
  | count : Generates plan plan.countFetcher
  | key (description : String) (columns : List Column) :
      Generates plan (plan.keyFetcher description columns)
  | keyPage (description : String) (columns : List Column) :
      Generates plan (plan.keyPageFetcher description columns)
  | add : Generates plan plan.addMutator
  | delete : Generates plan plan.deleteMutator
  | update : Generates plan plan.updateMutator
  | fromRecord : Generates plan plan.fromRecord
  | serialize : Generates plan plan.serialize

/-- The methods whose names do not depend on the table. -/
def namedMethods (plan : Plan) : List Method :=
  [ plan.connectionConstructor, plan.allFetcher, plan.countFetcher, plan.addMutator,
    plan.deleteMutator, plan.updateMutator, plan.fromRecord, plan.serialize ]

/-- The names that do not depend on the table. -/
theorem names_namedMethods (plan : Plan) :
    plan.namedMethods.map (·.name) =
      ["constructor", "all", "count", "add", "delete", "update", "fromRecord", "serialize"] := rfl

/-- A generated method has a fixed name, or one that begins like those of accessors over keys. -/
theorem mem_namedMethods_or_startsWithG {method : Method} (generated : plan.Generates method) :
    method ∈ plan.namedMethods ∨ StartsWithG method.name.toList := by
  cases generated with
  | key description columns => exact Or.inr (keyMethodName_startsWithG plan.naming _)
  | keyPage description columns => exact Or.inr (keyMethodName_startsWithG plan.naming _)
  | _ => exact Or.inl (by simp [namedMethods])

/-- No fixed name starts with the letter of accessors over keys. -/
theorem notMem_of_startsWithG (plan : Plan) {name : String} (start : StartsWithG name.toList) :
    name ∉ plan.namedMethods.map (·.name) := by
  intro member
  have others : ∀ fixed ∈ plan.namedMethods.map (·.name),
      fixed.toList.head? ≠ some 'g' ∧ fixed.toList.head? ≠ some 'G' := by
    rw [names_namedMethods]
    decide
  obtain ⟨notLower, notUpper⟩ := others name member
  obtain ⟨rest, lower | upper⟩ := start
  · exact notLower (by rw [lower, List.head?_cons])
  · exact notUpper (by rw [upper, List.head?_cons])

/-- A fixed name stands for one method. -/
theorem Generates.eq_of_name {method named : Method} (generated : plan.Generates method)
    (fixed : named ∈ plan.namedMethods) (same : method.name = named.name) : method = named := by
  rcases mem_namedMethods_or_startsWithG generated with member | start
  · have distinct : (plan.namedMethods.map (·.name)).Nodup := by
      rw [names_namedMethods]
      decide
    exact List.inj_on_of_nodup_map distinct member fixed same
  · refine absurd ?_ (notMem_of_startsWithG plan start)
    rw [same]
    exact List.mem_map_of_mem fixed

/-- A fetcher of one record is no fetcher of a page: one gives an object or null, the other a
list. -/
theorem keyFetcher_ne_keyPageFetcher (plan : Plan) (description pageDescription : String)
    (columns pageColumns : List Column) :
    plan.keyFetcher description columns ≠ plan.keyPageFetcher pageDescription pageColumns := by
  intro same
  have returns : plan.classType.orNull = .list plan.classType :=
    Option.some.inj (congrArg Method.returns same)
  cases returns

/-- The name of a method tells whether it is called on the class or on its objects. -/
theorem Generates.isStatic_iff {method : Method} (generated : plan.Generates method) :
    method.kind = .static ↔ method.name ∉ objectMethodNames := by
  have keyName (columns : List Column) : plan.keyFetcherName columns ∉ objectMethodNames := by
    intro member
    have fixed : ∀ name ∈ objectMethodNames, name ∈ plan.namedMethods.map (·.name) := by
      rw [names_namedMethods]
      decide
    exact notMem_of_startsWithG plan (keyMethodName_startsWithG plan.naming _) (fixed _ member)
  cases generated with
  | key description columns => exact iff_of_true rfl (keyName columns)
  | keyPage description columns => exact iff_of_true rfl (keyName columns)
  | all => exact iff_of_true rfl (by decide : "all" ∉ objectMethodNames)
  | count => exact iff_of_true rfl (by decide : "count" ∉ objectMethodNames)
  | fromRecord => exact iff_of_true rfl (by decide : fromRecordName ∉ objectMethodNames)
  | constructor bound =>
      exact iff_of_false constructor_ne_static
        (not_not_intro (by decide : constructorName ∈ objectMethodNames))
  | add =>
      exact iff_of_false ofObject_ne_static
        (not_not_intro (by decide : "add" ∈ objectMethodNames))
  | delete =>
      exact iff_of_false ofObject_ne_static
        (not_not_intro (by decide : "delete" ∈ objectMethodNames))
  | update =>
      exact iff_of_false ofObject_ne_static
        (not_not_intro (by decide : "update" ∈ objectMethodNames))
  | serialize =>
      exact iff_of_false ofObject_ne_static
        (not_not_intro (by decide : "serialize" ∈ objectMethodNames))

/-- The one constructor belongs to classes whose objects own their connection. -/
theorem Generates.eq_constructor {method : Method} (generated : plan.Generates method)
    (kind : method.kind = .constructor) :
    plan.isBound = true ∧ method = plan.connectionConstructor := by
  cases generated with
  | constructor bound => exact ⟨bound, rfl⟩
  | _ => cases kind

/-- The property of a column. -/
def columnProperty (plan : Plan) (column : Column) : Property :=
  { name := plan.propertyName column
    type := propertyType column
    doc := plan.doc { description := some (propertyDescription column) } }

/-- What the parts make of a table, and what they make in its place under another plan. -/
inductive Counterparts (plan other : Plan) : Part → Member → Member → Prop where
  | property {column : Column} (inTable : column ∈ plan.table.columns) :
      Counterparts plan other .properties
        (.property (plan.columnProperty column)) (.property (other.columnProperty column))
  | connection (bound : plan.isBound = true) :
      Counterparts plan other .constructor
        (.property connectionProperty) (.property connectionProperty)
  | constructor (bound : plan.isBound = true) :
      Counterparts plan other .constructor
        (.method plan.connectionConstructor) (.method other.connectionConstructor)
  | all : Counterparts plan other .all (.method plan.allFetcher) (.method other.allFetcher)
  | count (keyed : plan.table.hasPrimaryKey = true) :
      Counterparts plan other .count (.method plan.countFetcher) (.method other.countFetcher)
  | primaryKey {description : String}
      (means : description = "Fetch the record with the given primary key.")
      (keyed : plan.table.primaryColumns.isEmpty = false) :
      Counterparts plan other .primaryKey
        (.method (plan.keyFetcher description plan.table.primaryColumns))
        (.method (other.keyFetcher description plan.table.primaryColumns))
  | uniqueKey {key description : String} {refs : List ColumnRef}
      (means : description = "Fetch the record matching unique key \x60" ++ key ++ "\x60.")
      (inTable : (key, refs) ∈ plan.table.uniqueKeys) :
      Counterparts plan other .uniqueKeys
        (.method (plan.keyFetcher description (plan.table.columnsOf refs)))
        (.method (other.keyFetcher description (plan.table.columnsOf refs)))
  | nonUniqueKey {key description : String} {refs : List ColumnRef}
      (means : description = "Fetch records matching index \x60" ++ key ++ "\x60.")
      (inTable : (key, refs) ∈ plan.table.nonUniqueKeys) :
      Counterparts plan other .nonUniqueKeys
        (.method (plan.keyPageFetcher description (plan.table.columnsOf refs)))
        (.method (other.keyPageFetcher description (plan.table.columnsOf refs)))
  | foreignKey {constraint description : String} {pairs : List ForeignPair}
      (means : description =
        "Fetch records referencing \x60" ++ (pairs.head?.map (·.referencedTable)).getD "" ++
          "\x60 through \x60" ++ constraint ++ "\x60.")
      (inTable : (constraint, pairs) ∈ plan.table.foreignKeys) :
      Counterparts plan other .foreignKeys
        (.method (plan.keyPageFetcher description (plan.table.columnsOf (pairs.map (·.own)))))
        (.method (other.keyPageFetcher description (plan.table.columnsOf (pairs.map (·.own)))))
  | add : Counterparts plan other .add (.method plan.addMutator) (.method other.addMutator)
  | delete (keyed : plan.table.primaryColumns.isEmpty = false) :
      Counterparts plan other .delete (.method plan.deleteMutator) (.method other.deleteMutator)
  | update (keyed : plan.table.primaryColumns.isEmpty = false) :
      Counterparts plan other .update (.method plan.updateMutator) (.method other.updateMutator)
  | fromRecord :
      Counterparts plan other .fromRecord (.method plan.fromRecord) (.method other.fromRecord)
  | serialize :
      Counterparts plan other .serialize (.method plan.serialize) (.method other.serialize)

/-- **A part makes the same of a table under all plans**, member by member. -/
theorem forall₂_counterparts {other : Plan} (sameTable : other.table = plan.table) {part : Part}
    (sameBinding : part = .constructor → other.isBound = plan.isBound) :
    List.Forall₂ (plan.Counterparts other part) (part.members plan) (part.members other) := by
  have each {γ : Type} {part : Part} {items : List γ} {first second : γ → Member}
      (made : ∀ item ∈ items, plan.Counterparts other part (first item) (second item)) :
      List.Forall₂ (plan.Counterparts other part) (items.map first) (items.map second) := by
    rw [List.forall₂_map_left_iff, List.forall₂_map_right_iff]
    exact List.forall₂_same.mpr made
  have unlessAbsent {part : Part} {absent : Bool} {method counterpart : Method}
      (made : absent = false →
        plan.Counterparts other part (.method method) (.method counterpart)) :
      List.Forall₂ (plan.Counterparts other part)
        ((if absent then [] else [method]).map .method)
        ((if absent then [] else [counterpart]).map .method) := by
    cases absent with
    | true => exact .nil
    | false => exact .cons (made rfl) .nil
  cases part with
  | properties =>
      simp only [Part.members, columnProperties, sameTable, List.map_map]
      exact each fun column inTable => .property inTable
  | constructor =>
      simp only [Part.members, connectionMembers, sameBinding rfl]
      cases bound : plan.isBound with
      | false => exact .nil
      | true => exact .cons (.connection bound) (.cons (.constructor bound) .nil)
  | all => exact .cons .all .nil
  | count =>
      simp only [Part.members, countFetchers, sameTable]
      cases keyed : plan.table.hasPrimaryKey with
      | false => exact .nil
      | true => exact .cons (.count keyed) .nil
  | primaryKey =>
      simp only [Part.members, primaryKeyFetchers, sameTable]
      exact unlessAbsent (.primaryKey rfl)
  | uniqueKeys =>
      simp only [Part.members, uniqueKeyFetchers, sameTable, List.map_map]
      exact each fun group inTable => .uniqueKey rfl inTable
  | nonUniqueKeys =>
      simp only [Part.members, nonUniqueKeyFetchers, sameTable, List.map_map]
      exact each fun group inTable => .nonUniqueKey rfl inTable
  | foreignKeys =>
      simp only [Part.members, foreignKeyFetchers, sameTable, List.map_map]
      exact each fun group inTable => .foreignKey rfl inTable
  | add => exact .cons .add .nil
  | delete =>
      simp only [Part.members, deleteMutators, sameTable]
      exact unlessAbsent .delete
  | update =>
      simp only [Part.members, updateMutators, sameTable]
      exact unlessAbsent .update
  | fromRecord => exact .cons .fromRecord .nil
  | serialize => exact .cons .serialize .nil

/-- What a part makes is its own counterpart. -/
theorem counterparts_self {part : Part} {member : Member} (found : member ∈ part.members plan) :
    plan.Counterparts plan part member member :=
  List.forall₂_same.mp (forall₂_counterparts rfl fun _ => rfl) member found

/-- A member of a part is a property, whose name no method of objects has, or a generated
method. -/
theorem property_or_generates {part : Part} {member : Member}
    (found : member ∈ part.members plan) :
    (∃ item, member = .property item ∧ item.name ∉ objectMethodNames) ∨
      ∃ method, member = .method method ∧ plan.Generates method := by
  cases counterparts_self found with
  | property inTable => exact Or.inl ⟨_, rfl, propertyName_notMem plan _⟩
  | connection bound => exact Or.inl ⟨_, rfl, by decide⟩
  | constructor bound => exact Or.inr ⟨_, rfl, .constructor bound⟩
  | all => exact Or.inr ⟨_, rfl, .all⟩
  | count keyed => exact Or.inr ⟨_, rfl, .count⟩
  | primaryKey means keyed => exact Or.inr ⟨_, rfl, .key _ _⟩
  | uniqueKey means inTable => exact Or.inr ⟨_, rfl, .key _ _⟩
  | nonUniqueKey means inTable => exact Or.inr ⟨_, rfl, .keyPage _ _⟩
  | foreignKey means inTable => exact Or.inr ⟨_, rfl, .keyPage _ _⟩
  | add => exact Or.inr ⟨_, rfl, .add⟩
  | delete keyed => exact Or.inr ⟨_, rfl, .delete⟩
  | update keyed => exact Or.inr ⟨_, rfl, .update⟩
  | fromRecord => exact Or.inr ⟨_, rfl, .fromRecord⟩
  | serialize => exact Or.inr ⟨_, rfl, .serialize⟩

end Plan

/-- A generated class in use: what it is made from, and what its connection answers. -/
structure Deployment where
  assembler : Assembler
  table : Table
  target : ClassTarget
  rows : List Database.Row := []
  affected : Int64 := 0

namespace Deployment

variable (site : Deployment)

/-- What the members of the class are made from. -/
def plan : Plan :=
  site.assembler.plan site.table site.target

/-- The class of the table. -/
def recordClass : RecordClass :=
  site.assembler.assemble site.table site.target

/-- The class in use, with what its connection answers. -/
def scene : Scene :=
  { recordClass := site.recordClass, rows := site.rows, affected := site.affected }

variable {site}

@[simp] theorem scene_recordClass : site.scene.recordClass = site.recordClass := rfl

/-- The class before it has members. -/
def bare (site : Deployment) : RecordClass :=
  { namespaceName := site.assembler.namespaceName site.table site.target
    name := site.plan.className
    sourceTable := site.table.qualifiedName
    members := [] }

/-- The members of the class are the offered ones, but for those whose names are taken. -/
theorem members_recordClass :
    site.recordClass.members =
      (site.bare.pushAll (site.plan.offered site.target.mutators)).members :=
  (RecordClass.addImports_eq _ _).1

@[simp] theorem name_recordClass : site.recordClass.name = site.plan.className :=
  (RecordClass.addImports_eq _ _).2.trans (RecordClass.name_pushAll site.bare _)

/-- No two members of the class have the same name in the same scope. -/
theorem nodup_keys : site.recordClass.keys.Nodup := by
  have start : site.bare.keys.Nodup := List.nodup_nil
  rw [RecordClass.keys, members_recordClass]
  exact RecordClass.nodup_keys_pushAll start _

/-- What a part makes is offered unless the part is switched off. -/
theorem mem_offered {part : Part} {member : Member}
    (enabled : part.enabled site.target.mutators = true) (found : member ∈ part.members site.plan) :
    member ∈ site.plan.offered site.target.mutators :=
  List.mem_flatMap.mpr ⟨part, List.mem_filter.mpr ⟨Part.mem_order part, enabled⟩, found⟩

/-- A member of the class was made by a part. -/
theorem mem_part_of_mem {member : Member} (found : member ∈ site.recordClass.members) :
    ∃ part : Part, member ∈ part.members site.plan := by
  rw [members_recordClass] at found
  rcases RecordClass.mem_pushAll found with before | pushed
  · cases before
  · obtain ⟨part, -, offered⟩ := List.mem_flatMap.mp pushed
    exact ⟨part, offered⟩

/-- A method of the class is one of the generated methods. -/
theorem generates_of_mem {method : Method} (member : method ∈ site.recordClass.methods) :
    site.plan.Generates method := by
  obtain ⟨part, offered⟩ := mem_part_of_mem (RecordClass.mem_methods.mp member)
  rcases Plan.property_or_generates offered with ⟨item, same, -⟩ | ⟨other, same, generated⟩
  · cases same
  · cases same
    exact generated

/-- Generated methods of one name have one scope. -/
theorem scope_eq {method other : Method} (generated : site.plan.Generates method)
    (otherGenerated : site.plan.Generates other) (same : other.name = method.name) :
    (Member.method other).scope = (Member.method method).scope := by
  have kinds : other.kind = .static ↔ method.kind = .static := by
    rw [generated.isStatic_iff, otherGenerated.isStatic_iff, same]
  simp only [Member.scope, kinds]

/-- **A method of the class is found under its bare name.** -/
theorem method?_of_mem {method : Method} (member : method ∈ site.recordClass.methods) :
    site.recordClass.method? method.name = some method := by
  refine RecordClass.method?_of_mem member fun other found same => ?_
  have keys : (Member.method other).key = (Member.method method).key :=
    Prod.ext (scope_eq (generates_of_mem member) (generates_of_mem found) same) same
  have members : Member.method other = Member.method method :=
    List.inj_on_of_nodup_map nodup_keys (RecordClass.mem_methods.mp found)
      (RecordClass.mem_methods.mp member) keys
  exact Member.method.inj members

/-- A call on the class finds the method and runs it. -/
theorem callStatic_of_mem {method : Method} (member : method ∈ site.recordClass.methods)
    (args : List Value) :
    site.scene.callStatic method.name args = (do
      let (result, _) ← invoke (site.scene.surroundings Scene.callLimit) method none args
      pure result) := by
  rw [Scene.callStatic, Scene.callStaticIn, Scene.method, scene_recordClass, method?_of_mem member,
    pure_bind]

/-- A call on an object finds the method and runs it on the object. -/
theorem callOnObject_of_mem {method : Method} (member : method ∈ site.recordClass.methods)
    (this : Value) (args : List Value) :
    site.scene.callOnObject this method.name args = (do
      let (result, after) ←
        invoke (site.scene.surroundings Scene.callLimit) method (some this) args
      pure (result, after.getD this)) := by
  rw [Scene.callOnObject, Scene.method, scene_recordClass, method?_of_mem member, pure_bind]

/-- A method with a fixed name is in the class if a part of the class offers it. -/
theorem mem_methods_of_offered (part : Part) {method : Method}
    (enabled : part.enabled site.target.mutators = true)
    (offered : .method method ∈ part.members site.plan)
    (fixed : method ∈ site.plan.namedMethods) : method ∈ site.recordClass.methods := by
  have generated : site.plan.Generates method := by
    rcases Plan.property_or_generates offered with ⟨item, same, -⟩ | ⟨other, same, generated⟩
    · cases same
    · cases same
      exact generated
  have taken : (Member.method method).key ∈ site.recordClass.keys := by
    rw [RecordClass.keys, members_recordClass]
    exact RecordClass.key_mem_pushAll site.bare (mem_offered enabled offered)
  obtain ⟨holder, found, key⟩ := List.mem_map.mp taken
  obtain ⟨scope, name⟩ := Prod.mk.inj key
  obtain ⟨part, holderOffered⟩ := mem_part_of_mem found
  rcases Plan.property_or_generates holderOffered with ⟨item, rfl, free⟩ | ⟨other, rfl, made⟩
  · -- A property shares its scope with methods of objects only, and none has its name.
    have notStatic : method.kind ≠ .static := by
      intro static
      simp [Member.scope, static] at scope
    have same : item.name = method.name := name
    exact absurd (generated.isStatic_iff.mpr (same ▸ free)) notStatic
  · rw [← made.eq_of_name fixed name]
    exact RecordClass.mem_methods.mpr found

/-- Every class can make objects from rows. -/
theorem fromRecord_mem : site.plan.fromRecord ∈ site.recordClass.methods :=
  mem_methods_of_offered .fromRecord rfl (List.mem_singleton_self _)
    (by simp [Plan.namedMethods])

/-- A class has the mutator that inserts unless it is switched off. -/
theorem addMutator_mem (enabled : site.target.mutators.add = true) :
    site.plan.addMutator ∈ site.recordClass.methods :=
  mem_methods_of_offered .add enabled (List.mem_singleton_self _)
    (by simp [Plan.namedMethods])

/-- A fixed name that the class has a method for stands for the generated method of that name. -/
theorem eq_of_method? {method : Method} (named : Method) (fixed : named ∈ site.plan.namedMethods)
    (found : site.recordClass.method? named.name = some method) :
    method = named ∧ named ∈ site.recordClass.methods := by
  obtain ⟨member, same⟩ := RecordClass.mem_of_method? found
  obtain rfl := (generates_of_mem member).eq_of_name fixed same
  exact ⟨rfl, member⟩

/-- Objects are bound by a constructor in the bound family only. -/
theorem constructor?_eq :
    site.recordClass.constructor? =
      if site.plan.isBound then some site.plan.connectionConstructor else none := by
  rw [RecordClass.constructor?]
  cases found : site.recordClass.methods.find? (·.kind = .constructor) with
  | none =>
      cases bound : site.plan.isBound with
      | false => rfl
      | true =>
          have member : site.plan.connectionConstructor ∈ site.recordClass.methods :=
            mem_methods_of_offered .constructor rfl
              (by simp [Part.members, Plan.connectionMembers, bound]) (by simp [Plan.namedMethods])
          exact absurd (decide_eq_true rfl) (List.find?_eq_none.mp found _ member)
  | some method =>
      have kind : method.kind = .constructor := by simpa using List.find?_some found
      obtain ⟨bound, same⟩ :=
        (generates_of_mem (List.mem_of_find?_eq_some found)).eq_constructor kind
      rw [bound, if_pos rfl, same]

end Deployment

end DataAccess.Members
