import DataAccess.Proofs.Catalog.LoadedTables
import DataAccess.Proofs.Members.Hydration

/-!
# Members for the life of a record

Which of the offered members an assembled class keeps (`Deployment.members_eq`). The members that
the life of a record needs are never left out in favour of others, whatever the columns and keys of
the table are called: each is the only member under its name and the one that its part made
(`Deployment.HasLifecycle`).
-/

namespace DataAccess.Members

open Code Schema Naming

/-- The name of the method that a part makes; accessors over keys are named after their keys. -/
def Part.fixedName? : Part → Option String
  | .constructor => some constructorName
  | .all => some "all"
  | .count => some "count"
  | .add => some "add"
  | .delete => some "delete"
  | .update => some "update"
  | .fromRecord => some fromRecordName
  | .serialize => some "serialize"
  | .properties | .primaryKey | .uniqueKeys | .nonUniqueKeys | .foreignKeys => none

/-- Whether a part makes accessors over keys. -/
def Part.isKeyed : Part → Bool
  | .primaryKey | .uniqueKeys | .nonUniqueKeys | .foreignKeys => true
  | _ => false

theorem Part.eq_of_fixedName? {part other : Part} {name : String}
    (here : part.fixedName? = some name) (there : other.fixedName? = some name) : part = other := by
  have apart : ∀ first ∈ order, ∀ second ∈ order,
      first.fixedName? ≠ none → first.fixedName? = second.fixedName? → first = second := by decide
  refine apart part (mem_order part) other (mem_order other) ?_ (here.trans there.symm)
  rw [here]
  exact Option.some_ne_none name

theorem head?_of_startsWithG {text : List Char} (start : StartsWithG text) :
    text.head? = some 'g' ∨ text.head? = some 'G' := by
  obtain ⟨rest, rfl | rfl⟩ := start
  · exact Or.inl rfl
  · exact Or.inr rfl

namespace Plan

variable {plan : Plan}

/-- The fetcher of the record with a primary key. -/
def primaryKeyFetcher (plan : Plan) : Method :=
  plan.keyFetcher "Fetch the record with the given primary key." plan.table.primaryColumns

theorem primaryKeyFetchers_eq (plan : Plan) :
    plan.primaryKeyFetchers =
      if plan.table.primaryColumns.isEmpty then [] else [plan.primaryKeyFetcher] := rfl

/-- A method has the name of its part, or its part names it after a key. -/
theorem name_of_mem_part {part : Part} {method : Method}
    (found : .method method ∈ part.members plan) :
    part.fixedName? = some method.name ∨
      part.isKeyed = true ∧ StartsWithG method.name.toList := by
  have keyed (columns : List Column) : StartsWithG (plan.keyFetcherName columns).toList :=
    keyMethodName_startsWithG plan.naming _
  cases counterparts_self found with
  | primaryKey | uniqueKey | nonUniqueKey | foreignKey => exact Or.inr ⟨rfl, keyed _⟩
  | _ => exact Or.inl rfl

/-- No part has a fixed name that starts with the letter of accessors over keys. -/
theorem not_startsWithG_fixedName {part : Part} {name : String}
    (fixed : part.fixedName? = some name) : ¬ StartsWithG name.toList := by
  have others : ∀ part ∈ Part.order, ∀ name ∈ part.fixedName?,
      name.toList.head? ≠ some 'g' ∧ name.toList.head? ≠ some 'G' := by decide
  obtain ⟨notLower, notUpper⟩ := others part (Part.mem_order part) name fixed
  intro start
  rcases head?_of_startsWithG start with lower | upper
  · exact notLower lower
  · exact notUpper upper

/-- A fixed name tells the part that made a method. -/
theorem part_of_name {part other : Part} {method : Method}
    (found : .method method ∈ other.members plan) (fixed : part.fixedName? = some method.name) :
    other = part := by
  rcases name_of_mem_part found with named | ⟨-, start⟩
  · exact Part.eq_of_fixedName? named fixed
  · exact absurd start (not_startsWithG_fixedName fixed)

theorem length_eq_of_keyFetcher {description other : String} {columns more : List Column}
    (same : plan.keyFetcher description columns = plan.keyFetcher other more) :
    columns.length = more.length := by
  have params : (connectionParam :: plan.keyParams columns).length =
      (connectionParam :: plan.keyParams more).length :=
    congrArg (fun method => method.params.length) same
  simpa [keyParams] using params

/-- The fetcher over the primary key comes from its own part, and only for a table that has one. -/
theorem hasPrimaryKey_of_mem (whole : plan.table.IsWhole) {part : Part}
    (found : .method plan.primaryKeyFetcher ∈ part.members plan) :
    plan.table.hasPrimaryKey = true := by
  by_contra without
  have noColumns : plan.table.primaryColumns = [] :=
    whole.primaryColumns_eq_nil_iff.mpr ((Bool.not_eq_true _).mp without)
  have keyed : StartsWithG plan.primaryKeyFetcher.name.toList :=
    keyMethodName_startsWithG plan.naming _
  have named := name_of_mem_part found
  generalize same : Member.method plan.primaryKeyFetcher = member at found
  cases counterparts_self found with
  | primaryKey means some => cases noColumns ▸ some
  | @uniqueKey key _ refs means inTable =>
      have lengths := length_eq_of_keyFetcher (Member.method.inj same)
      obtain ⟨filled, refer⟩ := whole.uniqueKeys (key, refs) inTable
      refine filled ((Table.columnsOf_eq_nil_iff refer).mp (List.length_eq_zero_iff.mp ?_))
      rw [← lengths, noColumns]
      rfl
  | nonUniqueKey | foreignKey =>
      exact keyFetcher_ne_keyPageFetcher plan _ _ _ _ (Member.method.inj same)
  | property | connection => cases same
  | _ =>
      rcases named with fixed | ⟨overKeys, -⟩
      · exact not_startsWithG_fixedName fixed keyed
      · cases overKeys

end Plan

namespace Deployment

variable {site : Deployment}

theorem members_eq (site : Deployment) :
    site.recordClass.members =
      (site.plan.offered site.target.mutators).eraseDupsBy
        fun member earlier => member.key = earlier.key := by
  rw [members_recordClass]
  exact RecordClass.members_pushAll rfl _

theorem enabled_part_of_mem {member : Member} (found : member ∈ site.recordClass.members) :
    ∃ part : Part, part.enabled site.target.mutators = true ∧ member ∈ part.members site.plan := by
  rw [members_recordClass] at found
  rcases RecordClass.mem_pushAll found with before | pushed
  · cases before
  · obtain ⟨part, inOrder, offered⟩ := List.mem_flatMap.mp pushed
    exact ⟨part, (List.mem_filter.mp inOrder).2, offered⟩

theorem static_ne_ofObject {method other : Method} (found : method ∈ site.recordClass.methods)
    (otherFound : other ∈ site.recordClass.methods) (static : method.kind = .static)
    (notStatic : other.kind ≠ .static) : method.name ≠ other.name := by
  intro same
  refine notStatic ((generates_of_mem otherFound).isStatic_iff.mpr ?_)
  rw [← same]
  exact (generates_of_mem found).isStatic_iff.mp static

/-- A method that an enabled part offers under a fixed name is the only one with that name. -/
theorem under_of_offered (part : Part) {method : Method}
    (enabled : part.enabled site.target.mutators = true)
    (offered : .method method ∈ part.members site.plan) (fixed : method ∈ site.plan.namedMethods) :
    site.recordClass.under (Member.method method).scope method.name = [.method method] :=
  RecordClass.under_of_mem nodup_keys
    (RecordClass.mem_methods.mp (mem_methods_of_offered part enabled offered fixed)) rfl

/-- No member has a fixed name of static methods or of methods of objects if its part does not
offer a method. -/
theorem under_of_notOffered {part : Part} {scope : Scope} {name : String}
    (fixed : part.fixedName? = some name)
    (clear : scope = .static ∨ name ∈ objectMethodNames)
    (absent : part.enabled site.target.mutators = true →
      ∀ method, .method method ∉ part.members site.plan) :
    site.recordClass.under scope name = [] := by
  refine RecordClass.under_eq_nil fun member found key => ?_
  obtain ⟨inScope, named⟩ := Prod.mk.inj key
  obtain ⟨other, enabled, offered⟩ := enabled_part_of_mem found
  rcases Plan.property_or_generates offered with ⟨item, rfl, free⟩ | ⟨method, rfl, -⟩
  · have same : item.name = name := named
    rcases clear with rfl | taken
    · cases inScope
    · exact free (same ▸ taken)
  · obtain rfl := Plan.part_of_name offered (fixed.trans (congrArg some named.symm))
    exact absent enabled method offered

/-- A method with a fixed name is there if its part is enabled and offers it, and then it is the
only member with that name. -/
theorem under_fixed (part : Part) (method : Method) (present : Bool)
    (offers : ∀ other,
      .method other ∈ part.members site.plan ↔ present = true ∧ other = method)
    (fixed : part.fixedName? = some method.name) (named : method ∈ site.plan.namedMethods)
    (clear : (Member.method method).scope = .static ∨ method.name ∈ objectMethodNames) :
    site.recordClass.under (Member.method method).scope method.name =
      if part.enabled site.target.mutators && present then [.method method] else [] := by
  by_cases there : (part.enabled site.target.mutators && present) = true
  · obtain ⟨enabled, present⟩ := Bool.and_eq_true_iff.mp there
    rw [if_pos there]
    exact under_of_offered part enabled ((offers method).mpr ⟨present, rfl⟩) named
  · rw [if_neg there]
    refine under_of_notOffered fixed clear fun enabled other offered => there ?_
    rw [enabled, ((offers other).mp offered).1]
    rfl

/-- The parts in front of the fetcher over the primary key, and the parts behind it. -/
def partsBefore : List Part :=
  [.properties, .constructor, .all, .count]

def partsAfter : List Part :=
  [.uniqueKeys, .nonUniqueKeys, .foreignKeys, .add, .delete, .update, .fromRecord, .serialize]

theorem key_ne_of_partsBefore (plan : Plan) {member : Member}
    (early : member ∈ partsBefore.flatMap (Part.members plan)) {name : String}
    (start : StartsWithG name.toList) : member.key ≠ (.static, name) := by
  intro same
  obtain ⟨scope, named⟩ := Prod.mk.inj same
  obtain ⟨part, before, found⟩ := List.mem_flatMap.mp early
  rcases Plan.property_or_generates found with ⟨item, rfl, -⟩ | ⟨method, rfl, -⟩
  · cases scope
  · have plain : ∀ part ∈ partsBefore, part.isKeyed = false := by decide
    rcases Plan.name_of_mem_part found with fixed | ⟨overKeys, -⟩
    · exact Plan.not_startsWithG_fixedName (fixed.trans (congrArg some named)) start
    · rw [plain part before] at overKeys
      cases overKeys

/-- The fetcher over the primary key is the first static member whose name starts as its own. -/
theorem primaryKeyFetcher_mem (whole : site.table.IsWhole)
    (keyed : site.table.hasPrimaryKey = true) :
    .method site.plan.primaryKeyFetcher ∈ site.recordClass.members := by
  have columns : site.plan.table.primaryColumns.isEmpty = false := by
    rw [List.isEmpty_eq_false_iff]
    intro none
    have without : site.table.hasPrimaryKey = false := whole.primaryColumns_eq_nil_iff.mp none
    rw [keyed] at without
    cases without
  have own : Part.primaryKey.members site.plan = [.method site.plan.primaryKeyFetcher] := by
    rw [Part.members, Plan.primaryKeyFetchers_eq, columns]
    rfl
  have parts : Part.order.filter (Part.enabled site.target.mutators) =
      partsBefore ++ .primaryKey :: partsAfter.filter (Part.enabled site.target.mutators) := rfl
  rw [members_recordClass, Plan.offered, parts, List.flatMap_append, List.flatMap_cons, own,
    List.singleton_append]
  exact RecordClass.mem_pushAll_of_first rfl fun _ early =>
    key_ne_of_partsBefore site.plan early (keyMethodName_startsWithG site.plan.naming _)

/-- No name is left for a method or the property of a column beside the connection of objects. -/
theorem connectionProperty_mem (bound : site.plan.isBound = true) :
    .property Plan.connectionProperty ∈ site.recordClass.members := by
  have offered : .property Plan.connectionProperty ∈ Part.constructor.members site.plan := by
    simp [Part.members, Plan.connectionMembers, bound]
  have taken : (Member.property Plan.connectionProperty).key ∈ site.recordClass.keys := by
    rw [RecordClass.keys, members_recordClass]
    exact RecordClass.key_mem_pushAll site.bare (mem_offered rfl offered)
  obtain ⟨holder, found, key⟩ := List.mem_map.mp taken
  obtain ⟨-, named⟩ := Prod.mk.inj key
  obtain ⟨part, holderOffered⟩ := mem_part_of_mem found
  cases holder with
  | method method =>
      have plain : ∀ part ∈ Part.order, part.fixedName? ≠ some connectionName := by decide
      have noAccessor : ¬ StartsWithG connectionName.toList := by
        intro start
        have start := head?_of_startsWithG start
        revert start
        decide
      have same : method.name = connectionName := named
      rcases Plan.name_of_mem_part holderOffered with fixed | ⟨-, start⟩
      · exact absurd (same ▸ fixed) (plain part (Part.mem_order part))
      · exact absurd (same ▸ start) noAccessor
  | property item =>
      have same : item.name = connectionName := named
      have members : item = Plan.connectionProperty := by
        cases Plan.counterparts_self holderOffered with
        | property inTable => exact absurd same (propertyName_ne_connection site.plan _ bound)
        | connection => rfl
      exact members ▸ found

/-- The members that the life of a record needs. Under the name of each there is the member that its
own part made and no other one. -/
structure HasLifecycle (site : Deployment) : Prop where
  all : site.recordClass.under .static "all" = [.method site.plan.allFetcher]
  fromRecord :
    site.recordClass.under .static fromRecordName = [.method site.plan.fromRecord] ∧
      site.plan.fromRecord.isPrivate = true
  serialize : site.recordClass.under .ofObject "serialize" = [.method site.plan.serialize]
  add :
    site.recordClass.under .ofObject "add" =
      if site.target.mutators.add then [.method site.plan.addMutator] else []
  count :
    site.recordClass.under .static "count" =
      if site.table.hasPrimaryKey then [.method site.plan.countFetcher] else []
  update :
    site.recordClass.under .ofObject "update" =
      if site.target.mutators.update && site.table.hasPrimaryKey then
        [.method site.plan.updateMutator] else []
  delete :
    site.recordClass.under .ofObject "delete" =
      if site.target.mutators.delete && site.table.hasPrimaryKey then
        [.method site.plan.deleteMutator] else []
  primaryKey :
    site.table.hasPrimaryKey = true →
      site.recordClass.under .static
          (site.plan.naming.keyMethodName
            (site.table.primaryColumns.map site.plan.propertyName)) =
        [.method site.plan.primaryKeyFetcher]
  onlyWithPrimaryKey :
    .method site.plan.primaryKeyFetcher ∈ site.recordClass.members →
      site.table.hasPrimaryKey = true
  connection :
    site.plan.isBound = true →
      site.recordClass.under .ofObject connectionName = [.property Plan.connectionProperty] ∧
        Plan.connectionProperty.isPrivate = true
  constructor :
    site.recordClass.under .ofObject constructorName =
      if site.plan.isBound then [.method site.plan.connectionConstructor] else []

theorem hasLifecycle (whole : site.table.IsWhole) : site.HasLifecycle := by
  have keyed : site.plan.table.primaryColumns.isEmpty = !site.table.hasPrimaryKey := by
    rw [Bool.eq_iff_iff, List.isEmpty_iff, Bool.not_eq_true']
    exact whole.primaryColumns_eq_nil_iff
  have named : ∀ method ∈ site.plan.namedMethods, method ∈ site.plan.namedMethods := fun _ => id
  simp only [Plan.namedMethods, List.forall_mem_cons] at named
  obtain ⟨constructor, all, count, add, delete, update, fromRecord, serialize, -⟩ := named
  have offersCount (other : Method) : .method other ∈ Part.count.members site.plan ↔
      site.plan.table.hasPrimaryKey = true ∧ other = site.plan.countFetcher := by
    cases present : site.plan.table.hasPrimaryKey with
    | false => simp [Part.members, Plan.countFetchers, present]
    | true => simp [Part.members, Plan.countFetchers, present]
  have offersConstructor (other : Method) : .method other ∈ Part.constructor.members site.plan ↔
      site.plan.isBound = true ∧ other = site.plan.connectionConstructor := by
    cases bound : site.plan.isBound with
    | false => simp [Part.members, Plan.connectionMembers, bound]
    | true => simp [Part.members, Plan.connectionMembers, bound]
  exact
    { all := under_of_offered .all rfl (List.mem_singleton_self _) all
      fromRecord :=
        ⟨under_of_offered .fromRecord rfl (List.mem_singleton_self _) fromRecord, rfl⟩
      serialize := under_of_offered .serialize rfl (List.mem_singleton_self _) serialize
      add := by
        have only := under_fixed .add _ true (by simp [Part.members, Plan.addMutators]) rfl add
          (Or.inr (by decide : "add" ∈ objectMethodNames))
        rwa [Bool.and_true] at only
      count := under_fixed .count _ _ offersCount rfl count (Or.inl rfl)
      update := under_fixed .update _ _
        (by simp [Part.members, Plan.updateMutators, keyed]) rfl update
        (Or.inr (by decide : "update" ∈ objectMethodNames))
      delete := under_fixed .delete _ _
        (by simp [Part.members, Plan.deleteMutators, keyed]) rfl delete
        (Or.inr (by decide : "delete" ∈ objectMethodNames))
      primaryKey := fun present =>
        RecordClass.under_of_mem nodup_keys (primaryKeyFetcher_mem whole present) rfl
      onlyWithPrimaryKey := fun found => by
        obtain ⟨part, -, offered⟩ := enabled_part_of_mem found
        exact Plan.hasPrimaryKey_of_mem whole offered
      connection := fun bound =>
        ⟨RecordClass.under_of_mem nodup_keys (connectionProperty_mem bound) rfl, rfl⟩
      constructor := under_fixed .constructor _ _ offersConstructor rfl constructor
        (Or.inr (by decide : constructorName ∈ objectMethodNames)) }

/-- **Assembling loses no member that the life of a record needs.** The class of a loaded table has
the offered members whose names are new in their scopes. No two members share scope and name, and
no static method shares its name with a method of objects. -/
theorem recordClass_hasLifecycle (site : Deployment) (loaded : Catalog.Loaded site.table) :
    site.recordClass.members =
        (site.plan.offered site.target.mutators).eraseDupsBy
          (fun member earlier => member.key = earlier.key) ∧
      site.recordClass.keys.Nodup ∧
      (∀ method ∈ site.recordClass.methods, ∀ other ∈ site.recordClass.methods,
        method.kind = .static → other.kind ≠ .static → method.name ≠ other.name) ∧
      site.HasLifecycle :=
  ⟨members_eq site, nodup_keys, fun _ found _ => static_ne_ofObject found,
    hasLifecycle loaded.isWhole⟩

theorem loaded_visitsTable : Catalog.Loaded visitsTable := by
  have built : visitsTable =
      ((Table.ofColumns "log" "visits" visitsTable.columns).withPrimaryKey
        ["id"]).withNonUniqueKey "recent" ["add", "seen"] := by rfl
  rw [built]
  exact .withNonUniqueKey "recent" ["add", "seen"] (.withPrimaryKey ["id"] (.ofColumns _ _ _))

theorem recordClass_hasLifecycle_visits :
    Catalog.Loaded visits.table ∧
      visits.recordClass.memberNames =
        ["id", "seen", "add_", "connection", "constructor", "all", "count", "getById",
          "getByAddAndSeen", "add", "delete", "update", "fromRecord", "serialize"] ∧
      visits.HasLifecycle := by
  obtain ⟨members, -, -, lifecycle⟩ := recordClass_hasLifecycle visits loaded_visitsTable
  refine ⟨loaded_visitsTable, ?_, lifecycle⟩
  rw [RecordClass.memberNames, members]
  rfl

end Deployment

end DataAccess.Members
