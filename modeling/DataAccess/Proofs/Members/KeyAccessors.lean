import DataAccess.Proofs.Members.Lifecycle

/-!
# Accessors over keys

Every key of a table offers a static method that selects by the columns of the key. The methods are
named after the properties of the columns, and different keys can have one name between them
(`Deployment.key_withoutAccessor_tags`): the first one keeps it. A key only ever loses its accessor
to an earlier key with the same name (`Deployment.keyGroup_keepsAccessor`).
-/

namespace DataAccess

/-- The columns of every key in the order in which accessors are made: of the primary key, if there
is one, of unique keys, of keys that several records can share, and own columns of foreign keys. -/
def Schema.Table.keyGroups (table : Schema.Table) : List (List Schema.Column) :=
  (if table.hasPrimaryKey then [table.primaryColumns] else []) ++
    table.uniqueKeys.map (fun group => table.columnsOf group.2) ++
    table.nonUniqueKeys.map (fun group => table.columnsOf group.2) ++
    table.foreignKeys.map (fun group => table.columnsOf (group.2.map (·.own)))

/-- The statement that a method starts from: what its variable `sql` holds at first. -/
def Code.Method.baseSql? (method : Code.Method) : Option String :=
  match method.body with
  | .declare "sql" _ _ (.text sql) :: _ => some sql
  | _ => none

namespace Members

open Code Schema Naming

/-- A static method that is named after key columns and starts from the selection of all columns of
the rows with given values in them. -/
structure Plan.Accesses (plan : Plan) (columns : List Column) (method : Method) : Prop where
  static : method.kind = .static
  name : method.name = plan.keyFetcherName columns
  baseSql : method.baseSql? = some (plan.sql (plan.selection (keyConditions columns)))

namespace Plan

variable {plan : Plan} {columns : List Column}

theorem accesses_keyFetcher (description : String) :
    plan.Accesses columns (plan.keyFetcher description columns) :=
  ⟨rfl, rfl, rfl⟩

theorem accesses_keyPageFetcher (description : String) :
    plan.Accesses columns (plan.keyPageFetcher description columns) :=
  ⟨rfl, rfl, rfl⟩

/-- An accessor over columns is one over other columns with the same name and conditions. -/
theorem Accesses.congr {others : List Column} {method : Method}
    (accesses : plan.Accesses columns method)
    (names : plan.keyFetcherName columns = plan.keyFetcherName others)
    (conditions : keyConditions columns = keyConditions others) : plan.Accesses others method where
  static := accesses.static
  name := accesses.name.trans names
  baseSql := conditions ▸ accesses.baseSql

/-- What a part over keys offers for a key. -/
def Offers (plan : Plan) (columns : List Column) (member : Member) : Prop :=
  ∃ method, member = .method method ∧ plan.Accesses columns method

theorem Offers.key_eq {member : Member} (offers : plan.Offers columns member) :
    member.key = (.static, plan.keyFetcherName columns) := by
  obtain ⟨method, rfl, accesses⟩ := offers
  rw [Member.key, Member.scope, if_pos accesses.static, Member.name, accesses.name]

/-- The parts that make accessors over keys, in order. -/
def keyedParts : List Part :=
  [.primaryKey, .uniqueKeys, .nonUniqueKeys, .foreignKeys]

/-- The parts over keys offer one accessor for each key, in the order of the keys. -/
theorem forall₂_offers (whole : plan.table.IsWhole) :
    List.Forall₂ plan.Offers plan.table.keyGroups (keyedParts.flatMap (Part.members plan)) := by
  have grouped {γ : Type} (groups : List γ) (columns : γ → List Column) (method : γ → Method)
      (each : ∀ group, plan.Accesses (columns group) (method group)) :
      List.Forall₂ plan.Offers (groups.map columns) ((groups.map method).map Member.method) := by
    rw [List.map_map, List.forall₂_map_left_iff, List.forall₂_map_right_iff]
    exact List.forall₂_same.mpr fun group _ => ⟨method group, rfl, each group⟩
  have primary : List.Forall₂ plan.Offers
      (if plan.table.hasPrimaryKey then [plan.table.primaryColumns] else [])
      (Part.members plan .primaryKey) := by
    rw [Part.members, primaryKeyFetchers_eq]
    cases keyed : plan.table.hasPrimaryKey with
    | false =>
        rw [whole.primaryColumns_eq_nil_iff.mpr keyed]
        exact .nil
    | true =>
        have filled : plan.table.primaryColumns ≠ [] := by
          intro none
          rw [whole.primaryColumns_eq_nil_iff.mp none] at keyed
          cases keyed
        rw [List.isEmpty_eq_false_iff.mpr filled]
        exact .cons ⟨_, rfl, accesses_keyFetcher _⟩ .nil
  have unique : List.Forall₂ plan.Offers
      (plan.table.uniqueKeys.map fun group => plan.table.columnsOf group.2)
      (Part.members plan .uniqueKeys) := by
    rw [Part.members, uniqueKeyFetchers]
    exact grouped _ _ _ fun group => accesses_keyFetcher _
  have nonUnique : List.Forall₂ plan.Offers
      (plan.table.nonUniqueKeys.map fun group => plan.table.columnsOf group.2)
      (Part.members plan .nonUniqueKeys) := by
    rw [Part.members, nonUniqueKeyFetchers]
    exact grouped _ _ _ fun group => accesses_keyPageFetcher _
  have foreign : List.Forall₂ plan.Offers
      (plan.table.foreignKeys.map fun group => plan.table.columnsOf (group.2.map (·.own)))
      (Part.members plan .foreignKeys) := by
    rw [Part.members, foreignKeyFetchers]
    exact grouped _ _ _ fun group => accesses_keyPageFetcher _
  have parts : keyedParts.flatMap (Part.members plan) =
      Part.members plan .primaryKey ++ Part.members plan .uniqueKeys ++
        Part.members plan .nonUniqueKeys ++ Part.members plan .foreignKeys := by
    simp only [keyedParts, List.flatMap_cons, List.flatMap_nil, List.append_nil, List.append_assoc]
  rw [parts]
  exact List.rel_append (List.rel_append (List.rel_append primary unique) nonUnique) foreign

end Plan

namespace Deployment

variable {site : Deployment} {columns : List Column}

/-- Accessors with one name are the same. -/
theorem eq_of_accesses {others : List Column} {method other : Method}
    (found : method ∈ site.recordClass.methods) (otherFound : other ∈ site.recordClass.methods)
    (accesses : site.plan.Accesses columns method)
    (otherAccesses : site.plan.Accesses others other)
    (names : site.plan.keyFetcherName columns = site.plan.keyFetcherName others) :
    method = other := by
  have same : method.name = other.name :=
    accesses.name.trans (names.trans otherAccesses.name.symm)
  refine Option.some.inj ?_
  rw [← method?_of_mem found, ← method?_of_mem otherFound, same]

/-- The accessor over the first key with its name stays. -/
theorem accessor_of_first (whole : site.table.IsWhole) {front back : List (List Column)}
    (split : site.table.keyGroups = front ++ columns :: back)
    (first : ∀ other ∈ front,
      site.plan.keyFetcherName other ≠ site.plan.keyFetcherName columns) :
    ∃ method ∈ site.recordClass.methods, site.plan.Accesses columns method := by
  have each : List.Forall₂ site.plan.Offers (front ++ columns :: back)
      (Plan.keyedParts.flatMap (Part.members site.plan)) :=
    split ▸ Plan.forall₂_offers whole
  obtain ⟨before, member, behind, offered, earlier, offers⟩ := exists_append_of_forall₂ each
  have parts : Part.order.filter (Part.enabled site.target.mutators) =
      partsBefore ++ (Plan.keyedParts ++
        ([.add, .delete, .update, .fromRecord, .serialize] : List Part).filter
          (Part.enabled site.target.mutators)) := rfl
  obtain ⟨method, rfl, accesses⟩ := id offers
  refine ⟨method, RecordClass.mem_methods.mpr ?_, accesses⟩
  rw [members_recordClass, Plan.offered, parts, List.flatMap_append, List.flatMap_append, offered,
    List.append_assoc, List.cons_append, ← List.append_assoc]
  refine RecordClass.mem_pushAll_of_first rfl fun other inFront => ?_
  rw [offers.key_eq]
  rcases List.mem_append.mp inFront with early | overKey
  · exact key_ne_of_partsBefore site.plan early (keyMethodName_startsWithG site.plan.naming _)
  · obtain ⟨group, found, offersOther⟩ := exists_of_mem_left earlier.flip overKey
    rw [Plan.Offers.key_eq offersOther]
    exact fun same => first group found (congrArg Prod.snd same)

/-- Tags that are kept for two columns with the same name in camel case. -/
def tagsTable : Table :=
  { schema := "log"
    name := "tags"
    columns :=
      [ { name := "user_id", nativeType := "int", extendedType := "int", nullable := false,
          comment := "", isPrimary := false },
        { name := "userId", nativeType := "int", extendedType := "int", nullable := false,
          comment := "", isPrimary := false } ]
    uniqueKeys := [("owner", [0]), ("editor", [1])]
    loaded := true }

def tags : Deployment :=
  { assembler := {}, table := tagsTable, target := {} }

theorem loaded_tagsTable : Catalog.Loaded tagsTable := by
  have built : tagsTable =
      ((Table.ofColumns "log" "tags" tagsTable.columns).withUniqueKey "owner"
        ["user_id"]).withUniqueKey "editor" ["userId"] := by rfl
  rw [built]
  exact .withUniqueKey "editor" ["userId"] (.withUniqueKey "owner" ["user_id"] (.ofColumns _ _ _))

/-- **A key loses its accessor only to an earlier key with the same name.** Under the name of the
accessor over a key there is an accessor over this key or an earlier one, and a key has an accessor
of its own if all earlier keys with its name have its conditions. -/
theorem keyGroup_keepsAccessor (site : Deployment) (loaded : Catalog.Loaded site.table)
    {front back : List (List Column)} {columns : List Column}
    (split : site.table.keyGroups = front ++ columns :: back) :
    (∃ owner ∈ front ++ [columns], ∃ method ∈ site.recordClass.methods,
      site.plan.Accesses owner method ∧ method.name = site.plan.keyFetcherName columns) ∧
    ((∀ other ∈ front, site.plan.keyFetcherName other = site.plan.keyFetcherName columns →
        keyConditions other = keyConditions columns) →
      ∃ method ∈ site.recordClass.methods, site.plan.Accesses columns method) := by
  have kept : ∃ owner ∈ front ++ [columns],
      site.plan.keyFetcherName owner = site.plan.keyFetcherName columns ∧
        ∃ method ∈ site.recordClass.methods, site.plan.Accesses owner method := by
    -- the key that has the name first
    have present : ((front ++ [columns]).find? fun other =>
        site.plan.keyFetcherName other = site.plan.keyFetcherName columns).isSome = true :=
      List.find?_isSome.mpr ⟨columns, by simp, by simp⟩
    obtain ⟨owner, found⟩ := Option.isSome_iff_exists.mp present
    obtain ⟨same, before, behind, here, others⟩ := List.find?_eq_some_iff_append.mp found
    have same := of_decide_eq_true same
    have whole : site.table.keyGroups = before ++ owner :: (behind ++ back) := by
      rw [split, ← List.singleton_append, ← List.append_assoc, here, List.append_assoc,
        List.cons_append]
    refine ⟨owner, here ▸ List.mem_append_right _ List.mem_cons_self, same,
      accessor_of_first loaded.isWhole whole fun other earlier => ?_⟩
    rw [same]
    simpa using others other earlier
  obtain ⟨owner, found, names, method, inClass, accesses⟩ := kept
  refine ⟨⟨owner, found, method, inClass, accesses, accesses.name.trans names⟩, fun alike => ?_⟩
  refine ⟨method, inClass, accesses.congr names ?_⟩
  rcases List.mem_append.mp found with earlier | own
  · exact alike owner earlier names
  · rw [List.mem_singleton.mp own]

theorem keyGroup_keepsAccessor_visits :
    Catalog.Loaded visits.table ∧
      visits.table.keyGroups =
        [visits.table.primaryColumns] ++ visits.table.columnsOf [2, 1] :: [] ∧
      ∃ method ∈ visits.recordClass.methods,
        visits.plan.Accesses (visits.table.columnsOf [2, 1]) method := by
  have split : visits.table.keyGroups =
      [visits.table.primaryColumns] ++ visits.table.columnsOf [2, 1] :: [] := by rfl
  have apart : visits.plan.keyFetcherName visits.table.primaryColumns ≠
      visits.plan.keyFetcherName (visits.table.columnsOf [2, 1]) := by decide
  refine ⟨loaded_visitsTable, split,
    (keyGroup_keepsAccessor visits loaded_visitsTable split).2 fun other earlier same => ?_⟩
  obtain rfl := List.mem_singleton.mp earlier
  exact absurd same apart

/-- Two unique keys can have one name between them, and then the later one has no accessor. -/
theorem key_withoutAccessor_tags :
    Catalog.Loaded tags.table ∧ tags.table.columnsOf [1] ∈ tags.table.keyGroups ∧
      ∀ method ∈ tags.recordClass.methods,
        method.baseSql? ≠
          some (tags.plan.sql (tags.plan.selection (keyConditions (tags.table.columnsOf [1])))) := by
  have own : tags.plan.sql (tags.plan.selection (keyConditions (tags.table.columnsOf [1]))) =
      "SELECT \x60user_id\x60, \x60userId\x60 FROM \x60tags\x60 WHERE \x60userId\x60 = ?" := by rfl
  have offered : tags.plan.offered tags.target.mutators =
      tags.plan.columnProperties.map .property ++
        [ .method tags.plan.allFetcher,
          .method (tags.plan.keyFetcher "Fetch the record matching unique key \x60owner\x60."
            (tags.table.columnsOf [0])),
          .method (tags.plan.keyFetcher "Fetch the record matching unique key \x60editor\x60."
            (tags.table.columnsOf [1])),
          .method tags.plan.addMutator, .method tags.plan.fromRecord,
          .method tags.plan.serialize ] := by rfl
  have split : tags.table.keyGroups =
      [] ++ tags.table.columnsOf [0] :: [tags.table.columnsOf [1]] := by rfl
  have names : tags.plan.keyFetcherName (tags.table.columnsOf [1]) =
      tags.plan.keyFetcherName (tags.table.columnsOf [0]) := by
    have later : tags.plan.keyFetcherName (tags.table.columnsOf [1]) = "getByUserId" := by decide
    have earlier : tags.plan.keyFetcherName (tags.table.columnsOf [0]) = "getByUserId" := by decide
    rw [later, earlier]
  obtain ⟨owner, ownerFound, ownerAccesses⟩ :=
    accessor_of_first loaded_tagsTable.isWhole split fun _ none => absurd none (List.not_mem_nil)
  refine ⟨loaded_tagsTable, by decide, fun method found => ?_⟩
  have pushed : Member.method method ∈ tags.plan.offered tags.target.mutators := by
    rw [RecordClass.mem_methods, members_recordClass] at found
    exact (RecordClass.mem_pushAll found).resolve_left List.not_mem_nil
  rw [own]
  simp only [offered, List.mem_append, List.mem_map, reduceCtorEq, and_false, exists_false,
    false_or, List.mem_cons, Member.method.injEq, List.not_mem_nil, or_false] at pushed
  rcases pushed with rfl | rfl | rfl | rfl | rfl | rfl
  · decide
  · decide
  · -- the accessor over the first column has the name already
    have same := eq_of_accesses found ownerFound (Plan.accesses_keyFetcher _) ownerAccesses names
    rw [same, ownerAccesses.baseSql]
    decide
  · decide
  · decide
  · decide

end Deployment

end Members

end DataAccess
