import DataAccess.Proofs.Entries.Stored
import DataAccess.Proofs.Members.Hydration

/-!
# The properties of objects

Where columns have distinct properties, a class has one property for every column and nothing else
but the connection of its objects (`Deployment.properties_eq`). So the fields of an object that is
made from a row are known one by one: the value of every column under its property, in the order of
the columns, and then the connection (`Deployment.objectOf_eq`).
-/

namespace DataAccess.Members

open Code Schema Evaluation

namespace Plan

variable {plan : Plan}

/-- The properties that a class is offered: of every column, and the connection of its objects. -/
def offeredProperties (plan : Plan) : List Property :=
  plan.columnProperties ++ if plan.isBound then [connectionProperty] else []

/-- Whether a place and name are ones that a property can have. -/
def isPropertyKey (key : Scope × String) : Bool :=
  key.1 = .ofObject && !objectMethodNames.contains key.2

/-- The place and name of a member tell whether it is a property. -/
theorem isPropertyKey_key {part : Part} {member : Member} (found : member ∈ part.members plan) :
    isPropertyKey member.key = member.property?.isSome := by
  rcases property_or_generates found with ⟨item, rfl, free⟩ | ⟨method, rfl, generated⟩
  · simp [isPropertyKey, Member.key, Member.scope, Member.name, Member.property?, free]
  · have kinds := generated.isStatic_iff
    by_cases static : method.kind = .static
    · simp [isPropertyKey, Member.key, Member.scope, Member.property?, static]
    · have taken : method.name ∈ objectMethodNames := by
        by_contra free
        exact static (kinds.mpr free)
      simp [isPropertyKey, Member.key, Member.name, Member.property?, taken]

theorem property?_methods (methods : List Method) :
    (methods.map Member.method).filterMap Member.property? = [] := by
  rw [List.filterMap_map]
  exact List.filterMap_eq_nil_iff.mpr fun _ _ => rfl

/-- Members that stand for properties are told by their places and names. -/
theorem filter_isPropertyKey {members : List Member}
    (each : ∀ member ∈ members, isPropertyKey member.key = member.property?.isSome) :
    (members.filter fun member => isPropertyKey member.key) =
      (members.filterMap Member.property?).map .property := by
  induction members with
  | nil => rfl
  | cons member rest ih =>
      obtain ⟨here, later⟩ := List.forall_mem_cons.mp each
      rw [List.filter_cons, List.filterMap_cons, here, ih later]
      cases member <;> rfl

/-- Only the first two parts offer properties. -/
theorem filterMap_offered (plan : Plan) (mutators : Mutators) :
    (plan.offered mutators).filterMap Member.property? = plan.offeredProperties := by
  have order : Part.order.filter (Part.enabled mutators) = .properties :: .constructor ::
      (Part.order.drop 2).filter (Part.enabled mutators) := rfl
  have others : ∀ part ∈ (Part.order.drop 2).filter (Part.enabled mutators),
      (part.members plan).filterMap Member.property? = [] := by
    intro part later
    have inOrder := (List.mem_filter.mp later).1
    cases part with
    | properties => exact absurd inOrder (by decide)
    | constructor => exact absurd inOrder (by decide)
    | all | fromRecord | serialize => rfl
    | _ => exact property?_methods _
  have columns : (Part.properties.members plan).filterMap Member.property? =
      plan.columnProperties := by
    rw [Part.members, List.filterMap_map]
    exact List.filterMap_some
  have link : (Part.constructor.members plan).filterMap Member.property? =
      if plan.isBound then [connectionProperty] else [] := by
    rw [Part.members, connectionMembers]
    cases plan.isBound <;> rfl
  rw [offered, order, List.filterMap_flatMap, List.flatMap_cons, List.flatMap_cons,
    List.flatMap_eq_nil_iff.mpr others, List.append_nil, columns, link, offeredProperties]

theorem nodup_offeredProperties
    (distinct : (plan.table.columns.map plan.propertyName).Nodup) :
    (plan.offeredProperties.map (·.name)).Nodup := by
  have names : plan.columnProperties.map (·.name) = plan.table.columns.map plan.propertyName := by
    rw [columnProperties, List.map_map]
    rfl
  rw [offeredProperties, List.map_append, names]
  cases bound : plan.isBound with
  | false => simpa using distinct
  | true =>
      refine List.nodup_append.mpr ⟨distinct, List.nodup_singleton _, ?_⟩
      intro name member link found same
      obtain rfl : link = connectionName := List.mem_singleton.mp found
      obtain ⟨column, -, named⟩ := List.mem_map.mp member
      exact propertyName_ne_connection plan column bound (named.trans same)

end Plan

namespace Deployment

variable {site : Deployment}

/-- **A class has one property for every column**, and the connection of its objects. -/
theorem properties_eq (distinct : (site.table.columns.map site.plan.propertyName).Nodup) :
    site.recordClass.properties = site.plan.offeredProperties := by
  have offered : ∀ member ∈ site.plan.offered site.target.mutators,
      Plan.isPropertyKey member.key = member.property?.isSome := by
    intro member found
    obtain ⟨part, -, here⟩ := List.mem_flatMap.mp found
    exact Plan.isPropertyKey_key here
  have inClass : ∀ member ∈ site.recordClass.members,
      Plan.isPropertyKey member.key = member.property?.isSome := by
    intro member found
    obtain ⟨part, here⟩ := mem_part_of_mem found
    exact Plan.isPropertyKey_key here
  have bare : site.bare.members =
      site.bare.members.filter fun member => Plan.isPropertyKey member.key := rfl
  have pushed := RecordClass.filter_pushAll bare (site.plan.offered site.target.mutators)
  rw [Plan.filter_isPropertyKey offered, Plan.filterMap_offered, ← members_recordClass,
    Plan.filter_isPropertyKey inClass] at pushed
  have keys : (site.bare.keys ++
      (site.plan.offeredProperties.map Member.property).map Member.key).Nodup := by
    have names := Plan.nodup_offeredProperties distinct
    rw [List.map_map]
    refine List.Nodup.of_map Prod.snd ?_
    rwa [List.map_append, List.map_map]
  rw [RecordClass.members_pushAll_of_nodup keys] at pushed
  exact (List.map_injective_iff.mpr (fun _ _ => Member.property.inj) pushed).symm

/-- The connection among the fields of an object. -/
def linkFields (site : Deployment) (link : Value) : Entries Value :=
  if site.plan.isBound then [(connectionName, link)] else []

/-- The fields of a new object are those of every column, which hold nothing, and the connection. -/
theorem freshFields_eq (distinct : (site.table.columns.map site.plan.propertyName).Nodup)
    (link : Value) :
    site.freshFields link =
      (site.table.columns.map fun column => (site.plan.propertyName column, Value.null)) ++
        site.linkFields link := by
  have names := Plan.nodup_offeredProperties distinct
  have blank : site.blankFields =
      (site.table.columns.map fun column => (site.plan.propertyName column, Value.null)) ++
        site.linkFields .null := by
    have columns : site.plan.columnProperties.map (fun item => (item.name, Value.null)) =
        site.table.columns.map fun column => (site.plan.propertyName column, Value.null) := by
      rw [Plan.columnProperties, List.map_map]
      rfl
    rw [blankFields, properties_eq distinct, Entries.ofList_of_nodup (by rwa [List.map_map]),
      Plan.offeredProperties, List.map_append, columns, linkFields]
    cases site.plan.isBound <;> rfl
  cases bound : site.plan.isBound with
  | false => simp only [freshFields, blank, linkFields, bound, Bool.false_eq_true, ↓reduceIte]
  | true =>
      have free : connectionName ∉ Entries.names
          (site.table.columns.map fun column => (site.plan.propertyName column, Value.null)) := by
        intro taken
        rw [Entries.names, List.map_map] at taken
        obtain ⟨column, -, same⟩ := List.mem_map.mp taken
        exact propertyName_ne_connection site.plan column bound same
      simp only [freshFields, blank, linkFields, bound, ↓reduceIte]
      exact Entries.insert_append_cons free link .null []

/-- **The fields of the object of a row**: the value of every column under its property, and the
connection. -/
theorem objectOf_eq (distinct : (site.table.columns.map site.plan.propertyName).Nodup)
    (link record : Value) :
    site.objectOf link record =
      (fun values => Value.object site.plan.className
        ((site.table.columns.map site.plan.propertyName).zip values ++ site.linkFields link)) <$>
          site.table.columns.mapM (readFrom record) := by
  rw [objectOf]
  cases read : site.table.columns.mapM (readFrom record) with
  | error failure => rfl
  | ok values =>
      have lengths : values.length = site.table.columns.length :=
        (forall₂_of_mapM read).length_eq.symm
      have firsts : ((site.table.columns.map site.plan.propertyName).zip values).map Prod.fst =
          site.table.columns.map site.plan.propertyName := Entries.map_fst_zip_map lengths
      have nulls : (site.table.columns.map fun column =>
            (site.plan.propertyName column, Value.null)) =
          ((site.table.columns.map site.plan.propertyName).zip values).map
            fun pair => (pair.1, Value.null) := by
        have pairs := congrArg (List.map fun name => (name, Value.null)) firsts
        rw [List.map_map, List.map_map] at pairs
        exact pairs.symm
      have stored := @Entries.storeAll_append _
        ((site.table.columns.map site.plan.propertyName).zip values) [] .null
        (site.linkFields link) (by rwa [List.nil_append, Entries.names, firsts])
      rw [ok_bind, Plan.storedIn, freshFields_eq distinct, nulls]
      exact congrArg (fun fields => Except.ok (Value.object site.plan.className fields)) stored

end Deployment

end DataAccess.Members
