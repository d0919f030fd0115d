import DataAccess.Proofs.Members.Ownership

/-!
# Generated code does not get stuck

Every method of an assembled class, called with enough arguments and with the connection where it
takes one, ends with a value or fails on data (`Deployment.call_proceeds`). The invariant is on
objects: that one owns its connection holds of all that users come by (`Deployment.Obtained`), and
every call keeps it.
-/

namespace DataAccess.Members

open Code Schema Evaluation

/-- Arguments that suit a method: one for each parameter without a default, and the connection for
the parameter that takes it. -/
structure Suits (method : Method) (args : List Value) : Prop where
  enough : (method.params.filter fun param => param.default.isNone).length ≤ args.length
  connected : ∀ pair ∈ method.params.zip args, pair.1.name = connectionName → pair.2 = .connection

section Arguments

variable {method : Method} {args : List Value} {back : List Parameter}

/-- The connection and enough other arguments suit a method whose first parameter takes it. -/
theorem suits_connection (back : List Parameter) {rest : List Value}
    (params : method.params = connectionParam :: back)
    (others : ∀ param ∈ back, param.name ≠ connectionName)
    (enough : (back.filter fun param => param.default.isNone).length ≤ rest.length) :
    Suits method (.connection :: rest) where
  enough := by
    rw [params, List.filter_cons_of_pos rfl, List.length_cons, List.length_cons]
    exact Nat.succ_le_succ enough
  connected := by
    intro pair paired named
    rw [params, List.zip_cons_cons] at paired
    rcases List.mem_cons.mp paired with rfl | later
    · rfl
    · exact absurd named (others _ (List.of_mem_zip later).1)

/-- Where the first parameter takes the connection, the connection is the first argument. -/
theorem Suits.link (suits : Suits method args) (params : method.params = connectionParam :: back) :
    ∃ rest, args = .connection :: rest ∧
      (back.filter fun param => param.default.isNone).length ≤ rest.length := by
  have enough := suits.enough
  rw [params, List.filter_cons_of_pos rfl, List.length_cons] at enough
  cases args with
  | nil => exact absurd enough (Nat.not_succ_le_zero _)
  | cons link rest =>
      have member : (connectionParam, link) ∈ method.params.zip (link :: rest) := by
        rw [params, List.zip_cons_cons]
        exact List.mem_cons_self
      obtain rfl := suits.connected _ member rfl
      exact ⟨rest, rfl, Nat.le_of_succ_le_succ enough⟩

theorem Suits.keys (suits : Suits method args) (plan : Plan) {columns : List Column}
    (back : List Parameter)
    (params : method.params = connectionParam :: (plan.keyParams columns ++ back)) :
    ∃ keys rest, args = .connection :: (keys ++ rest) ∧ keys.length = columns.length := by
  obtain ⟨rest, rfl, enough⟩ := suits.link params
  have required : (plan.keyParams columns).filter (fun param => param.default.isNone) =
      plan.keyParams columns := by
    refine List.filter_eq_self.mpr fun param member => ?_
    obtain ⟨column, -, rfl⟩ := List.mem_map.mp member
    rfl
  have fits : columns.length ≤ rest.length := by
    rw [List.filter_append, required, List.length_append, Plan.keyParams, List.length_map] at enough
    exact Nat.le_trans (Nat.le_add_right _ _) enough
  refine ⟨rest.take columns.length, rest.drop columns.length, ?_, List.length_take_of_le fits⟩
  rw [List.take_append_drop]

theorem Suits.mutator {plan : Plan} (suits : Suits method args)
    (params : method.params = plan.mutatorParams) (unbound : plan.isBound = false) :
    args.head? = some .connection := by
  have alone : method.params = connectionParam :: [] := by
    rw [params, Plan.mutatorParams, unbound]
    rfl
  obtain ⟨rest, rfl, -⟩ := suits.link alone
  rfl

theorem Suits.fromRecord {plan : Plan} (suits : Suits plan.fromRecord args) :
    ∃ record rest, args = plan.fromRecordArgs .connection record ++ rest := by
  let record : Parameter := { name := "record", type := .row }
  cases bound : plan.isBound with
  | true =>
      have params : plan.fromRecord.params = connectionParam :: [record] := by
        simp only [Plan.fromRecord, Plan.fromRecordParams, bound, ↓reduceIte]
        rfl
      obtain ⟨others, rfl, enough⟩ := suits.link params
      cases others with
      | nil => exact absurd enough (by decide)
      | cons row rest => exact ⟨row, rest, by rw [Plan.fromRecordArgs, bound]; rfl⟩
  | false =>
      have params : plan.fromRecord.params = [record] := by
        simp only [Plan.fromRecord, Plan.fromRecordParams, bound]
        rfl
      have enough := suits.enough
      rw [params] at enough
      cases args with
      | nil => exact absurd enough (by decide)
      | cons row rest => exact ⟨row, rest, by rw [Plan.fromRecordArgs, bound]; rfl⟩

end Arguments

namespace Deployment

variable {site : Deployment}

theorem proceeds_mutator (depth : Nat) {name description : String} {statement : Sql.Statement}
    {columns : List Column} {object : Value} {args : List Value}
    (owns : site.plan.Owns object)
    (suits : Suits (site.plan.mutator name description statement (site.plan.propertyArgs columns))
      args) :
    Proceeds site.plan.Leaves
      (invoke (site.scene.surroundings depth)
        (site.plan.mutator name description statement (site.plan.propertyArgs columns))
        (some object) args) := by
  rw [Plan.invoke_mutator]
  refine Proceeds.exchange (Plan.settles_mutation name statement columns owns (suits.mutator rfl))
    (.value ⟨Plan.givesOwn_of_scalar (.bool _), ?_⟩)
  rintro _ ⟨⟩
  exact owns

theorem proceeds_pageFetcher (depth : Nat) {name description : String} {defaultCount : Int64}
    {columns : List Column} {args : List Value} {this : Option Value}
    (owned : ∀ object, this = some object → site.plan.Owns object)
    (suits : Suits (site.plan.pageFetcher name description defaultCount columns) args) :
    Proceeds site.plan.Leaves
      (invoke (site.scene.surroundings (depth + 2))
        (site.plan.pageFetcher name description defaultCount columns) this args) := by
  obtain ⟨keys, page, rfl, enough⟩ := suits.keys site.plan (pageParams defaultCount) rfl
  rw [invoke_pageFetcher site depth name description defaultCount this .connection enough page]
  refine Proceeds.exchange (Plan.settles_pageRequest _ _ _ _ _) ?_
  exact (settles_objects site).bind fun objects own => .value ⟨Plan.givesOwn_list own, owned⟩

/-- **No generated method gets stuck**, and the objects that it leaves own their connection. -/
theorem invoke_proceeds (site : Deployment) (depth : Nat) {method : Method} {args : List Value}
    {this : Option Value} (generated : site.plan.Generates method) (suits : Suits method args)
    (received : method.kind = .static ∨ this.isSome)
    (owned : ∀ object, this = some object → site.plan.Owns object) :
    Proceeds site.plan.Leaves
      (invoke (site.scene.surroundings (depth + 2)) method this args) := by
  have ofObject (notStatic : method.kind ≠ .static) :
      ∃ object, this = some object ∧ site.plan.Owns object := by
    obtain ⟨object, same⟩ := Option.isSome_iff_exists.mp (received.resolve_left notStatic)
    exact ⟨object, same, owned object same⟩
  cases generated with
  | all => exact proceeds_pageFetcher depth owned suits
  | keyPage description columns => exact proceeds_pageFetcher depth owned suits
  | key description columns =>
      have params : (site.plan.keyFetcher description columns).params =
          connectionParam :: (site.plan.keyParams columns ++ []) := by
        rw [List.append_nil]
        rfl
      obtain ⟨keys, rest, rfl, enough⟩ := suits.keys site.plan [] params
      rw [invoke_keyFetcher site depth description this .connection enough rest]
      refine Proceeds.exchange (Plan.settles_keyRequest _ _ _) ?_
      exact (settles_firstObject site).bind fun object own => .value ⟨own, owned⟩
  | count =>
      obtain ⟨rest, rfl, -⟩ := suits.link rfl
      rw [invoke_countFetcher]
      refine Proceeds.exchange (.value trivial) ?_
      exact (settles_firstCount site).bind fun number scalar =>
        .value ⟨Plan.givesOwn_of_scalar scalar, owned⟩
  | fromRecord =>
      obtain ⟨record, rest, rfl⟩ := suits.fromRecord
      rw [invoke_fromRecord]
      refine Proceeds.settled ?_
      exact (settles_objectOf site record).bind fun object owns =>
        .value ⟨Plan.givesOwn_of_owns owns, owned⟩
  | add =>
      obtain ⟨object, rfl, owns⟩ := ofObject ofObject_ne_static
      exact proceeds_mutator (depth + 2) owns suits
  | delete =>
      obtain ⟨object, rfl, owns⟩ := ofObject ofObject_ne_static
      exact proceeds_mutator (depth + 2) owns suits
  | update =>
      obtain ⟨object, rfl, owns⟩ := ofObject ofObject_ne_static
      rw [Plan.updateMutator_eq] at suits ⊢
      exact proceeds_mutator (depth + 2) owns suits
  | constructor bound =>
      obtain ⟨object, rfl, owns⟩ := ofObject constructor_ne_static
      obtain ⟨rest, rfl, -⟩ := suits.link rfl
      rw [Plan.invoke_connectionConstructor]
      cases owns with
      | @object fields connected =>
          refine Proceeds.settled (.value ⟨Plan.givesOwn_of_scalar .null, ?_⟩)
          rintro _ ⟨⟩
          refine .object fun _ => ?_
          rw [fieldIn, Entries.find?_insert_self, Option.getD_some]
  | serialize =>
      obtain ⟨object, rfl, owns⟩ := ofObject ofObject_ne_static
      rw [Plan.invoke_serialize]
      refine Proceeds.settled ?_
      exact (Plan.settles_serialized owns).bind fun form own => .value ⟨own, owned⟩

/-- The same class, with another table behind it. -/
def answering (site : Deployment) (rows : List Database.Row) (affected : Int64) : Deployment :=
  { site with rows, affected }

/-- The objects of a class that its users can come by: new ones, those in the results of calls, and
those that calls leave, whatever the connection answers. -/
inductive Obtained (site : Deployment) : Value → Prop where
  | created {args : List Value} {object : Value} {before after : Log}
      (connected : site.plan.isBound = true → args.head? = some .connection)
      (made : site.scene.instantiate args before = .ok object after) : Obtained site object
  | fetched {method : Method} {args : List Value} {result object : Value} {before after : Log}
      (rows : List Database.Row) (affected : Int64)
      (member : method ∈ site.recordClass.methods) (static : method.kind = .static)
      (suits : Suits method args)
      (called : (site.answering rows affected).scene.callStatic method.name args before =
        .ok result after)
      (within : ObjectIn result object) : Obtained site object
  | returned {method : Method} {args : List Value} {this result changed object : Value}
      {before after : Log} (rows : List Database.Row) (affected : Int64)
      (earlier : Obtained site this) (member : method ∈ site.recordClass.methods)
      (suits : Suits method args)
      (called : (site.answering rows affected).scene.callOnObject this method.name args before =
        .ok (result, changed) after)
      (left : object = changed ∨ ObjectIn result object) : Obtained site object

/-- A suitable static call ends well, and the objects in its result own their connection. -/
theorem callStatic_proceeds (site : Deployment) {method : Method} {args : List Value}
    (member : method ∈ site.recordClass.methods) (static : method.kind = .static)
    (suits : Suits method args) :
    Proceeds site.plan.GivesOwn (site.scene.callStatic method.name args) := by
  rw [callStatic_of_mem member]
  have absent (object : Value) (same : none = some object) : site.plan.Owns object := nomatch same
  exact (invoke_proceeds site 998 (generates_of_mem member) suits (Or.inl static) absent).map
    fun outcome leaves => leaves.result

/-- A suitable call on an object that owns its connection ends well, and the objects that it leaves
own theirs. -/
theorem callOnObject_proceeds (site : Deployment) {method : Method} {args : List Value}
    {this : Value} (member : method ∈ site.recordClass.methods) (suits : Suits method args)
    (owns : site.plan.Owns this) :
    Proceeds (fun outcome => site.plan.GivesOwn outcome.1 ∧ site.plan.Owns outcome.2)
      (site.scene.callOnObject this method.name args) := by
  have owned (object : Value) (same : some this = some object) : site.plan.Owns object :=
    Option.some.inj same ▸ owns
  rw [callOnObject_of_mem member]
  refine (invoke_proceeds site 998 (generates_of_mem member) suits (Or.inr rfl) owned).map
    fun outcome leaves => ⟨leaves.result, ?_⟩
  cases after : outcome.2 with
  | none => exact owns
  | some changed => exact leaves.receiver changed after

theorem owns_of_obtained {object : Value} (obtained : site.Obtained object) :
    site.plan.Owns object := by
  -- The induction is on how the object was come by: each call keeps the invariant, so it holds
  -- after any number of calls, and rows and affected may differ from call to call.
  induction obtained with
  | created connected made =>
      rw [Scene.instantiate, instantiateIn_eq connected] at made
      cases made
      refine .object fun bound => ?_
      rw [fieldIn, freshFields, bound, if_pos rfl, Entries.find?_insert_self, Option.getD_some]
  | @fetched method args result object before after rows affected member static suits called
      within =>
      have ends := callStatic_proceeds (site.answering rows affected) member static suits before
      rw [called] at ends
      cases ends with
      | value own => exact own _ within
  | @returned method args this result changed object before after rows affected earlier member
      suits called left owns =>
      have ends := callOnObject_proceeds (site.answering rows affected) member suits owns before
      rw [called] at ends
      cases ends with
      | value holds =>
          rcases left with rfl | within
          · exact holds.2
          · exact holds.1 _ within

/-- **Generated code does not get stuck.** Every method of the class, called with suitable arguments
on the class or on an object of it, ends with a value or fails on data. -/
theorem call_proceeds (site : Deployment) {method : Method} {args : List Value}
    (member : method ∈ site.recordClass.methods) (suits : Suits method args) (before : Log) :
    (method.kind = .static →
        EndsWell (fun _ => True) (site.scene.callStatic method.name args before)) ∧
      ∀ object, site.Obtained object →
        EndsWell (fun _ => True) (site.scene.callOnObject object method.name args before) := by
  constructor
  · intro static
    exact (callStatic_proceeds site member static suits before).imp fun _ _ => trivial
  · intro object obtained
    exact (callOnObject_proceeds site member suits (owns_of_obtained obtained) before).imp
      fun _ _ => trivial

theorem obtained_visit : visits.Obtained visit := by
  have suits : Suits visits.plan.fromRecord [.connection, Value.ofRow visitRow] :=
    suits_connection [{ name := "record", type := .row }] rfl (by decide) (Nat.le_refl 1)
  have called : visits.scene.callStatic fromRecordName
      (visits.plan.fromRecordArgs .connection (Value.ofRow visitRow)) [] = .ok visit [] :=
    callStatic_fromRecord_eq_ok_iff.mpr ⟨objectOf_visitRow, rfl⟩
  have same : visits.answering visits.rows visits.affected = visits := rfl
  rw [← same] at called
  exact .fetched visits.rows visits.affected fromRecord_mem rfl suits called (.alone _ _)

theorem call_proceeds_visits :
    EndsWell (fun _ => True)
        (visits.scene.callStatic "getByAddAndSeen" [.connection, .bool true, .text "soon"] []) ∧
      EndsWell (fun _ => True) (visits.scene.callOnObject visit "add" [] []) := by
  let fetcher := visits.plan.keyPageFetcher "Fetch records matching index \x60recent\x60."
    (visitsTable.columnsOf [2, 1])
  have member : fetcher ∈ visits.recordClass.methods := List.mem_of_getElem? (i := 4) rfl
  have name : fetcher.name = "getByAddAndSeen" := by rfl
  have suits : Suits fetcher [.connection, .bool true, .text "soon"] :=
    suits_connection _ rfl (by decide) (Nat.le_refl 2)
  have fetches := (call_proceeds visits member suits []).1 rfl
  rw [name] at fetches
  have nothing : Suits visits.plan.addMutator [] :=
    ⟨Nat.le_refl 0, fun pair paired => absurd paired List.not_mem_nil⟩
  have adds := (call_proceeds visits (addMutator_mem rfl) nothing []).2 visit obtained_visit
  exact ⟨fetches, adds⟩

end Deployment

end DataAccess.Members
