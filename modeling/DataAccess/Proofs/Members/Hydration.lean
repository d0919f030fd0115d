import DataAccess.Proofs.Members.Assembled
import DataAccess.Proofs.Members.Values

/-!
# Objects from rows

The method that makes an object from a row reads every column of the row in turn and stores what it
read under the property of the column. `Deployment.objectOf` is that as a pure function, and every
call of the method computes it (`Deployment.invoke_fromRecord`), also the calls that fetchers
make (`Deployment.evalExpr_hydrated`).
-/

namespace DataAccess.Members

open Code Schema Evaluation

namespace Plan

/-- The arguments of the method that makes an object from a row. -/
def fromRecordArgs (plan : Plan) (link record : Value) : List Value :=
  if plan.isBound then [link, record] else [record]

/-- The properties of an object that holds the values in its columns, over the properties that it
had. -/
def storedIn (plan : Plan) (columns : List Column) (values : List Value)
    (fields : Entries Value) : Entries Value :=
  Entries.storeAll ((columns.map plan.propertyName).zip values) fields

variable {plan : Plan} {around : Surroundings}

/-- The parameters of the method take its arguments, and nothing behind them. -/
theorem bindParams_fromRecord (plan : Plan) (around : Surroundings) (this : Option Value)
    (link record : Value) (rest : List Value) :
    ∃ frame, bindParams around fromRecordName plan.fromRecordParams
        (plan.fromRecordArgs link record ++ rest) { this } = pure frame ∧
      frame.this = this ∧ lookup frame "record" = pure record ∧
        (plan.isBound = true → lookup frame connectionName = pure link) := by
  cases bound : plan.isBound with
  | false =>
      refine ⟨_, by simp only [fromRecordParams, fromRecordArgs, bound]; rfl, rfl, ?_, nofun⟩
      exact lookup_set_self { this } "record" record
  | true =>
      refine ⟨_, by simp only [fromRecordParams, fromRecordArgs, bound]; rfl, rfl, ?_, fun _ => ?_⟩
      · exact lookup_set_self _ "record" record
      · exact (lookup_set_of_ne (by decide) _ record).trans
          (lookup_set_self { this } connectionName link)

/-- Arguments of the method that makes objects are a row, with the connection in front where it is
taken, and a rest, or there are too few. -/
theorem fromRecordArgs_or_missing (plan : Plan) (args : List Value) :
    (∃ link record rest, args = plan.fromRecordArgs link record ++ rest) ∨
      args.length < plan.fromRecordParams.length := by
  simp only [fromRecordArgs, fromRecordParams]
  cases plan.isBound with
  | true =>
      match args with
      | [] => exact Or.inr (Nat.succ_pos 1)
      | [_] => exact Or.inr (Nat.lt_succ_self 1)
      | link :: record :: rest => exact Or.inl ⟨link, record, rest, rfl⟩
  | false =>
      match args with
      | [] => exact Or.inr (Nat.succ_pos 0)
      | record :: rest => exact Or.inl ⟨.connection, record, rest, rfl⟩

/-- The constructor of objects binds its receiver to the connection that it is given. -/
theorem invoke_connectionConstructor (plan : Plan) (around : Surroundings) (link this : Value)
    (rest : List Value) :
    invoke around plan.connectionConstructor (some this) (link :: rest) =
      settled (do
        let changed ← fieldSet connectionName link this
        pure (.null, some changed)) := by
  let blank : Frame := { this := some this }
  have binds : bindParams around constructorName [connectionParam] (link :: rest) blank =
      pure (blank.set connectionName link) := rfl
  rw [invoke_eq (Or.inr rfl)]
  refine (congrArg (· >>= _) binds).trans ?_
  rw [pure_bind, connectionConstructor, runBody_assign_this, evalExpr, lookup_set_self,
    pure_bind, receiver_of_this (Frame.this_set _ _ _), pure_bind, withField_eq, settled_bind]
  simp only [runBody_nil, settled_pure]

/-- The assignments of a row to the object in a variable: each step reads one column and stores it
over what the steps before it stored. -/
theorem runBody_assignments {frame : Frame} {record : Value} {className : String}
    (columns : List Column) {fields : Entries Value}
    (row : lookup frame "record" = pure record)
    (held : lookup frame "instance" = pure (.object className fields)) :
    runBody around frame
        ((columns.map fun column =>
            Stmt.assign (.field (.var "instance") (plan.propertyName column))
              (hydratedValue column)) ++
          [.result (.var "instance")]) =
      settled (do
        let values ← columns.mapM (readFrom record)
        pure (.object className (plan.storedIn columns values fields), frame.this)) := by
  -- Each assignment changes the object in the frame, so the claim is for all frames and fields.
  induction columns generalizing frame fields with
  | nil =>
      simp only [List.map_nil, List.nil_append, runBody_result, evalExpr, held, pure_bind,
        List.mapM_nil, settled_pure]
      rfl
  | cons column rest ih =>
      simp only [List.map_cons, List.cons_append, runBody_assign_var,
        evalExpr_hydratedValue row, held, pure_bind, withField, List.mapM_cons, bind_assoc,
        settled_bind]
      refine bind_congr fun value => ?_
      have rowAfter : lookup (frame.set "instance" (.object className
          (fields.insert (plan.propertyName column) value))) "record" = pure record := by
        rw [lookup_set_of_ne (by decide)]
        exact row
      rw [ih rowAfter (lookup_set_self frame "instance" _)]
      simp only [settled_bind]
      rfl

end Plan

namespace Deployment

variable (site : Deployment)

/-- The properties of an object before its constructor runs. -/
def blankFields : Entries Value :=
  Entries.ofList (site.recordClass.properties.map fun property => (property.name, .null))

/-- The properties of an object that was bound to a connection where its class has one. -/
def freshFields (link : Value) : Entries Value :=
  if site.plan.isBound then Entries.insert connectionName link site.blankFields
  else site.blankFields

/-- The object of a row. -/
def objectOf (link record : Value) : Except EvalError Value := do
  let values ← site.table.columns.mapM (readFrom record)
  pure (.object site.plan.className
    (site.plan.storedIn site.table.columns values (site.freshFields link)))

variable {site}

/-- A new object has null properties, and its connection where its class has one. -/
theorem instantiateIn_eq {around : Surroundings} {link : Value} {args : List Value}
    (given : site.plan.isBound = true → args.head? = some link) :
    site.scene.instantiateIn around args =
      pure (.object site.plan.className (site.freshFields link)) := by
  have blank : site.scene.blankObject = .object site.plan.className site.blankFields := by
    rw [Scene.blankObject, scene_recordClass, name_recordClass]
    rfl
  rw [Scene.instantiateIn, scene_recordClass, constructor?_eq, blank]
  cases bound : site.plan.isBound with
  | false => simp only [freshFields, bound, Bool.false_eq_true, ↓reduceIte]
  | true =>
      obtain ⟨rest, rfl⟩ := List.head?_eq_some_iff.mp (given bound)
      have ran := site.plan.invoke_connectionConstructor around link
        (.object site.plan.className site.blankFields) rest
      rw [fieldSet, ok_bind, settled_pure] at ran
      rw [if_pos rfl]
      simp only [ran, pure_bind, freshFields, bound, ↓reduceIte]

/-- **The method that makes objects from rows computes the object of the row.** -/
theorem invoke_fromRecord (site : Deployment) (depth : Nat) (this : Option Value)
    (link record : Value) (rest : List Value) :
    invoke (site.scene.surroundings (depth + 1)) site.plan.fromRecord this
        (site.plan.fromRecordArgs link record ++ rest) =
      settled (do
        let object ← site.objectOf link record
        pure (object, this)) := by
  obtain ⟨frame, binds, received, row, connected⟩ := Plan.bindParams_fromRecord site.plan
    (site.scene.surroundings (depth + 1)) this link record rest
  have created : evalExpr (site.scene.surroundings (depth + 1)) frame
      (.new site.plan.className (if site.plan.isBound then [.var connectionName] else [])) =
        pure (.object site.plan.className (site.freshFields link)) := by
    have named : (site.scene.surroundings (depth + 1)).className = site.plan.className := by
      rw [Scene.className_surroundings, scene_recordClass, name_recordClass]
    rw [evalExpr, named, if_pos rfl]
    cases bound : site.plan.isBound with
    | false =>
        simp only [Bool.false_eq_true, ↓reduceIte, evalAll, pure_bind,
          Scene.instantiate_surroundings]
        exact instantiateIn_eq fun other => absurd (bound.symm.trans other) Bool.false_ne_true
    | true =>
        simp only [↓reduceIte, evalAll, evalExpr, connected bound, pure_bind,
          Scene.instantiate_surroundings]
        exact instantiateIn_eq fun _ => rfl
  have rowAfter : lookup (frame.set "instance"
      (.object site.plan.className (site.freshFields link))) "record" = pure record := by
    rw [lookup_set_of_ne (by decide)]
    exact row
  rw [invoke_eq (Or.inl rfl)]
  refine (congrArg (· >>= _) binds).trans ?_
  rw [pure_bind, Plan.fromRecord, Plan.fromRecordBody, List.cons_append, runBody_declare, created,
    pure_bind, Plan.runBody_assignments _ rowAfter (lookup_set_self frame "instance" _),
    Frame.this_set, received]
  simp only [objectOf, bind_assoc, pure_bind]
  rfl

theorem callStaticIn_fromRecord (site : Deployment) (depth : Nat) (link record : Value) :
    site.scene.callStaticIn (site.scene.surroundings (depth + 1)) fromRecordName
        (site.plan.fromRecordArgs link record) = settled (site.objectOf link record) := by
  have found : site.scene.method fromRecordName = pure site.plan.fromRecord := by
    rw [Scene.method, scene_recordClass,
      show fromRecordName = site.plan.fromRecord.name from rfl, method?_of_mem fromRecord_mem]
  have ran := invoke_fromRecord site depth none link record []
  rw [List.append_nil] at ran
  rw [Scene.callStaticIn, found, pure_bind, ran]
  simp only [settled_bind, bind_assoc, settled_pure, pure_bind, bind_pure]

/-- The call that a fetcher makes for a row computes the object of the row. -/
theorem evalExpr_hydrated {depth : Nat} {frame : Frame} {link record : Value} {row : Expr}
    (connected : lookup frame connectionName = pure link)
    (evaluates : evalExpr (site.scene.surroundings (depth + 2)) frame row = pure record) :
    evalExpr (site.scene.surroundings (depth + 2)) frame (site.plan.hydrated row) =
      settled (site.objectOf link record) := by
  have args : evalAll (site.scene.surroundings (depth + 2)) frame
      (if site.plan.isBound then [.var connectionName, row] else [row]) =
        pure (site.plan.fromRecordArgs link record) := by
    cases bound : site.plan.isBound with
    | false =>
        simp only [Bool.false_eq_true, ↓reduceIte, evalAll, evaluates, pure_bind,
          Plan.fromRecordArgs, bound]
    | true =>
        simp only [↓reduceIte, evalAll, evalExpr, connected, evaluates, pure_bind,
          Plan.fromRecordArgs, bound]
  rw [Plan.hydrated, evalExpr, args, pure_bind, Scene.callStatic_surroundings,
    callStaticIn_fromRecord]

theorem callStatic_fromRecord (site : Deployment) (link record : Value) :
    site.scene.callStatic fromRecordName (site.plan.fromRecordArgs link record) =
      settled (site.objectOf link record) :=
  callStaticIn_fromRecord site 999 link record

theorem callStatic_fromRecord_eq_ok_iff {link record object : Value} {before after : Log} :
    site.scene.callStatic fromRecordName (site.plan.fromRecordArgs link record) before =
        .ok object after ↔
      site.objectOf link record = .ok object ∧ after = before := by
  rw [callStatic_fromRecord]
  constructor
  · exact settled_apply_eq_ok
  · rintro ⟨made, rfl⟩
    rw [made]
    rfl

theorem objectOf_eq_ok {link record object : Value}
    (made : site.objectOf link record = .ok object) :
    ∃ values, site.table.columns.mapM (readFrom record) = .ok values ∧
      object = .object site.plan.className
        (site.plan.storedIn site.table.columns values (site.freshFields link)) := by
  obtain ⟨values, read, stored⟩ := bind_eq_ok made
  exact ⟨values, read, (Except.ok.inj stored).symm⟩

/-- Where columns have distinct properties, each property holds what was read for its column. -/
theorem member?_objectOf {link record object : Value}
    (distinct : (site.table.columns.map site.plan.propertyName).Nodup)
    (made : site.objectOf link record = .ok object) {column : Column}
    (member : column ∈ site.table.columns) :
    ∃ value, readFrom record column = .ok value ∧
      object.member? (site.plan.propertyName column) = some value := by
  obtain ⟨values, read, rfl⟩ := objectOf_eq_ok made
  have placed := forall₂_of_mapM read
  have lengths : site.table.columns.length = values.length := placed.length_eq
  have firsts : (site.table.columns.zip values).map Prod.fst = site.table.columns :=
    List.map_fst_zip (Nat.le_of_eq lengths)
  rw [← firsts] at member
  obtain ⟨⟨column, value⟩, paired, rfl⟩ := List.mem_map.mp member
  refine ⟨value, (List.forall₂_iff_zip.mp placed).2 paired, ?_⟩
  rw [Value.member?, Plan.storedIn, Entries.find?_storeAll,
    Entries.last?_zip_of_mem distinct lengths.symm paired, Option.some_or]

theorem fieldIn_objectOf {link record object : Value}
    (distinct : (site.table.columns.map site.plan.propertyName).Nodup)
    (made : site.objectOf link record = .ok object) {column : Column}
    (member : column ∈ site.table.columns) :
    ∃ value, readFrom record column = .ok value ∧
      fieldIn (site.plan.propertyName column) object = .ok value := by
  obtain ⟨value, read, held⟩ := member?_objectOf distinct made member
  exact ⟨value, read, fieldIn_of_member? held⟩

theorem fieldIn_connection_objectOf {link record object : Value}
    (bound : site.plan.isBound = true) (made : site.objectOf link record = .ok object) :
    fieldIn connectionName object = .ok link := by
  obtain ⟨values, read, rfl⟩ := objectOf_eq_ok made
  have lengths : site.table.columns.length = values.length := (forall₂_of_mapM read).length_eq
  have clear : connectionName ∉
      ((site.table.columns.map site.plan.propertyName).zip values).map Prod.fst := by
    rw [Entries.map_fst_zip_map lengths.symm]
    intro member
    obtain ⟨column, -, same⟩ := List.mem_map.mp member
    exact propertyName_ne_connection site.plan column bound same
  rw [fieldIn, Plan.storedIn, Entries.find?_storeAll, Entries.last?_eq_none_iff.mpr clear,
    Option.none_or, freshFields, bound, if_pos rfl, Entries.find?_insert_self, Option.getD_some]

/-- Visits with a key, a moment that can be missing, and a column that is called like a method. -/
def visitsTable : Table :=
  { schema := "log"
    name := "visits"
    columns :=
      [ { name := "id", nativeType := "bigint", extendedType := "bigint", nullable := false,
          comment := "", isPrimary := true },
        { name := "seen", nativeType := "datetime", extendedType := "datetime", nullable := true,
          comment := "", isPrimary := false },
        { name := "add", nativeType := "varchar", extendedType := "varchar(20)", nullable := true,
          comment := "", isPrimary := false } ]
    primaryKey := [0]
    nonUniqueKeys := [("recent", [2, 1])]
    loaded := true }

def visitRow : Database.Row :=
  ⟨[("id", .text "7"), ("seen", .text "2024-02-29 12:30:00"), ("add", .null)]⟩

/-- Visits whose objects own their connection. -/
def visits : Deployment :=
  { assembler := { options := { family := .bound } }
    table := visitsTable
    target := {}
    rows := [visitRow]
    affected := 1 }

def visitMoment : Calendar.Timestamp :=
  ⟨⟨2024, 2, 29, by decide⟩, ⟨12, 30, 0, 0, by decide⟩⟩

def visit : Value :=
  .object "visits"
    [ ("id", .int 7), ("seen", .dateTime visitMoment), ("add_", .null),
      ("connection", .connection) ]

theorem objectOf_visitRow : visits.objectOf .connection (Value.ofRow visitRow) = .ok visit := by
  rfl

end Deployment

end DataAccess.Members
