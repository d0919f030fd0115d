import DataAccess.Generation.Run
import DataAccess.Proofs.Catalog.LoadedTables
import DataAccess.Proofs.Code.RecordClass
import DataAccess.Proofs.Files.Destinations

/-!
# Turns of tables

A run first lists the tables of a schema and loads them all, and only then touches the files. Each
table has its turn then: one whose path was handed out is skipped, and any other one is written or
reported with the failure of its own attempt (`Turn`). The operations of all turns make one history,
in whatever order the schedule lets them follow one another (`turns_of_catalog`).
-/

namespace DataAccess

/-- The name of the class of a table. -/
def Settings.className (settings : Settings) (table : String) : String :=
  settings.assembler.className { schema := "", name := table } (settings.classTarget table)

/-- The path of the file of a table. -/
def Settings.outputPath (settings : Settings) (table : String) : String :=
  Files.Path.join (settings.outDir table) (settings.className table ++ ".ts")

namespace Generation

open Catalog Database Schema

section Rendering

variable {σ : Type} {connection : Connection σ}

/-- The class of a loaded table. -/
def classOf (settings : Settings) (table : Table) : Code.RecordClass :=
  settings.assembler.assemble table (settings.classTarget table.name)

/-- The file of a loaded table. -/
def sourceOf (settings : Settings) (table : Table) : String :=
  TypeScript.source settings.printing (classOf settings table)

/-- The class of a loaded table, ready to be written. -/
def RenderedClass.ofTable (settings : Settings) (table : Table) : RenderedClass :=
  { table := table.qualifiedName
    className := settings.className table.name
    source := sourceOf settings table
    directory := settings.outDir table.name
    path := settings.outputPath table.name }

/-- The class of a table has the name that the settings give it. -/
theorem name_classOf (settings : Settings) (table : Table) :
    (classOf settings table).name = settings.className table.name := by
  rw [classOf, Members.Assembler.assemble, (Code.RecordClass.addImports_eq _ _).2,
    Members.Assembler.withMembers, Code.RecordClass.name_pushAll]
  rfl

/-- Loading a table changes neither its name nor its schema. -/
theorem name_of_populated {table loaded : Table} {before after : σ}
    (succeeds : populated connection table before = .ok loaded after) :
    loaded.schema = table.schema ∧ loaded.name = table.name := by
  rw [populated] at succeeds
  cases bare : table.loaded with
  | true =>
      rw [populate_of_loaded bare] at succeeds
      cases succeeds
      exact ⟨rfl, rfl⟩
  | false =>
      cases run : populate connection (table, before) with
      | error failure between =>
          rw [run] at succeeds
          cases succeeds
      | ok done result =>
          obtain ⟨table, between⟩ := result
          rw [run] at succeeds
          cases succeeds
          obtain ⟨_, _, _, _, _, _, _, _, _, _, _, _, _, _, rfl⟩ :=
            (populate_eq_ok_iff bare).mp run
          exact ⟨rfl, rfl⟩

/-- Rendering a table is loading it and then laying out its class. -/
theorem rendered_eq (settings : Settings) (table : Table) :
    rendered connection settings table =
      RenderedClass.ofTable settings <$> populated connection table := by
  funext before
  simp only [rendered, classFor, bind, EStateM.bind, Functor.map, EStateM.map]
  cases loads : populated connection table before with
  | error failure after => rfl
  | ok loaded after =>
      obtain ⟨sameSchema, sameName⟩ := name_of_populated loads
      have name := name_classOf settings loaded
      rw [classOf, sameName] at name
      simp only [pure, EStateM.pure, RenderedClass.ofTable, Table.qualifiedName, sourceOf, classOf,
        Settings.outputPath, TypeScript.fileName, sameSchema, sameName, name]

/-- All tables are loaded one after another, and their classes need nothing but the tables. -/
theorem renderedAll_eq (settings : Settings) (tables : List Table) :
    renderedAll connection settings tables =
      List.map (RenderedClass.ofTable settings) <$> populateAll connection tables := by
  induction tables with
  | nil => rfl
  | cons table rest ih =>
      funext before
      rw [renderedAll, populateAll, rendered_eq, ih]
      simp only [bind, EStateM.bind, Functor.map, EStateM.map]
      cases populated connection table before with
      | error failure between => rfl
      | ok loaded between =>
          simp only
          cases populateAll connection rest between <;> rfl

/-- Loading tables keeps their number, their order and their names. -/
theorem names_of_populateAll {tables loaded : List Table} {before after : σ}
    (succeeds : populateAll connection tables before = .ok loaded after) :
    loaded.map (fun table => (table.schema, table.name)) =
      tables.map fun table => (table.schema, table.name) := by
  induction tables generalizing loaded before with
  | nil =>
      cases succeeds
      rfl
  | cons table rest ih =>
      obtain ⟨first, between, now, succeeds⟩ := bind_eq_ok succeeds
      obtain ⟨others, later, more, succeeds⟩ := bind_eq_ok succeeds
      cases succeeds
      obtain ⟨sameSchema, sameName⟩ := name_of_populated now
      rw [List.map_cons, List.map_cons, ih more, sameSchema, sameName]

/-- The base tables of a schema as they are listed, and the same tables loaded. -/
def catalogOf (connection : Connection σ) (schema : String) :
    Introspect σ (List Table × List Table) := do
  let tables ← listTables connection schema
  let loaded ← populateAll connection tables
  pure (tables, loaded)

/-- The classes of a schema are the ones of its base tables, loaded in the order of the listing. -/
theorem renderedSchema_eq (settings : Settings) (schema : String) :
    renderedSchema connection settings schema =
      (fun catalog => catalog.2.map (RenderedClass.ofTable settings)) <$>
        catalogOf connection schema := by
  funext before
  simp only [renderedSchema, catalogOf, renderedAll_eq, bind, EStateM.bind, Functor.map,
    EStateM.map]
  cases listTables connection schema before with
  | error failure between => rfl
  | ok tables between =>
      simp only
      cases populateAll connection tables between <;> rfl

end Rendering

section Turns

variable {World : Type} (files : Files.FileSystem (StateM World))

/-- A path is free if no class before has it and it was not taken from the start. -/
theorem claimFrom_spec {taken : List (List Files.Component)} {classes : List RenderedClass}
    {index : Nat} {rendered : RenderedClass} (found : classes[index]? = some rendered) :
    ∃ claim, (claimFrom taken classes)[index]? = some claim ∧ claim.rendered = rendered ∧
      (claim.isFirst = true ↔
        Files.Path.components rendered.path ∉ taken ∧
          ∀ earlier ∈ classes.take index,
            Files.Path.components earlier.path ≠ Files.Path.components rendered.path) := by
  induction classes generalizing taken index with
  | nil => cases found
  | cons first rest ih =>
      cases index with
      | zero =>
          cases found
          exact ⟨_, rfl, rfl, by simp⟩
      | succ index =>
          obtain ⟨claim, here, same, isFirst⟩ :=
            @ih (Files.Path.components first.path :: taken) index found
          refine ⟨claim, here, same, ?_⟩
          rw [isFirst, List.mem_cons, not_or, List.take_succ_cons, List.forall_mem_cons,
            and_comm (a := ¬ _ = _), and_assoc, ne_comm]

/-- Each class has a claim. -/
theorem length_claimFrom (taken : List (List Files.Component)) (classes : List RenderedClass) :
    (claimFrom taken classes).length = classes.length := by
  induction classes generalizing taken with
  | nil => rfl
  | cons first rest ih => exact congrArg Nat.succ (ih _)

/-- Without a schedule, each class is written before the next. -/
theorem writeAll_unscheduled {m : Type → Type} [Monad m] [LawfulMonad m]
    (files : Files.FileSystem m) (width : Nat) (claims : List Claim) :
    writeAll files width [] claims = claims.mapM (writeClaim files) := by
  have finishes (claim : Claim) :
      (writeClaim Files.Dialogue.fileSystem claim).finish files = writeClaim files claim := by
    simp [writeClaim]
  have shape : writeAll files width [] claims = Files.Dialogue.finishAll files
      (claims.map (writeClaim Files.Dialogue.fileSystem)) := pure_bind _ _
  rw [shape]
  induction claims with
  | nil => rfl
  | cons claim rest ih =>
      rw [List.map_cons, Files.Dialogue.finishAll, finishes, ih (pure_bind _ _), List.mapM_cons]

/-- Without a schedule, a class whose path is free is stored before the ones that follow it. -/
theorem writeAll_store {width : Nat} (rendered : RenderedClass) {before between : World}
    {result : Except Files.Failure Unit}
    (stores : files.store rendered.directory rendered.path rendered.source before =
      (result, between)) (rest : List Claim) :
    writeAll files width [] ({ rendered := rendered, isFirst := true } :: rest) before =
      (rendered.outcome result :: (writeAll files width [] rest between).1,
        (writeAll files width [] rest between).2) := by
  have now : writeClaim files { rendered := rendered, isFirst := true } before =
      (rendered.outcome result, between) := by
    rw [writeClaim, if_pos rfl]
    exact congrArg (fun stored => (rendered.outcome stored.1, stored.2)) stores
  rw [writeAll_unscheduled, writeAll_unscheduled, List.mapM_cons]
  simp only [bind, StateT.bind, now]
  rfl

/-- **What becomes of a table,** with the operations that are made for it and their answers. -/
structure Turn (settings : Settings) (table loaded : Table) (isTaken : Prop)
    (exchanges : List Files.Exchange) (outcome : Outcome) : Prop where
  /-- A table whose path was handed out is skipped, and nothing is done for it. -/
  skips : isTaken →
    exchanges = [] ∧
      outcome = .skipped
        { table := table.qualifiedName
          reason := settings.outputPath table.name ++ ": " ++ "written by an earlier table" }
  /-- Any other table is written, or skipped for the failure of its own attempt. -/
  attempts : ¬ isTaken →
    ∃ result,
      (Files.Dialogue.fileSystem.store (settings.outDir table.name)
        (settings.outputPath table.name) (sourceOf settings loaded)).Follows exchanges result ∧
      (outcome = .generated
          { table := table.qualifiedName
            className := settings.className table.name
            path := settings.outputPath table.name } ↔ result = .ok ()) ∧
      ∀ failure, result = .error failure →
        outcome = .skipped
          { table := table.qualifiedName
            reason := settings.outputPath table.name ++ ": " ++ failure.message }
  /-- The reason of the first kind is only given for that, unless the system words a failure
  like it. -/
  skips_iff :
    (∀ failure,
      (Files.Dialogue.fileSystem.store (settings.outDir table.name)
        (settings.outputPath table.name) (sourceOf settings loaded)).Follows exchanges
          (.error failure) →
        failure.message ≠ "written by an earlier table") →
    (outcome = .skipped
        { table := table.qualifiedName
          reason := settings.outputPath table.name ++ ": " ++ "written by an earlier table" } ↔
      isTaken)

/-- Writing a class whose path is free, or skipping one whose path is taken, is the turn of its
table. -/
theorem turn_of_follows {settings : Settings} {table loaded : Table} {claim : Claim}
    {exchanges : List Files.Exchange} {outcome : Outcome} {isTaken : Prop}
    (same : (loaded.schema, loaded.name) = (table.schema, table.name))
    (rendered : claim.rendered = RenderedClass.ofTable settings loaded)
    (isFirst : claim.isFirst = true ↔ ¬ isTaken)
    (follows : (writeClaim Files.Dialogue.fileSystem claim).Follows exchanges outcome) :
    Turn settings table loaded isTaken exchanges outcome := by
  obtain ⟨sameSchema, sameName⟩ := Prod.mk.inj same
  rw [RenderedClass.ofTable, Table.qualifiedName, sameSchema, sameName] at rendered
  rw [writeClaim, rendered] at follows
  by_cases taken : isTaken
  · have notFirst : claim.isFirst = false := by
      rw [← Bool.not_eq_true, isFirst]
      exact not_not_intro taken
    rw [notFirst] at follows
    obtain ⟨rfl, rfl⟩ := Files.Dialogue.follows_ended.mp follows
    exact ⟨fun _ => ⟨rfl, rfl⟩, fun free => absurd taken free, fun _ => iff_of_true rfl taken⟩
  · rw [isFirst.mpr taken, if_pos rfl] at follows
    obtain ⟨result, stores, rfl⟩ := Files.Dialogue.follows_map.mp follows
    simp only at stores
    refine ⟨fun isTaken => absurd isTaken taken, fun _ => ⟨result, stores, ?_, ?_⟩,
      fun worded => ?_⟩
    · cases result with
      | ok done => exact iff_of_true rfl rfl
      | error failure => exact iff_of_false nofun nofun
    · rintro failure rfl
      rfl
    · refine iff_of_false ?_ taken
      cases result with
      | ok done => exact nofun
      | error failure =>
          intro same
          refine worded failure stores ?_
          have reasons := congrArg SkippedTable.reason (Outcome.skipped.inj same)
          exact (String.append_right_inj _).mp reasons

end Turns

section Accounts

variable {World σ : Type} {settings : Settings} {tables loaded : List Table}

/-- Whether an earlier table of a listing has the path of the table at an index. -/
def IsTaken (settings : Settings) (tables : List Table) (index : Nat) (table : Table) : Prop :=
  ∃ earlier ∈ tables.take index,
    Files.Path.components (settings.outputPath earlier.name) =
      Files.Path.components (settings.outputPath table.name)

/-- The paths that are taken are the ones of the classes before. -/
theorem isTaken_iff
    (same : loaded.map (fun table => (table.schema, table.name)) =
      tables.map fun table => (table.schema, table.name))
    (index : Nat) (table : Table) :
    IsTaken settings tables index table ↔
      ∃ earlier ∈ (loaded.map (RenderedClass.ofTable settings)).take index,
        Files.Path.components earlier.path =
          Files.Path.components (settings.outputPath table.name) := by
  have names : (loaded.take index).map (·.name) = (tables.take index).map (·.name) := by
    have all := congrArg (fun pairs => (pairs.take index).map Prod.snd) same
    simpa only [← List.map_take, List.map_map, Function.comp_def] using all
  have fromNames (listed : List Table) :
      (∃ earlier ∈ listed, Files.Path.components (settings.outputPath earlier.name) =
        Files.Path.components (settings.outputPath table.name)) ↔
      ∃ name ∈ listed.map (·.name), Files.Path.components (settings.outputPath name) =
        Files.Path.components (settings.outputPath table.name) := by
    simp only [List.mem_map, exists_exists_and_eq_and]
  rw [IsTaken, fromNames, ← names, ← fromNames, ← List.map_take]
  simp only [List.mem_map, exists_exists_and_eq_and]
  rfl

/-- A run writes the classes of the loaded tables, if the tables can be loaded. -/
theorem runScheduled_eq (schedule : List Nat) (files : Files.FileSystem (StateM World))
    (connection : Connection σ) (settings : Settings) (schema : String) (state : σ)
    (world : World) :
    runScheduled schedule files connection settings schema state world =
      match catalogOf connection schema state with
      | .error failure _ => (.error failure, world)
      | .ok (_, loaded) _ =>
        let written := writeAll files (width settings) schedule
          (claims (loaded.map (RenderedClass.ofTable settings))) world
        (.ok (.ofOutcomes written.1), written.2) := by
  rw [runScheduled, renderedSchema_eq settings schema]
  simp only [Functor.map, EStateM.map]
  cases catalogOf connection schema state <;> rfl

/-- The claims of classes, where no attempt is made to write the class at an index. -/
def claimsWithout (index : Nat) (classes : List RenderedClass) : List Claim :=
  (claims classes).modify index fun claim => { claim with isFirst := false }

/-- Whether every operation that is made for the table at an index finds the files and leaves them
as they are. -/
def LeavesAlone (files : Files.FileSystem (StateM World)) (world : World)
    (history : List (Nat × Files.Exchange)) (index : Nat) : Prop :=
  ∀ earlier exchange later between, history = earlier ++ (index, exchange) :: later →
    Files.Performs files world earlier between →
      (exchange.operation.perform files between).2 = between

/-- **The turns of the tables of a catalog,** in the order of the listing. -/
structure Turns (files : Files.FileSystem (StateM World)) (settings : Settings)
    (tables loaded : List Table) (world : World) (outcomes : List Outcome)
    (history : List (Nat × Files.Exchange)) (after : World) : Prop where
  sameNames : loaded.map (fun table => (table.schema, table.name)) =
    tables.map fun table => (table.schema, table.name)
  sameLength : outcomes.length = tables.length
  /-- The operations of all turns are made one after another. -/
  performs : Files.Performs files world history after
  /-- Nothing is done that is not done for a table. -/
  isListed : ∀ entry ∈ history, entry.1 < tables.length
  turn : ∀ index table final, tables[index]? = some table → loaded[index]? = some final →
    ∃ outcome, outcomes[index]? = some outcome ∧
      Turn settings table final (IsTaken settings tables index table)
        (Files.exchangesAt index history) outcome
  /-- An attempt that leaves the files alone may as well not be made: the other tables can have the
  same outcomes then, and the files are the same afterwards. -/
  without : ∀ index < tables.length, LeavesAlone files world history index →
    ∃ schedule outcome,
      writeAll files (width settings) schedule
        (claimsWithout index (loaded.map (RenderedClass.ofTable settings))) world =
          (outcomes.set index outcome, after)

/-- Changing one element and then mapping sets one element of the mapped list. -/
theorem map_modify {α β : Type} {elements : List α} {index : Nat} {element : α}
    (found : elements[index]? = some element) (change : α → α) (image : α → β) :
    (elements.modify index change).map image =
      (elements.map image).set index (image (change element)) := by
  rw [List.modify_eq_set_getElem?, found, Option.map_eq_map, Option.map_some, Option.getD_some,
    List.map_set]

/-- At least one table is in flight. -/
theorem width_pos (settings : Settings) : 0 < width settings :=
  Nat.lt_of_lt_of_le Nat.zero_lt_one (Nat.le_max_right _ _)

/-- Loading the listed tables keeps their names. -/
theorem sameNames_of_catalogOf {connection : Connection σ} {schema : String} {state final : σ}
    (gives : catalogOf connection schema state = .ok (tables, loaded) final) :
    loaded.map (fun table => (table.schema, table.name)) =
      tables.map fun table => (table.schema, table.name) := by
  obtain ⟨listed, between, -, rest⟩ := bind_eq_ok gives
  obtain ⟨all, later, loads, done⟩ := bind_eq_ok rest
  cases done
  exact names_of_populateAll loads

/-- The attempts to write the classes of loaded tables. -/
def attempts (settings : Settings) (loaded : List Table) : List (Files.Dialogue Outcome) :=
  (claims (loaded.map (RenderedClass.ofTable settings))).map
    (writeClaim Files.Dialogue.fileSystem)

section Attempts

variable {files : Files.FileSystem (StateM World)} {before after : World}
  {history : List (Nat × Files.Exchange)} {outcomes : List Outcome}

/-- The attempt of a table is its turn. -/
theorem turn_of_attempts
    (runs : Files.Interleaves files (width settings) (attempts settings loaded) before history
      outcomes after)
    (same : loaded.map (fun table => (table.schema, table.name)) =
      tables.map fun table => (table.schema, table.name))
    {index : Nat} {table final : Table} (listed : tables[index]? = some table)
    (loads : loaded[index]? = some final) :
    ∃ outcome, outcomes[index]? = some outcome ∧
      Turn settings table final (IsTaken settings tables index table)
        (Files.exchangesAt index history) outcome := by
  have here : (loaded.map (RenderedClass.ofTable settings))[index]? =
      some (RenderedClass.ofTable settings final) := by
    rw [List.getElem?_map, loads, Option.map_some]
  obtain ⟨claim, found, rendered, isFirst⟩ := @claimFrom_spec [] _ _ _ here
  have claimed : (attempts settings loaded)[index]? =
      some (writeClaim Files.Dialogue.fileSystem claim) := by
    rw [attempts, claims, List.getElem?_map, found, Option.map_some]
  obtain ⟨outcome, reported, follows⟩ := runs.follows claimed
  have samePair : (final.schema, final.name) = (table.schema, table.name) := by
    have pairs := congrArg (·[index]?) same
    simpa only [List.getElem?_map, listed, loads, Option.map_some, Option.some.injEq] using pairs
  have path : (RenderedClass.ofTable settings final).path = settings.outputPath table.name :=
    congrArg settings.outputPath (Prod.mk.inj samePair).2
  refine ⟨outcome, reported, turn_of_follows samePair rendered ?_ follows⟩
  rw [isFirst, isTaken_iff same, path, not_exists]
  simp

/-- An attempt that leaves the files alone can be left out. -/
theorem writeAll_without
    (runs : Files.Interleaves files (width settings) (attempts settings loaded) before history
      outcomes after)
    {index : Nat} (inside : index < (attempts settings loaded).length)
    (alone : LeavesAlone files before history index) :
    ∃ schedule outcome,
      writeAll files (width settings) schedule
        (claimsWithout index (loaded.map (RenderedClass.ofTable settings))) before =
          (outcomes.set index outcome, after) := by
  obtain ⟨claim, found⟩ :
      ∃ claim, (claims (loaded.map (RenderedClass.ofTable settings)))[index]? = some claim := by
    rw [attempts, List.length_map] at inside
    exact ⟨_, List.getElem?_eq_getElem inside⟩
  let skip := claim.rendered.skip "written by an earlier table"
  refine ⟨(history.filter fun entry => entry.1 != index).map Prod.fst, skip, ?_⟩
  have skips := runs.without skip alone
  rw [writeAll, claimsWithout, map_modify found]
  exact skips.scheduled

end Attempts

/-- **A run over a catalog that loads gives each table its turn.** -/
theorem turns_of_catalog {files : Files.FileSystem (StateM World)} {connection : Connection σ}
    {schema : String} {state final : σ}
    (gives : catalogOf connection schema state = .ok (tables, loaded) final)
    (settings : Settings) (schedule : List Nat) (world : World) :
    ∃ outcomes history after,
      runScheduled schedule files connection settings schema state world =
        (.ok (.ofOutcomes outcomes), after) ∧
      Turns files settings tables loaded world outcomes history after := by
  have same := sameNames_of_catalogOf gives
  have count : (attempts settings loaded).length = tables.length := by
    have sameLength : loaded.length = tables.length := by simpa using congrArg List.length same
    rw [attempts, claims, List.length_map, length_claimFrom, List.length_map, sameLength]
  obtain ⟨history, runs⟩ := @Files.Dialogue.interleaves_runAll _ _ files _ (width_pos settings)
    schedule (attempts settings loaded) world
  have turns : Turns files settings tables loaded world _ history _ :=
    { sameNames := same
      sameLength := runs.length_eq.trans count
      performs := runs.performs
      isListed := count ▸ runs.lt_length
      turn := fun _ _ _ => turn_of_attempts runs same
      without := fun _ inside => writeAll_without runs (count.symm ▸ inside) }
  refine ⟨_, history, _, ?_, turns⟩
  rw [runScheduled_eq, gives]
  rfl

end Accounts

end Generation

end DataAccess
