import DataAccess.Proofs.Catalog.ComparedRuns
import DataAccess.Proofs.Catalog.FailingQueries
import DataAccess.Proofs.Catalog.RepeatedLoading

/-!
# Loading until it succeeds

A call that fails leaves some parts in the table, but every part is loaded for the name and the
columns of the table alone, and the columns come first. So what a call loads does not depend on
what earlier calls left (`populate_determined`): a table that is loaded after any number of calls
is the one that a single undisturbed call loads, and then it stays as it is (`populate_retried`).
-/

namespace DataAccess.Catalog

open Database Schema

/-- What the connection answers to a catalog query, the other one answers as well, in whichever
state it is. -/
def AnswersWithin {σ τ : Type} (part : Connection σ) (whole : Connection τ) : Prop :=
  ∀ ⦃query : CatalogQuery⦄ ⦃values : List Cell⦄ ⦃rows : List Row⦄ ⦃before after : σ⦄,
    part.query query.sql values before = .ok rows after →
      ∀ state, ∃ later, whole.query query.sql values state = .ok rows later

/-- A snapshot connection that fails some queries answers the others as the snapshot does. -/
theorem answersWithin_failing (snapshot : Snapshot) (failing : List CatalogQuery) :
    AnswersWithin (SnapshotServer.connection { snapshot, failing })
      (SnapshotServer.connection { snapshot }) := by
  intro query values rows before after succeeds state
  have serves := serves_connection { snapshot, failing }
  by_cases fails : query ∈ failing
  · rw [serves.fails values before fails] at succeeds
    cases succeeds
  · cases answered : SnapshotServer.answer snapshot query query.sql values with
    | ok found =>
        rw [serves.answers before fails answered] at succeeds
        cases succeeds
        exact ⟨state ++ [query], query_sql state answered⟩
    | error failure =>
        have enabled : failing.contains query = false :=
          Bool.eq_false_iff.mpr fun disabled => fails (List.contains_iff_mem.mp disabled)
        simp only [SnapshotServer.connection, CatalogQuery.identify?_sql, enabled, answered]
          at succeeds
        cases succeeds

section Follows

variable {σ τ α : Type}

/-- What the step gives where it succeeds, the other step gives in every state. -/
def Follows (step : Introspect σ α) (other : Introspect τ α) : Prop :=
  ∀ ⦃value : α⦄ ⦃before after : σ⦄, step before = .ok value after →
    ∀ state, ∃ later, other state = .ok value later

/-- The comparison of steps of which one follows the other. -/
def following (σ τ : Type) : Comparison σ τ where
  holds related step other :=
    ∀ ⦃value before after⦄, step before = .ok value after →
      ∀ state, ∃ otherValue later, other state = .ok otherValue later ∧ related value otherValue
  value {_ _ _ value other} alike result before after succeeds state := by
    obtain rfl := pure_eq_ok succeeds
    exact ⟨other, state, rfl, alike⟩
  failure related failure value before after succeeds := by cases succeeds
  sequence now later value before after succeeds state := by
    obtain ⟨first, between, gives, goesOn⟩ := bind_eq_ok succeeds
    obtain ⟨otherFirst, otherBetween, otherGives, alike⟩ := now gives state
    obtain ⟨other, otherAfter, otherGoesOn, same⟩ :=
      later first otherFirst alike goesOn otherBetween
    exact ⟨other, otherAfter, (bind_of_ok otherGives).trans otherGoesOn, same⟩

theorem follows_of_following {step : Introspect σ α} {other : Introspect τ α}
    (holds : (following σ τ).holds Eq step other) : Follows step other := by
  intro value before after succeeds state
  obtain ⟨_, later, gives, rfl⟩ := holds succeeds state
  exact ⟨later, gives⟩

end Follows

theorem AnswersWithin.asks {σ τ : Type} {part : Connection σ} {whole : Connection τ}
    (within : AnswersWithin part whole) : Asks (following σ τ) part whole := by
  intro context query values rows before after succeeds state
  rw [ask, inContext] at succeeds
  cases answered : part.query query.sql values before with
  | error failure between =>
      rw [answered] at succeeds
      cases succeeds
  | ok rows between =>
      rw [answered] at succeeds
      cases succeeds
      obtain ⟨later, answered⟩ := within answered state
      refine ⟨rows, later, by rw [ask, inContext, answered], ?_⟩
      exact List.forall₂_same.mpr fun row _ name => rfl

/-- The table with its name and columns alone. -/
def described (table : Table) : Table :=
  { schema := table.schema, name := table.name, columns := table.columns }

/-- Foreign keys are loaded for the name and the columns of a table. The other keys are as well, by
definition; here the rows are gone through one by one. -/
theorem loadForeignKeys_described {σ : Type} (connection : Connection σ) (table : Table) :
    loadForeignKeys connection (described table) = loadForeignKeys connection table := by
  have same (keys : ForeignKeys) (rows : List Row) :
      addForeignRows connection (described table) keys rows =
        addForeignRows connection table keys rows := by
    induction rows generalizing keys with
    | nil => rfl
    | cons row rows ih =>
        simp only [addForeignRows, ih]
        rfl
  simp only [loadForeignKeys, same]
  rfl

/-- **What a call loads is what an undisturbed call loads into a bare table**, whatever was left in
the table before. -/
theorem populate_determined {σ τ : Type} {part : Connection σ} {whole : Connection τ}
    {start loaded : Table} {before after : σ} (within : AnswersWithin part whole)
    (bare : start.loaded = false)
    (succeeds : populate part (start, before) = .ok () (loaded, after)) (state : τ) :
    ∃ later, populate whole ({ schema := start.schema, name := start.name }, state) =
      .ok () (loaded, later) := by
  obtain ⟨columns, _, gotColumns, primaryKey, _, gotPrimary, uniqueKeys, _, gotUnique,
    nonUniqueKeys, _, gotNonUnique, foreignKeys, gotForeign, rfl⟩ :=
    (populate_eq_ok_iff bare).mp succeeds
  let known : Table := { schema := start.schema, name := start.name, columns }
  rw [← loadForeignKeys_described] at gotForeign
  have asks := within.asks
  obtain ⟨t₁, columnsAgain⟩ := follows_of_following (asks.columns start) gotColumns state
  obtain ⟨t₂, primaryAgain⟩ := follows_of_following (asks.primaryKey known) gotPrimary t₁
  obtain ⟨t₃, uniqueAgain⟩ := follows_of_following (asks.uniqueKeys known) gotUnique t₂
  obtain ⟨t₄, nonUniqueAgain⟩ :=
    follows_of_following (asks.indexGroups known false) gotNonUnique t₃
  obtain ⟨t₅, foreignAgain⟩ := follows_of_following (asks.foreignKeys known) gotForeign t₄
  refine ⟨t₅, (populate_eq_ok_iff rfl).mpr ⟨columns, t₁, columnsAgain, primaryKey, t₂,
    primaryAgain, uniqueKeys, t₃, uniqueAgain, nonUniqueKeys, t₄, nonUniqueAgain, foreignKeys,
    ?_, rfl⟩⟩
  rw [← loadForeignKeys_described]
  exact foreignAgain

/-- A call that succeeds loads the table, under its name. -/
theorem loaded_of_populate_eq_ok {σ : Type} {connection : Connection σ} {start loaded : Table}
    {before after : σ} (bare : start.loaded = false)
    (succeeds : populate connection (start, before) = .ok () (loaded, after)) :
    loaded.loaded = true ∧ loaded.schema = start.schema ∧ loaded.name = start.name := by
  obtain ⟨_, _, -, _, _, -, _, _, -, _, _, -, _, -, rfl⟩ := (populate_eq_ok_iff bare).mp succeeds
  exact ⟨rfl, rfl, rfl⟩

/-- What is kept when a part fails, and when the parts behind it fail, is kept when the whole
does. -/
theorem holds_of_loadPart_eq_error {σ α : Type} {load : Table → Introspect σ α}
    {store : Table → α → Table} {next : Unit → EStateM IntrospectionError (Table × σ) Unit}
    {table left : Table} {before after : σ} {failure : IntrospectionError} (holds : Table → Prop)
    (now : holds table)
    (later : ∀ part between, next () (store table part, between) = .error failure (left, after) →
      holds left)
    (fails : (loadPart load store >>= next) (table, before) = .error failure (left, after)) :
    holds left := by
  cases loads : load table before with
  | ok part between =>
      rw [loadPart_of_ok loads] at fails
      exact later part between fails
  | error reason between =>
      rw [loadPart_of_error loads] at fails
      cases fails
      exact now

/-- A call that fails leaves the table unloaded, under its name. -/
theorem bare_of_populate_eq_error {σ : Type} {connection : Connection σ} {start left : Table}
    {before after : σ} {failure : IntrospectionError} (bare : start.loaded = false)
    (fails : populate connection (start, before) = .error failure (left, after)) :
    left.loaded = false ∧ left.schema = start.schema ∧ left.name = start.name := by
  let kept (table : Table) : Prop :=
    table.loaded = false ∧ table.schema = start.schema ∧ table.name = start.name
  have stored : kept start := ⟨bare, rfl, rfl⟩
  rw [populate_of_bare bare, loadParts] at fails
  refine holds_of_loadPart_eq_error kept stored (fun _ _ => ?_) fails
  refine holds_of_loadPart_eq_error kept stored fun _ _ => ?_
  refine holds_of_loadPart_eq_error kept stored fun _ _ => ?_
  refine holds_of_loadPart_eq_error kept stored fun _ _ => ?_
  refine holds_of_loadPart_eq_error kept stored fun _ _ fails => ?_
  cases fails

/-- A call that loads a table: a connection, and the state that it is in. -/
structure Call where
  {σ : Type}
  connection : Connection σ
  state : σ

/-- The table after calls, one after another, whether they succeed or fail. -/
def tableAfterCalls (calls : List Call) (table : Table) : Table :=
  calls.foldl (fun table call => tableAfter call.connection table call.state) table

theorem tableAfterCalls_cons (call : Call) (calls : List Call) (table : Table) :
    tableAfterCalls (call :: calls) table =
      tableAfterCalls calls (tableAfter call.connection table call.state) :=
  rfl

theorem tableAfterCalls_of_loaded {table : Table} (loaded : table.loaded = true)
    (calls : List Call) : tableAfterCalls calls table = table := by
  induction calls with
  | nil => rfl
  | cons call calls ih => rw [tableAfterCalls_cons, tableAfter_of_loaded loaded, ih]

/-- The table has its name, and if it is loaded, it is what an undisturbed call loads. -/
structure AgreesWith {τ : Type} (whole : Connection τ) (schema name : String) (table : Table) :
    Prop where
  sameSchema : table.schema = schema
  sameName : table.name = name
  determined : table.loaded = true →
    ∀ state, ∃ later, populate whole ({ schema, name }, state) = .ok () (table, later)

section OneCatalog

variable {τ : Type} {whole : Connection τ} {schema name : String} {table : Table}

/-- A call that serves the same catalog keeps the table in agreement with it. -/
theorem AgreesWith.call (agrees : AgreesWith whole schema name table) (call : Call)
    (within : AnswersWithin call.connection whole) :
    AgreesWith whole schema name (tableAfter call.connection table call.state) := by
  cases loaded : table.loaded with
  | true =>
      rw [tableAfter_of_loaded loaded]
      exact agrees
  | false =>
      obtain ⟨rfl, rfl, -⟩ := agrees
      rw [tableAfter]
      cases ran : populate call.connection (table, call.state) with
      | ok done result =>
          obtain ⟨-, schema, name⟩ := loaded_of_populate_eq_ok loaded ran
          exact ⟨schema, name, fun _ => populate_determined within loaded ran⟩
      | error failure result =>
          obtain ⟨bare, schema, name⟩ := bare_of_populate_eq_error loaded ran
          refine ⟨schema, name, fun loads => ?_⟩
          rw [tableOf, bare] at loads
          cases loads

/-- So do any number of calls. -/
theorem AgreesWith.calls (agrees : AgreesWith whole schema name table) {calls : List Call}
    (within : ∀ call ∈ calls, AnswersWithin call.connection whole) :
    AgreesWith whole schema name (tableAfterCalls calls table) := by
  induction calls generalizing table with
  | nil => exact agrees
  | cons call calls ih =>
      obtain ⟨here, later⟩ := List.forall_mem_cons.mp within
      exact ih (agrees.call call here) later

/-- **Loading can be tried again until it succeeds, and it runs once.** After a call that succeeds
the table is the one that an undisturbed call loads, whatever the calls before it left. Then every
call, through whichever connection, succeeds without a request and changes nothing. -/
theorem populate_retried {earlier : List Call} {last : Call}
    (within : ∀ call ∈ earlier ++ [last], AnswersWithin call.connection whole) {loaded : Table}
    {after : last.σ}
    (succeeds : populate last.connection
      (tableAfterCalls earlier { schema, name }, last.state) = .ok () (loaded, after)) :
    loaded.loaded = true ∧
    (∀ state, ∃ later, populate whole ({ schema, name }, state) = .ok () (loaded, later)) ∧
    ∀ (later : List Call) {ρ : Type} (connection : Connection ρ) (state : ρ),
      populate connection (tableAfterCalls later loaded, state) = .ok () (loaded, state) := by
  have bare : AgreesWith whole schema name { schema, name } := ⟨rfl, rfl, nofun⟩
  have agrees := bare.calls within
  have reached : tableAfterCalls (earlier ++ [last]) { schema, name } = loaded := by
    rw [tableAfterCalls, List.foldl_append, List.foldl_cons, List.foldl_nil, tableAfter]
    exact congrArg tableOf succeeds
  have loads : loaded.loaded = true := by
    cases before : (tableAfterCalls earlier { schema, name }).loaded with
    | true =>
        rw [populate_of_loaded before] at succeeds
        cases succeeds
        exact before
    | false => exact (loaded_of_populate_eq_ok before succeeds).1
  rw [reached] at agrees
  refine ⟨loads, agrees.determined loads, fun later ρ connection state => ?_⟩
  rw [tableAfterCalls_of_loaded loads, populate_of_loaded loads]

end OneCatalog

/-- A call through a snapshot connection that fails some of the queries. -/
def Call.failing (snapshot : Snapshot) (failing : List CatalogQuery) : Call :=
  { connection := SnapshotServer.connection { snapshot, failing }, state := [] }

/-- Where every call fails a query that is needed, the table stays unloaded. -/
theorem unloaded_tableAfterCalls {snapshot : Snapshot} {source : SnapshotTable} {table : Table}
    {schema name : String} (merges : snapshot.Merges schema name source)
    {queries : List (List CatalogQuery)}
    (needed : ∀ failing ∈ queries, ∃ request ∈ source.requests, request.query ∈ failing)
    (unloaded : table.loaded = false ∧ table.schema = schema ∧ table.name = name) :
    let after := tableAfterCalls (queries.map (Call.failing snapshot)) table
    after.loaded = false ∧ after.schema = schema ∧ after.name = name := by
  induction queries generalizing table with
  | nil => exact unloaded
  | cons failing queries ih =>
      obtain ⟨here, later⟩ := List.forall_mem_cons.mp needed
      obtain ⟨bare, rfl, rfl⟩ := unloaded
      have sends := sendsInTurn_of_serves (serves_connection { snapshot, failing }) bare merges
      obtain ⟨failure, ⟨left, after⟩, failed⟩ := (sends.fails_iff []).mpr here
      have same : tableAfter (Call.failing snapshot failing).connection table
          (Call.failing snapshot failing).state = left := congrArg tableOf failed
      rw [List.map_cons, tableAfterCalls_cons, same]
      exact ih later (bare_of_populate_eq_error bare failed)

/-- Orders are loaded after the foreign keys failed twice, and the indexes in between. -/
theorem populate_retried_orders :
    let earlier := [[.foreignKeys], [.indexKeys], [.foreignKeys]].map (Call.failing shop)
    let last := Call.failing shop []
    let whole := SnapshotServer.connection { snapshot := shop }
    let loaded := orders.populated shop
    (∀ call ∈ earlier ++ [last], AnswersWithin call.connection whole) ∧
      (tableAfterCalls earlier { schema := "shop", name := "orders" }).loaded = false ∧
      (∃ after, populate last.connection
        (tableAfterCalls earlier { schema := "shop", name := "orders" }, last.state) =
          .ok () (loaded, after)) ∧
      (∀ state, ∃ later,
        populate whole ({ schema := "shop", name := "orders" }, state) = .ok () (loaded, later)) ∧
      ∀ (later : List Call) {ρ : Type} (connection : Connection ρ) (state : ρ),
        populate connection (tableAfterCalls later loaded, state) = .ok () (loaded, state) := by
  intro earlier last whole loaded
  have within : ∀ call ∈ earlier ++ [last], AnswersWithin call.connection whole := by
    intro call member
    have calls : earlier ++ [last] =
        [[.foreignKeys], [.indexKeys], [.foreignKeys], []].map (Call.failing shop) := rfl
    rw [calls] at member
    obtain ⟨failing, -, rfl⟩ := List.mem_map.mp member
    exact answersWithin_failing shop failing
  have merges : shop.Merges "shop" "orders" orders := by
    refine ⟨rfl, rfl, ?_, ?_, ?_⟩ <;> decide
  have needed : ∀ failing ∈ [[CatalogQuery.foreignKeys], [.indexKeys], [.foreignKeys]],
      ∃ request ∈ orders.requests, request.query ∈ failing := by
    simp [SnapshotTable.requests, SnapshotTable.partRequest]
  obtain ⟨bare, schema, name⟩ := @unloaded_tableAfterCalls shop orders
    { schema := "shop", name := "orders" } _ _ merges _ needed ⟨rfl, rfl, rfl⟩
  have loads := (sendsInTurn_of_serves (serves_connection { snapshot := shop }) bare
    (by rw [schema, name]; exact merges)).loads [] fun _ _ => List.not_mem_nil
  obtain ⟨-, undisturbed, later⟩ :=
    @populate_retried _ whole "shop" "orders" earlier last within loaded _ loads
  exact ⟨within, bare, ⟨_, loads⟩, undisturbed, later⟩

end DataAccess.Catalog
