import DataAccess.Proofs.Catalog.Answers
import DataAccess.Proofs.Catalog.LoadedTables

/-!
# Tables that are loaded again

Loading stores one part of a table after another, so a failure leaves the parts before it in the
table. The next call then replaces the columns first, while the keys of the failed call are still
there. They keep referring to columns as long as the columns do not become fewer, and a call that
succeeds replaces all of them (`isWhole_of_reached`). Between a failure and a success, keys may
refer to columns that are gone (`reached_dangling`).
-/

namespace DataAccess.Catalog

open Database Schema

variable {σ : Type}

/-- The table that an action ends with, whether it succeeds or fails. -/
def tableOf : EStateM.Result IntrospectionError (Table × σ) Unit → Table
  | .ok _ (table, _) => table
  | .error _ (table, _) => table

/-- The table after loading it, or after the attempt. -/
def tableAfter (connection : Connection σ) (table : Table) (state : σ) : Table :=
  tableOf (populate connection (table, state))

/-- Where a part fails to load, the table stays as it was; otherwise it goes on with the part. -/
theorem tableOf_loadPart {α : Type} {load : Table → Introspect σ α} {store : Table → α → Table}
    {next : Unit → EStateM IntrospectionError (Table × σ) Unit} {table : Table} {state : σ}
    {holds : Table → Prop} (now : holds table)
    (later : ∀ part between, load table state = .ok part between →
      holds (tableOf (next () (store table part, between)))) :
    holds (tableOf ((loadPart load store >>= next) (table, state))) := by
  cases loads : load table state with
  | ok part between =>
      rw [loadPart_of_ok loads]
      exact later part between loads
  | error failure between =>
      rw [loadPart_of_error loads]
      exact now

theorem tableAfter_of_loaded {connection : Connection σ} {table : Table}
    (loaded : table.loaded = true) (state : σ) : tableAfter connection table state = table := by
  rw [tableAfter, populate_of_loaded loaded, tableOf]

/-- Keys that refer to columns do so when there are more columns. -/
theorem isWhole_withColumns {table : Table} (whole : table.IsWhole) {columns : List Column}
    (more : table.columns.length ≤ columns.length) : { table with columns }.IsWhole := by
  have kept {ref : ColumnRef} (has : table.HasRef ref) : { table with columns }.HasRef ref :=
    Nat.lt_of_lt_of_le has more
  refine ⟨fun ref member => kept (whole.primaryKey ref member), ?_, ?_, ?_⟩
  · intro group member
    obtain ⟨filled, refer⟩ := whole.uniqueKeys group member
    exact ⟨filled, fun ref inGroup => kept (refer ref inGroup)⟩
  · intro group member
    obtain ⟨filled, refer⟩ := whole.nonUniqueKeys group member
    exact ⟨filled, fun ref inGroup => kept (refer ref inGroup)⟩
  · intro group member
    obtain ⟨filled, refer⟩ := whole.foreignKeys group member
    exact ⟨filled, fun pair inGroup => kept (refer pair inGroup)⟩

/-- **What one call leaves.** A table that was whole stays so unless it loses columns, and a table
that is loaded is whole in any case. -/
theorem isWhole_tableAfter (connection : Connection σ) {start : Table} (bare : start.loaded = false)
    (state : σ)
    (kept : (tableAfter connection start state).loaded = true ∨
      start.IsWhole ∧ start.columns.length ≤ (tableAfter connection start state).columns.length) :
    (tableAfter connection start state).IsWhole := by
  let holds (table : Table) : Prop :=
    table.loaded = true ∨ start.IsWhole ∧ start.columns.length ≤ table.columns.length →
      table.IsWhole
  have unfinished {table : Table} (bare : table.loaded = false)
      (whole : start.IsWhole → start.columns.length ≤ table.columns.length → table.IsWhole) :
      holds table := by
    rintro (loaded | ⟨startWhole, more⟩)
    · rw [bare] at loaded
      cases loaded
    · exact whole startWhole more
  have after : holds (tableAfter connection start state) := by
    rw [tableAfter, populate_of_bare bare, loadParts]
    refine tableOf_loadPart (unfinished bare fun whole _ => whole) fun columns s₁ _ => ?_
    refine tableOf_loadPart (unfinished bare fun whole more => isWhole_withColumns whole more)
      fun primaryKey s₂ primary => ?_
    have inPrimary := hasRef_of_loadPrimaryKey primary
    refine tableOf_loadPart (unfinished bare fun whole more =>
      { isWhole_withColumns whole more with primaryKey := inPrimary })
      fun uniqueKeys s₃ unique => ?_
    have inUnique := holds_of_loadUniqueKeys unique
    refine tableOf_loadPart (unfinished bare fun whole more =>
      { isWhole_withColumns whole more with primaryKey := inPrimary, uniqueKeys := inUnique })
      fun nonUniqueKeys s₄ nonUnique => ?_
    have inNonUnique := holds_of_loadIndexGroups nonUnique
    refine tableOf_loadPart (unfinished bare fun whole more =>
      { isWhole_withColumns whole more with
        primaryKey := inPrimary, uniqueKeys := inUnique, nonUniqueKeys := inNonUnique })
      fun foreignKeys s₅ foreign => ?_
    have inForeign := holds_of_loadForeignKeys foreign
    exact fun _ => ⟨inPrimary, inUnique, inNonUnique, inForeign⟩
  exact after kept

/-- The tables that calls lead to from a bare one. Each call goes through a connection of its own
and may fail; what it does to the table has to be `allowed`. -/
inductive ReachedBy (allowed : Table → Table → Prop) : Table → Prop where
  | bare (schema name : String) : ReachedBy allowed { schema, name }
  | call {σ : Type} (connection : Connection σ) (state : σ) {table : Table}
      (reached : ReachedBy allowed table)
      (step : allowed table (tableAfter connection table state)) :
      ReachedBy allowed (tableAfter connection table state)

/-- **Keys refer to columns.** This holds of every table that is loaded, whatever calls failed
before, and of every table that never lost a column. -/
theorem isWhole_of_reached {allowed : Table → Table → Prop} {table : Table}
    (reached : ReachedBy allowed table)
    (kept : table.loaded = true ∨
      ∀ before after, allowed before after → before.columns.length ≤ after.columns.length) :
    table.IsWhole := by
  induction reached with
  | bare schema name => exact ⟨nofun, Table.holds_nil, Table.holds_nil, Table.holds_nil⟩
  | @call σ connection state table _ step ih =>
      cases loaded : table.loaded with
      | true =>
          rw [tableAfter_of_loaded loaded state]
          exact ih (Or.inl loaded)
      | false =>
          refine isWhole_tableAfter connection loaded state ?_
          rcases kept with loads | grows
          · exact Or.inl loads
          · exact Or.inr ⟨ih (Or.inr grows), grows _ _ step⟩

/-- A connection that gives the same answer to a query each time. -/
def answering (answers : CatalogQuery → Except ConnectionError (List Row)) : Connection Unit where
  query sql _ :=
    match CatalogQuery.identify? sql with
    | none => throw (.unsupported sql)
    | some query =>
      match answers query with
      | .ok rows => pure rows
      | .error failure => throw failure
  execute sql _ := throw (.unsupported sql)

theorem ask_answering (answers : CatalogQuery → Except ConnectionError (List Row))
    (context : ConnectionError → IntrospectionError) (query : CatalogQuery) (values : List Cell) :
    ask (answering answers) context query values = decoded context (answers query) := by
  funext state
  simp only [ask, inContext, answering, CatalogQuery.identify?_sql]
  cases answers query <;> rfl

/-- Orders with a number as their primary key, through a connection that is lost before the
indexes are listed. -/
def numberedOrders : CatalogQuery → Except ConnectionError (List Row)
  | .columns => .ok
      [ SnapshotServer.columnRow { name := "id", dataType := "int" },
        SnapshotServer.columnRow { name := "number", dataType := "int" } ]
  | .primaryKey => .ok [indexRow "PRIMARY" "number"]
  | query => .error (.query query.sql "connection lost")

/-- The orders without a number, through a connection that is lost before the primary key is. -/
def plainOrders : CatalogQuery → Except ConnectionError (List Row)
  | .columns => .ok [SnapshotServer.columnRow { name := "id", dataType := "int" }]
  | query => .error (.query query.sql "connection lost")

/-- The orders after the first call. -/
def ordersWithNumber : Table :=
  { schema := "shop"
    name := "orders"
    columns :=
      [ { name := "id", nativeType := "int", extendedType := "int", nullable := false,
          comment := "", isPrimary := false },
        { name := "number", nativeType := "int", extendedType := "int", nullable := false,
          comment := "", isPrimary := false } ]
    primaryKey := [1] }

theorem tableAfter_numberedOrders :
    tableAfter (answering numberedOrders) { schema := "shop", name := "orders" } () =
      ordersWithNumber := by
  have columns : loadColumns (answering numberedOrders) { schema := "shop", name := "orders" } () =
      .ok ordersWithNumber.columns () := by
    rw [loadColumns, ask_answering]
    rfl
  have primary : loadPrimaryKey (answering numberedOrders)
      { schema := "shop", name := "orders", columns := ordersWithNumber.columns } () =
        .ok [1] () := by
    rw [loadPrimaryKey, ask_answering]
    rfl
  have unique : loadUniqueKeys (answering numberedOrders) ordersWithNumber () =
      .error (.load "shop" "orders" "unique keys"
        (.query CatalogQuery.indexKeys.sql "connection lost")) () := by
    rw [loadUniqueKeys, loadIndexGroups, ask_answering]
    rfl
  rw [tableAfter, populate_of_bare rfl, loadParts, loadPart_of_ok columns, loadPart_of_ok primary]
  exact congrArg tableOf (loadPart_of_error unique)

/-- The second call stores the one column that is left, and not the key over it. -/
theorem tableAfter_plainOrders :
    tableAfter (answering plainOrders) ordersWithNumber () =
      { ordersWithNumber with columns := ordersWithNumber.columns.take 1 } := by
  have columns : loadColumns (answering plainOrders) ordersWithNumber () =
      .ok (ordersWithNumber.columns.take 1) () := by
    rw [loadColumns, ask_answering]
    rfl
  have primary : loadPrimaryKey (answering plainOrders)
      { ordersWithNumber with columns := ordersWithNumber.columns.take 1 } () =
        .error (.load "shop" "orders" "primary key"
          (.query CatalogQuery.primaryKey.sql "connection lost")) () := by
    rw [loadPrimaryKey, ask_answering]
    rfl
  rw [tableAfter, populate_of_bare rfl, loadParts, loadPart_of_ok columns]
  exact congrArg tableOf (loadPart_of_error primary)

theorem isWhole_of_reached_orders :
    ReachedBy (fun before after => before.columns.length ≤ after.columns.length)
        ordersWithNumber ∧
      ordersWithNumber.IsWhole := by
  have reached : ReachedBy (fun before after => before.columns.length ≤ after.columns.length)
      ordersWithNumber := by
    rw [← tableAfter_numberedOrders]
    exact .call _ _ (.bare "shop" "orders") (Nat.zero_le _)
  exact ⟨reached, isWhole_of_reached reached (Or.inr fun _ _ kept => kept)⟩

/-- After the second call the primary key refers to a column that the table no longer has. -/
theorem reached_dangling :
    ∃ table, ReachedBy (fun _ _ => True) table ∧ ∃ ref ∈ table.primaryKey, ¬ table.HasRef ref := by
  have first : ReachedBy (fun _ _ => True) ordersWithNumber := by
    rw [← tableAfter_numberedOrders]
    exact .call _ _ (.bare "shop" "orders") trivial
  have second : ReachedBy (fun _ _ => True)
      { ordersWithNumber with columns := ordersWithNumber.columns.take 1 } := by
    rw [← tableAfter_plainOrders]
    exact .call _ _ first trivial
  exact ⟨_, second, 1, by decide, by decide⟩

end DataAccess.Catalog
