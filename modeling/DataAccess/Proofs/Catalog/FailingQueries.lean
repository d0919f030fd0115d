import DataAccess.Proofs.Catalog.Populated

/-!
# Queries that fail

Loading a table that is not loaded asks for its parts one after another, and then for the column
behind each reference from a column of the table. It fails exactly where one of these requests
fails, with the failure of the first one, and nothing is asked after that
(`populate_sendsInTurn`). What was left in the table before does not matter.
-/

namespace DataAccess.Catalog

open Database Schema

/-- The tables of a name as one table. -/
def Snapshot.merged (snapshot : Snapshot) (schema name : String) : SnapshotTable :=
  let tables := snapshot.tablesNamed schema name
  { schema, name
    columns := tables.flatMap (·.columns)
    indexes := tables.flatMap (·.indexes)
    foreignKeys := tables.flatMap (·.foreignKeys) }

theorem Snapshot.merges_merged (snapshot : Snapshot) (schema name : String) :
    snapshot.Merges schema name (snapshot.merged schema name) :=
  ⟨rfl, rfl, rfl, rfl, rfl⟩

/-- Loading a table sends the requests in turn, up to the first one whose query is made to fail;
`log` is what they leave in the state of the connection. -/
structure SendsInTurn {σ : Type} (connection : Connection σ) (failing : List CatalogQuery)
    (log : List Request → σ → σ) (requests : List Request) (start loaded : Table) : Prop where
  fails_iff : ∀ state, (∃ failure after, populate connection (start, state) =
      .error failure after) ↔ ∃ request ∈ requests, request.query ∈ failing
  stops : ∀ state {front failed back}, requests = front ++ failed :: back →
    (∀ request ∈ front, request.query ∉ failing) → failed.query ∈ failing →
      ∃ left : Table, left.loaded = false ∧ populate connection (start, state) =
        .error failed.failure (left, log (front ++ [failed]) state)
  loads : ∀ state, (∀ request ∈ requests, request.query ∉ failing) →
    populate connection (start, state) = .ok () (loaded, log requests state)

/-- Where requests fail, one of them is the first. -/
theorem exists_first_failing {failing : List CatalogQuery} {requests : List Request}
    (fails : ∃ request ∈ requests, request.query ∈ failing) :
    ∃ front failed back, requests = front ++ failed :: back ∧
      (∀ request ∈ front, request.query ∉ failing) ∧ failed.query ∈ failing := by
  obtain ⟨request, member, inFailing⟩ := fails
  have found : (requests.find? fun request => request.query ∈ failing).isSome = true :=
    List.find?_isSome.mpr ⟨request, member, decide_eq_true inFailing⟩
  obtain ⟨failed, first⟩ := Option.isSome_iff_exists.mp found
  obtain ⟨here, front, back, split, before⟩ := List.find?_eq_some_iff_append.mp first
  refine ⟨front, failed, back, split, fun other earlier => ?_, of_decide_eq_true here⟩
  simpa using before other earlier

theorem sendsInTurn_of_serves {σ : Type} {connection : Connection σ} {server : SnapshotServer}
    {note : Notes σ} {source : SnapshotTable} {start : Table}
    (serves : Serves connection server note) (bare : start.loaded = false)
    (merges : server.snapshot.Merges start.schema start.name source) :
    SendsInTurn connection server.failing (noted note) source.requests start
      (source.populated server.snapshot) := by
  have ends := populate_endsLoading serves bare merges
  have loads (state : σ) (works : ∀ request ∈ source.requests, request.query ∉ server.failing) :
      populate connection (start, state) =
        .ok () (source.populated server.snapshot, noted note source.requests state) := by
    have ended := ends state
    rw [EndsLoading, sendAll_apply_of_working state works] at ended
    exact ended
  have stops (state : σ) {front back : List Request} {failed : Request}
      (split : source.requests = front ++ failed :: back)
      (works : ∀ request ∈ front, request.query ∉ server.failing)
      (fails : failed.query ∈ server.failing) :
      ∃ left : Table, left.loaded = false ∧ populate connection (start, state) =
        .error failed.failure (left, noted note (front ++ [failed]) state) := by
    have ended := ends state
    rw [EndsLoading, split, sendAll_apply_of_failing state works fails] at ended
    exact ended
  refine ⟨fun state => ⟨?_, fun fails => ?_⟩, fun state _ _ _ => stops state, loads⟩
  · rintro ⟨failure, after, failed⟩
    by_contra none
    rw [loads state fun request member fails => none ⟨request, member, fails⟩] at failed
    cases failed
  · obtain ⟨front, failed, back, split, works, here⟩ := exists_first_failing fails
    obtain ⟨left, -, ended⟩ := stops state split works here
    exact ⟨_, _, ended⟩

/-- **Loading fails exactly where a query that it needs fails.** It sends its requests in turn, with
their values, and the first one that fails is the last one that is served. -/
theorem populate_sendsInTurn (server : SnapshotServer) {start : Table}
    (bare : start.loaded = false) :
    let source := server.snapshot.merged start.schema start.name
    let loaded := source.populated server.snapshot
    SendsInTurn server.connection server.failing
        (fun sent served => served ++ sent.map (·.query)) source.requests start loaded ∧
      SendsInTurn server.connection.recording server.failing
        (fun sent (served, asked) =>
          (served ++ sent.map (·.query), asked ++ sent.map (·.statement)))
        source.requests start loaded := by
  have merges := server.snapshot.merges_merged start.schema start.name
  have serves := serves_connection server
  have plain := sendsInTurn_of_serves serves bare merges
  have kept := sendsInTurn_of_serves serves.recording bare merges
  have served : noted (fun query _ served => served ++ [query]) =
      fun sent served => served ++ sent.map (·.query) := by
    funext sent served
    exact noted_served sent served
  have recorded : noted (fun query values (state, asked) =>
        (state ++ [query], asked ++ [(query.sql, values)])) =
      fun sent (served, asked) =>
        (served ++ sent.map (·.query), asked ++ sent.map (·.statement)) := by
    funext sent ⟨served, asked⟩
    refine (noted_recording (fun query _ served => served ++ [query]) sent served asked).trans ?_
    rw [noted_served]
  rw [served] at plain
  rw [recorded] at kept
  exact ⟨plain, kept⟩

/-- Of the orders, the coupon is looked up first, and an old key in the table does not matter. -/
theorem populate_sendsInTurn_orders :
    let start : Table := { schema := "shop", name := "orders", primaryKey := [4] }
    start.loaded = false ∧
      ∃ left : Table, left.loaded = false ∧
        populate (SnapshotServer.connection { snapshot := shop, failing := [.column] })
            (start, []) =
          .error
            (.columnLookup "shop" "coupons" "id"
              (.query CatalogQuery.column.sql "column query disabled"))
            (left, [.columns, .primaryKey, .indexKeys, .indexKeys, .foreignKeys, .column]) := by
  intro start
  have sorted : SnapshotServer.sortedBy (·.name) (shop.merged "shop" "orders").foreignKeys =
      orders.foreignKeys.reverse :=
    mergeSort_eq_of_perm (SnapshotServer.isOrder_byBytes _) (List.reverse_perm _).symm (by decide)
  have split : (shop.merged "shop" "orders").requests =
      (shop.merged "shop" "orders").requests.take 5 ++
        SnapshotReference.lookup ⟨"coupon_id", "shop", "coupons", "id"⟩ ::
          [SnapshotReference.lookup ⟨"user_id", "shop", "users", "id"⟩] := by
    rw [SnapshotTable.requests, sorted]
    rfl
  have sends :=
    (@populate_sendsInTurn { snapshot := shop, failing := [.column] } start rfl).1
  exact ⟨rfl, sends.stops [] split (by decide) (by decide)⟩

end DataAccess.Catalog
