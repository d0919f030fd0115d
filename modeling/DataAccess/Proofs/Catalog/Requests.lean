import DataAccess.Proofs.Catalog.Answers
import DataAccess.Proofs.Catalog.LoadedTables

/-!
# Requests of a run

What introspection asks of a snapshot connection is a list of requests, which are sent in turn and
of which the first one that is made to fail is the last (`sending_apply_of_failing`). A step that
sends requests and then has a value is `sending` them, and steps in sequence send their requests
behind one another (`sending_bind`).
-/

namespace DataAccess.Database

/-- A connection that also keeps every statement that it is asked, with the bound values. -/
def Connection.recording {σ : Type} (connection : Connection σ) :
    Connection (σ × List (String × List Cell)) where
  query sql values := fun (state, asked) =>
    match connection.query sql values state with
    | .ok rows after => .ok rows (after, asked ++ [(sql, values)])
    | .error failure after => .error failure (after, asked ++ [(sql, values)])
  execute sql values := fun (state, asked) =>
    match connection.execute sql values state with
    | .ok affected after => .ok affected (after, asked ++ [(sql, values)])
    | .error failure after => .error failure (after, asked ++ [(sql, values)])

end DataAccess.Database

namespace DataAccess.Catalog

open Database Schema

/-- A query with its bound values, and what its failure is reported as. -/
structure Request where
  query : CatalogQuery
  values : List Cell
  context : ConnectionError → IntrospectionError

namespace Request

/-- What a run fails with where the query is made to fail. -/
def failure (request : Request) : IntrospectionError :=
  request.context (.query request.query.sql (request.query.name ++ " query disabled"))

/-- The statement that is sent, with the bound values. -/
def statement (request : Request) : String × List Cell :=
  (request.query.sql, request.values)

end Request

/-- How the state of a connection changes with each request. -/
abbrev Notes (σ : Type) := CatalogQuery → List Cell → σ → σ

/-- A connection that answers from a snapshot, and notes every query in its own way. -/
structure Serves {σ : Type} (connection : Connection σ) (server : SnapshotServer)
    (note : Notes σ) : Prop where
  fails : ∀ {query : CatalogQuery} (values : List Cell) (state : σ), query ∈ server.failing →
    connection.query query.sql values state =
      .error (.query query.sql (query.name ++ " query disabled")) (note query values state)
  answers : ∀ {query : CatalogQuery} {values : List Cell} {rows : List Row} (state : σ),
    query ∉ server.failing →
    SnapshotServer.answer server.snapshot query query.sql values = .ok rows →
      connection.query query.sql values state = .ok rows (note query values state)

/-- The state of a connection after requests. -/
def noted {σ : Type} (note : Notes σ) (requests : List Request) (state : σ) : σ :=
  requests.foldl (fun state request => note request.query request.values state) state

theorem noted_served (requests : List Request) (served : List CatalogQuery) :
    noted (fun query _ served => served ++ [query]) requests served =
      served ++ requests.map (·.query) := by
  induction requests generalizing served with
  | nil => exact (List.append_nil served).symm
  | cons request rest ih =>
      refine (ih (served ++ [request.query])).trans ?_
      rw [List.append_assoc, List.singleton_append, List.map_cons]

/-- Statements are kept beside whatever a connection notes of its own. -/
theorem noted_recording {σ : Type} (note : Notes σ) (requests : List Request) (state : σ)
    (asked : List (String × List Cell)) :
    noted (fun query values (state, asked) =>
        (note query values state, asked ++ [(query.sql, values)])) requests (state, asked) =
      (noted note requests state, asked ++ requests.map (·.statement)) := by
  induction requests generalizing state asked with
  | nil => rw [List.map_nil, List.append_nil]; rfl
  | cons request rest ih =>
      refine (ih (note request.query request.values state) (asked ++ [request.statement])).trans ?_
      rw [List.append_assoc, List.singleton_append, List.map_cons]
      rfl

/-- The connection of a snapshot notes the queries. -/
theorem serves_connection (server : SnapshotServer) :
    Serves server.connection server fun query _ served => served ++ [query] where
  fails {query} values state failing := by
    have disabled : server.failing.contains query = true := List.contains_iff_mem.mpr failing
    simp only [SnapshotServer.connection, CatalogQuery.identify?_sql, disabled]
    rfl
  answers {query} values rows state works answered := by
    have enabled : server.failing.contains query = false :=
      Bool.eq_false_iff.mpr fun disabled => works (List.contains_iff_mem.mp disabled)
    simp only [SnapshotServer.connection, CatalogQuery.identify?_sql, enabled, answered]
    rfl

section Sending

variable {σ α β : Type} {connection : Connection σ} {server : SnapshotServer} {note : Notes σ}

/-- A connection that keeps the statements serves what it served before. -/
theorem Serves.recording (serves : Serves connection server note) :
    Serves connection.recording server fun query values (state, asked) =>
      (note query values state, asked ++ [(query.sql, values)]) where
  fails values state failing := by
    obtain ⟨state, asked⟩ := state
    simp only [Connection.recording, serves.fails values state failing]
  answers state works answered := by
    obtain ⟨state, asked⟩ := state
    simp only [Connection.recording, serves.answers state works answered]

/-- Sends a request. -/
def send (failing : List CatalogQuery) (note : Notes σ) (request : Request) : Introspect σ Unit :=
  fun state =>
    let after := note request.query request.values state
    if request.query ∈ failing then .error request.failure after else .ok () after

/-- Sends requests in turn, up to the first one whose query is made to fail. -/
def sendAll (failing : List CatalogQuery) (note : Notes σ) : List Request → Introspect σ Unit
  | [] => pure ()
  | request :: rest => do
    send failing note request
    sendAll failing note rest

/-- Sends requests in turn, and has the value if all of them work. -/
def sending (failing : List CatalogQuery) (note : Notes σ) (requests : List Request) (value : α) :
    Introspect σ α := do
  sendAll failing note requests
  pure value

variable {failing : List CatalogQuery} {requests : List Request}

theorem send_of_working {request : Request} (works : request.query ∉ failing) (state : σ) :
    send failing note request state = .ok () (note request.query request.values state) := by
  simp only [send, if_neg works]

theorem send_of_failing {request : Request} (fails : request.query ∈ failing) (state : σ) :
    send failing note request state =
      .error request.failure (note request.query request.values state) := by
  simp only [send, if_pos fails]

theorem sendAll_append (front back : List Request) :
    sendAll failing note (front ++ back) = (do
      sendAll failing note front
      sendAll failing note back) := by
  induction front with
  | nil => rw [List.nil_append, sendAll, pure_bind]
  | cons request rest ih => rw [List.cons_append, sendAll, ih, sendAll, bind_assoc]

/-- Steps in sequence send their requests behind one another. -/
theorem sending_bind {value : α} {result : β} {next : α → Introspect σ β} {more : List Request}
    (later : next value = sending failing note more result) :
    sending failing note requests value >>= next =
      sending failing note (requests ++ more) result := by
  rw [sending, bind_assoc, sending, sendAll_append, bind_assoc]
  refine bind_congr fun _ => ?_
  rw [pure_bind, later, sending]

/-- What only computes sends nothing. -/
theorem sending_bind_pure {value : α} {result : β} {next : α → Introspect σ β}
    (later : next value = pure result) :
    sending failing note requests value >>= next = sending failing note requests result := by
  have nothing : next value = sending failing note [] result := later
  rw [sending_bind nothing, List.append_nil]

/-- Requests all of which work are all sent. -/
theorem sendAll_apply_of_working (state : σ)
    (works : ∀ request ∈ requests, request.query ∉ failing) :
    sendAll failing note requests state = .ok () (noted note requests state) := by
  induction requests generalizing state with
  | nil => rfl
  | cons request rest ih =>
      obtain ⟨here, later⟩ := List.forall_mem_cons.mp works
      rw [sendAll, bind_of_ok (send_of_working here state), ih _ later]
      rfl

/-- The first request that fails is the last one that is sent. -/
theorem sendAll_apply_of_failing {front back : List Request} {failed : Request} (state : σ)
    (works : ∀ request ∈ front, request.query ∉ failing) (fails : failed.query ∈ failing) :
    sendAll failing note (front ++ failed :: back) state =
      .error failed.failure (noted note (front ++ [failed]) state) := by
  have stops : sendAll failing note (failed :: back) (noted note front state) =
      .error failed.failure (note failed.query failed.values (noted note front state)) := by
    simp only [sendAll, bind, EStateM.bind, send_of_failing fails]
  rw [sendAll_append, bind_of_ok (sendAll_apply_of_working state works), stops, noted, noted,
    List.foldl_append]
  rfl

/-- A question to a snapshot connection is one request. -/
theorem Serves.ask_eq (serves : Serves connection server note)
    {context : ConnectionError → IntrospectionError} {query : CatalogQuery} {values : List Cell}
    {rows : List Row}
    (answered : SnapshotServer.answer server.snapshot query query.sql values = .ok rows) :
    ask connection context query values =
      sending server.failing note [{ query, values, context }] rows := by
  funext state
  simp only [ask, inContext, sending, sendAll, bind, EStateM.bind, send]
  by_cases fails : query ∈ server.failing
  · rw [if_pos fails, serves.fails values state fails]
    rfl
  · rw [if_neg fails, serves.answers state fails answered]
    rfl

/-- A question whose rows are decoded one by one. -/
theorem Serves.ask_decoded (serves : Serves connection server note)
    (context : ConnectionError → IntrospectionError) {query : CatalogQuery} {values : List Cell}
    {rows : List Row} {decode : Row → Except ConnectionError α} {results : List α}
    {next : List α → Introspect σ β} {result : β}
    (answered : SnapshotServer.answer server.snapshot query query.sql values = .ok rows)
    (decodes : rows.mapM decode = .ok results) (later : next results = pure result) :
    (do
      let rows ← ask connection context query values
      let results ← decoded context (rows.mapM decode)
      next results) =
        sending server.failing note [{ query, values, context }] result := by
  rw [serves.ask_eq answered]
  refine sending_bind_pure ?_
  rw [decodes]
  exact (pure_bind results next).trans later

end Sending

section Loading

variable {σ : Type} {failing : List CatalogQuery} {note : Notes σ}

/-- How loading a table ends that sends the requests: loaded as the table if all of them work, and
else not loaded, with the failure of the first one that does not. -/
def EndsLoading (failing : List CatalogQuery) (note : Notes σ) (requests : List Request)
    (loaded : Table) (state : σ)
    (result : EStateM.Result IntrospectionError (Table × σ) Unit) : Prop :=
  match sendAll failing note requests state with
  | .ok () after => result = .ok () (loaded, after)
  | .error failure after => ∃ left : Table, left.loaded = false ∧
      result = .error failure (left, after)

/-- A part sends its requests in front of those of the parts behind it. -/
theorem endsLoading_loadPart {α : Type} {load : Table → Introspect σ α} {store : Table → α → Table}
    {next : Unit → EStateM IntrospectionError (Table × σ) Unit} {loaded : Table} {part : α}
    {requests more : List Request} (table : Table) (bare : table.loaded = false)
    (loads : load table = sending failing note requests part)
    (later : ∀ between, EndsLoading failing note more loaded between
      (next () (store table part, between))) (state : σ) :
    EndsLoading failing note (requests ++ more) loaded state
      ((loadPart load store >>= next) (table, state)) := by
  rw [EndsLoading, sendAll_append]
  cases sent : sendAll failing note requests state with
  | ok value between =>
      have now : load table state = .ok part between := by
        rw [loads, sending, bind_of_ok sent]
        rfl
      rw [bind_of_ok sent, loadPart_of_ok now]
      exact later between
  | error failure between =>
      have now : load table state = .error failure between := by
        simp only [loads, sending, bind, EStateM.bind, sent]
      simp only [bind, EStateM.bind, sent]
      exact ⟨table, bare, loadPart_of_error now⟩

/-- A table that has all parts is loaded. -/
theorem endsLoading_done (table : Table) (state : σ) :
    EndsLoading failing note [] { table with loaded := true } state
      ((modify fun (table, state) => ({ table with loaded := true }, state) :
        EStateM IntrospectionError (Table × σ) Unit) (table, state)) :=
  rfl

end Loading

end DataAccess.Catalog
