import DataAccess.Proofs.Members.Lifecycle
import DataAccess.Proofs.Members.Paging

/-!
# Single records

Fetchers over the primary key and over unique keys send one selection with the bound key arguments.
Without rows they give null, and otherwise what the first row gives, be it an object or a failure.
The rows behind the first are never looked at, so they need not even be rows of the table
(`Deployment.callStatic_record`).
-/

namespace DataAccess.Members

open Code Schema Evaluation

namespace Plan

/-- The fetchers of single records, each with the columns of its key. -/
inductive RecordOver (plan : Plan) : Method → List Column → Prop where
  | primaryKey : RecordOver plan plan.primaryKeyFetcher plan.table.primaryColumns
  | uniqueKey {key : String} {refs : List ColumnRef}
      (inTable : (key, refs) ∈ plan.table.uniqueKeys) :
      RecordOver plan
        (plan.keyFetcher ("Fetch the record matching unique key \x60" ++ key ++ "\x60.")
          (plan.table.columnsOf refs))
        (plan.table.columnsOf refs)

/-- The query for a record: the selection of the rows with given values in key columns. -/
def recordQuery (plan : Plan) (columns : List Column) (bound : List Value) : Request :=
  { kind := .query, sql := plan.selectionText columns, params := bound }

variable {plan : Plan} {method : Method} {columns : List Column} {keys bound : List Value}

theorem RecordOver.exists_keyFetcher (fetches : plan.RecordOver method columns) :
    ∃ description, method = plan.keyFetcher description columns := by
  cases fetches with
  | primaryKey => exact ⟨_, rfl⟩
  | uniqueKey inTable => exact ⟨_, rfl⟩

theorem keyRequest_eq (binds : plan.boundKeys columns keys = .ok bound) :
    plan.keyRequest columns .connection keys = .ok (plan.recordQuery columns bound) := by
  rw [keyRequest, binds, ok_bind, sql_selection]
  rfl

end Plan

namespace Deployment

/-- The same class, whose connection answers queries with other rows. -/
def serving (site : Deployment) (rows : List Database.Row) : Deployment :=
  { site with rows }

/-- Of the rows that are served only the first one counts. -/
theorem firstObject_serving_cons (site : Deployment) (row : Database.Row)
    (later : List Database.Row) (link : Value) :
    (site.serving (row :: later)).firstObject link = site.objectOf link (Value.ofRow row) := rfl

/-- **A fetcher of one record gives the first row as an object**, or the failure to make one, or
null without rows, after one query for the key. -/
theorem callStatic_record (site : Deployment) {method : Method} {columns : List Column}
    {keys bound : List Value} (fetches : site.plan.RecordOver method columns)
    (member : method ∈ site.recordClass.methods)
    (distinct : (columns.map site.plan.keyParamName).Nodup)
    (enough : keys.length = columns.length)
    (binds : List.Forall₂ (fun pair param => boundAs pair.1 pair.2 = .ok param)
      (columns.zip keys) bound) :
    (∀ log, (site.serving []).scene.callStatic method.name (.connection :: keys) log =
        .ok .null (log ++ [site.plan.recordQuery columns bound])) ∧
      ∀ row,
        (∃ object, site.Makes row object ∧
            ∀ later log, (site.serving (row :: later)).scene.callStatic method.name
                (.connection :: keys) log =
              .ok object (log ++ [site.plan.recordQuery columns bound])) ∨
          ∃ failure, site.FailsOn row failure ∧
            ∀ later log, (site.serving (row :: later)).scene.callStatic method.name
                (.connection :: keys) log =
              .error failure (log ++ [site.plan.recordQuery columns bound]) := by
  have sends (rows : List Database.Row) :
      (site.serving rows).scene.callStatic method.name (.connection :: keys) =
        exchange (.ok (site.plan.recordQuery columns bound))
          ((site.serving rows).firstObject .connection) := by
    have ready : site.plan.keyRequest columns .connection keys =
        .ok (site.plan.recordQuery columns bound) := by
      refine Plan.keyRequest_eq ?_
      rw [Plan.boundKeys_eq distinct enough, mapM_of_forall₂ binds]
    obtain ⟨description, rfl⟩ := fetches.exists_keyFetcher
    have member : (site.serving rows).plan.keyFetcher description columns ∈
        (site.serving rows).recordClass.methods := member
    have called := callStatic_keyFetcher member .connection enough []
    rw [List.append_nil] at called
    exact called.trans (congrArg (exchange · _) ready)
  refine ⟨fun log => ?_, fun row => ?_⟩
  · rw [sends]
    rfl
  · cases made : site.objectOf .connection (Value.ofRow row) with
    | ok object =>
        refine Or.inl ⟨object, makes_iff.mpr made, fun later log => ?_⟩
        rw [sends, firstObject_serving_cons, made]
        rfl
    | error failure =>
        refine Or.inr ⟨failure, failsOn_iff.mpr made, fun later log => ?_⟩
        rw [sends, firstObject_serving_cons, made]
        rfl

/-- Stays of guests. A guest leaves once, and the stay that goes on has no moment of leaving. -/
def staysTable : Table :=
  { schema := "inn"
    name := "stays"
    columns :=
      [ { name := "guest", nativeType := "bigint", extendedType := "bigint", nullable := false,
          comment := "", isPrimary := false },
        { name := "left", nativeType := "datetime", extendedType := "datetime", nullable := true,
          comment := "", isPrimary := false } ]
    uniqueKeys := [("once", [1, 0])]
    loaded := true }

def stays : Deployment :=
  { assembler := { options := { sqlStyle := { dialect := .ansi } } }
    table := staysTable
    target := {} }

def stayRow : Database.Row :=
  ⟨[("guest", .text "4"), ("left", .null)]⟩

/-- A row whose moment of leaving is none. -/
def strayRow : Database.Row :=
  ⟨[("guest", .text "4"), ("left", .text "yesterday")]⟩

def stay : Value :=
  .object "stays" [("guest", .int 4), ("left", .null)]

def stayQuery (left : Value) : Request :=
  { kind := .query
    sql := "SELECT \"guest\", \"left\" FROM \"stays\" " ++
      "WHERE \"left\" IS NOT DISTINCT FROM ? AND \"guest\" = ?"
    params := [left, .int 4] }

theorem callStatic_record_stays :
    (∀ log, (stays.serving []).scene.callStatic "getByLeftAndGuest"
        [.connection, .dateTime visitMoment, .int 4] log =
          .ok .null (log ++ [stayQuery (.text "2024-02-29 12:30:00")])) ∧
      (∀ later log, (stays.serving (stayRow :: later)).scene.callStatic "getByLeftAndGuest"
          [.connection, .null, .int 4] log =
        .ok stay (log ++ [stayQuery .null])) ∧
      ∃ failure, stays.FailsOn strayRow failure ∧
        ∀ later log, (stays.serving (strayRow :: later)).scene.callStatic "getByLeftAndGuest"
            [.connection, .null, .int 4] log =
          .error failure (log ++ [stayQuery .null]) := by
  let columns := staysTable.columnsOf [1, 0]
  let fetcher := stays.plan.keyFetcher
    ("Fetch the record matching unique key \x60" ++ "once" ++ "\x60.") columns
  have fetches : stays.plan.RecordOver fetcher columns :=
    @Plan.RecordOver.uniqueKey stays.plan "once" [1, 0] (List.mem_singleton_self _)
  have member : fetcher ∈ stays.recordClass.methods := List.mem_of_getElem? (i := 1) rfl
  have name : stays.plan.keyFetcherName (staysTable.columnsOf [1, 0]) = "getByLeftAndGuest" := by
    decide +kernel
  have text : stays.plan.selectionText columns = "SELECT \"guest\", \"left\" FROM \"stays\" " ++
      "WHERE \"left\" IS NOT DISTINCT FROM ? AND \"guest\" = ?" := by rfl
  have query (left : Value) : stays.plan.recordQuery columns [left, .int 4] = stayQuery left := by
    rw [Plan.recordQuery, text, stayQuery]
  have binds (left bound : Value) (binds : boundAs staysTable.columns[1] left = .ok bound) :
      List.Forall₂ (fun pair param => boundAs pair.1 pair.2 = .ok param)
        (columns.zip [left, .int 4]) [bound, .int 4] := .cons binds (.cons rfl .nil)
  have gone := callStatic_record stays fetches member (by decide) rfl
    (binds (.dateTime visitMoment) (.text "2024-02-29 12:30:00") rfl)
  have goesOn := callStatic_record stays fetches member (by decide) rfl (binds .null .null rfl)
  rw [show fetcher.name = "getByLeftAndGuest" from name, query] at gone goesOn
  refine ⟨gone.1, ?_, ?_⟩
  · have made : stays.objectOf .connection (Value.ofRow stayRow) = .ok stay := by rfl
    rcases goesOn.2 stayRow with ⟨object, makes, gives⟩ | ⟨failure, fails, -⟩
    · obtain rfl := Except.ok.inj ((makes_iff.mp makes).symm.trans made)
      exact gives
    · cases (failsOn_iff.mp fails).symm.trans made
  · rcases goesOn.2 strayRow with ⟨object, makes, -⟩ | fails
    · cases makes_iff.mp makes
    · exact fails

end Deployment

end DataAccess.Members
