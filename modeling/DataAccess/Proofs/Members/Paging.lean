import DataAccess.Proofs.Members.Fetching
import DataAccess.Proofs.Sql.StatementText

/-!
# Pages of records

Fetchers of pages, called with integers for the count and the number of records to skip, send one
selection with a clause and a bound value for each number that is positive, and give the object of
every row in order, or else the first failure to make one (`Deployment.callStatic_page`). Apart from
the fetcher of all records, they are fetchers over the non-unique keys and the foreign keys of the
table (`Deployment.pagesOfKey_of_mem`).
-/

namespace DataAccess.Members

open Code Schema Naming Evaluation

namespace Plan

/-- The fetchers of pages, each with the columns of its key and with the count for calls that give
none. -/
inductive PagesOver (plan : Plan) : Method → List Column → Int64 → Prop where
  | all : PagesOver plan plan.allFetcher [] (Int64.ofInt plan.options.allDefaultCount.toNat)
  | key (description : String) (columns : List Column) :
      PagesOver plan (plan.keyPageFetcher description columns) columns 0

/-- The fetchers of pages over the non-unique keys and the foreign keys of the table, each with the
columns of its key. -/
inductive PagesOfKey (plan : Plan) : Method → List Column → Prop where
  | nonUniqueKey {key : String} {refs : List ColumnRef}
      (inTable : (key, refs) ∈ plan.table.nonUniqueKeys) :
      PagesOfKey plan
        (plan.keyPageFetcher ("Fetch records matching index \x60" ++ key ++ "\x60.")
          (plan.table.columnsOf refs))
        (plan.table.columnsOf refs)
  | foreignKey {constraint : String} {pairs : List ForeignPair}
      (inTable : (constraint, pairs) ∈ plan.table.foreignKeys) :
      PagesOfKey plan
        (plan.keyPageFetcher
          ("Fetch records referencing \x60" ++ (pairs.head?.map (·.referencedTable)).getD "" ++
            "\x60 through \x60" ++ constraint ++ "\x60.")
          (plan.table.columnsOf (pairs.map (·.own))))
        (plan.table.columnsOf (pairs.map (·.own)))

/-- The text of the selection of all columns of the rows with given values in key columns. -/
def selectionText (plan : Plan) (columns : List Column) : String :=
  Sql.selectionText plan.options.sqlStyle plan.table.name plan.columnNames
    (columns.map fun column => (column.name, column.nullable))

/-- The query for a page: a clause and a bound value for each positive number. -/
def pageQuery (plan : Plan) (columns : List Column) (bound : List Value) (count skip : Int64) :
    Request :=
  { kind := .query
    sql := plan.selectionText columns ++ (if 0 < count then " LIMIT ?" else "") ++
      (if 0 < skip then " OFFSET ?" else "")
    params := bound ++ (if 0 < count then [.int count] else []) ++
      (if 0 < skip then [.int skip] else []) }

variable {plan : Plan} {columns : List Column} {keys : List Value}

/-- A fetcher over a key of the table is a fetcher of pages over its columns. -/
theorem PagesOfKey.pagesOver {method : Method} (pages : plan.PagesOfKey method columns) :
    plan.PagesOver method columns 0 := by
  cases pages with
  | nonUniqueKey inTable => exact .key _ _
  | foreignKey inTable => exact .key _ _

/-- A selection over a key has the text of the selection of its columns. -/
theorem sql_selection (plan : Plan) (columns : List Column) :
    plan.sql (plan.selection (keyConditions columns)) = plan.selectionText columns := by
  have conditions : keyConditions columns =
      (columns.map fun column => (column.name, column.nullable)).map fun column =>
        Sql.Condition.matching column.1 column.2 := by
    rw [List.map_map]
    rfl
  rw [sql, selection, conditions]
  exact Sql.text_selection plan.options.sqlStyle plan.table.name plan.columnNames _

/-- Where key columns have distinct parameters, they are bound to the key arguments in order. -/
theorem boundKeys_eq (distinct : (columns.map plan.keyParamName).Nodup)
    (enough : keys.length = columns.length) :
    plan.boundKeys columns keys = (columns.zip keys).mapM fun pair => boundAs pair.1 pair.2 := by
  have firsts : (columns.zip keys).map Prod.fst = columns :=
    List.map_fst_zip (Nat.le_of_eq enough.symm)
  have split : plan.boundKeys columns keys = ((columns.zip keys).map Prod.fst).mapM
      fun column => boundAs column (plan.keyValue columns keys column) := by
    rw [firsts, boundKeys]
  rw [split, List.mapM_map]
  refine mapM_congr fun pair paired => ?_
  rw [Function.comp_apply, keyValue_of_mem distinct enough paired]

/-- One page step with an integer. -/
theorem paged_int (style : Sql.Style) (clause : Sql.PageClause) (n : Int64) (draft : Draft) :
    draft.paged style clause (.int n) =
      .ok { sql := draft.sql ++ (if 0 < n then clause.text style else "")
            params := draft.params ++ (if 0 < n then [.int n] else []) } := by
  rw [Draft.paged, isPositive_int, ok_bind]
  by_cases positive : 0 < n
  · rw [decide_eq_true positive, if_pos rfl, if_pos positive, if_pos positive]
    rfl
  · rw [decide_eq_false positive, if_neg Bool.false_ne_true, if_neg positive, if_neg positive,
      String.append_empty, List.append_nil]
    rfl

/-- With keys that can be bound, integers prepare the query for the page. -/
theorem pageRequest_eq {bound : List Value} (binds : plan.boundKeys columns keys = .ok bound)
    (count skip : Int64) :
    plan.pageRequest columns .connection keys (.int count) (.int skip) =
      .ok (plan.pageQuery columns bound count skip) := by
  rw [pageRequest, binds, ok_bind, paged_int, ok_bind, paged_int, ok_bind, sql_selection,
    Sql.text_limit, Sql.text_offset]
  rfl

end Plan

/-- The count and the number of records to skip that arguments of a page stand for. -/
inductive PageArgs (defaultCount : Int64) : List Value → Int64 → Int64 → Prop where
  | none : PageArgs defaultCount [] defaultCount 0
  | count (count : Int64) : PageArgs defaultCount [.int count] count 0
  | countAndSkip (count skip : Int64) : PageArgs defaultCount [.int count, .int skip] count skip

/-- The arguments of a page are its count and the number of records to skip. -/
theorem PageArgs.values {defaultCount count skip : Int64} {page : List Value}
    (given : PageArgs defaultCount page count skip) :
    Plan.pageCount defaultCount page = .int count ∧ Plan.pageSkip page = .int skip := by
  cases given with
  | none => exact ⟨rfl, rfl⟩
  | count _ => exact ⟨rfl, rfl⟩
  | countAndSkip _ _ => exact ⟨rfl, rfl⟩

namespace Deployment

variable {site : Deployment} {row : Database.Row}

/-- Making an object from a row gives the object, and it records nothing. -/
def Makes (site : Deployment) (row : Database.Row) (object : Value) : Prop :=
  ∀ log, site.scene.callStatic fromRecordName
    (site.plan.fromRecordArgs .connection (Value.ofRow row)) log = .ok object log

/-- Making an object from a row fails, and it records nothing. -/
def FailsOn (site : Deployment) (row : Database.Row) (failure : EvalError) : Prop :=
  ∀ log, site.scene.callStatic fromRecordName
    (site.plan.fromRecordArgs .connection (Value.ofRow row)) log = .error failure log

/-- An object is made from a row on the class as it is made of the values of the row. -/
theorem makes_iff {object : Value} :
    site.Makes row object ↔ site.objectOf .connection (Value.ofRow row) = .ok object := by
  constructor
  · intro makes
    exact (callStatic_fromRecord_eq_ok_iff.mp (makes [])).1
  · intro made log
    exact callStatic_fromRecord_eq_ok_iff.mpr ⟨made, rfl⟩

/-- Making an object from a row fails as reading the values of the row does. -/
theorem failsOn_iff {failure : EvalError} :
    site.FailsOn row failure ↔ site.objectOf .connection (Value.ofRow row) = .error failure := by
  constructor
  · intro fails
    have called := fails []
    rw [callStatic_fromRecord] at called
    cases made : site.objectOf .connection (Value.ofRow row) with
    | ok object =>
        rw [made] at called
        cases called
    | error other =>
        rw [made] at called
        cases called
        rfl
  · intro failed log
    rw [callStatic_fromRecord, failed]
    rfl

/-- **Fetchers of pages in the class are over keys of the table**, unless they give all records. -/
theorem pagesOfKey_of_mem {method : Method} {columns : List Column} {defaultCount : Int64}
    (pages : site.plan.PagesOver method columns defaultCount)
    (member : method ∈ site.recordClass.methods) :
    method = site.plan.allFetcher ∨ ∃ own, site.plan.PagesOfKey method own := by
  cases pages with
  | all => exact Or.inl rfl
  | key description columns =>
      obtain ⟨part, offered⟩ := mem_part_of_mem (RecordClass.mem_methods.mp member)
      have start : StartsWithG (site.plan.keyPageFetcher description columns).name.toList :=
        keyMethodName_startsWithG site.plan.naming _
      generalize same : Member.method (site.plan.keyPageFetcher description columns) = made
        at offered
      cases Plan.counterparts_self offered with
      | nonUniqueKey means inTable =>
          rw [Member.method.inj same, means]
          exact Or.inr ⟨_, .nonUniqueKey inTable⟩
      | foreignKey means inTable =>
          rw [Member.method.inj same, means]
          exact Or.inr ⟨_, .foreignKey inTable⟩
      | primaryKey | uniqueKey =>
          exact absurd (Member.method.inj same).symm (Plan.keyFetcher_ne_keyPageFetcher _ _ _ _ _)
      | property | connection => cases same
      | _ =>
          -- The other parts make methods with fixed names, which accessors over keys never have.
          refine absurd ?_ (site.plan.notMem_of_startsWithG start)
          rw [Member.method.inj same]
          exact List.mem_map_of_mem (by simp [Plan.namedMethods])

/-- A call of a fetcher of pages sends its request and makes objects of the rows. -/
theorem callStatic_pageFetcher {name description : String} {defaultCount : Int64}
    {columns : List Column} {keys : List Value}
    (member : site.plan.pageFetcher name description defaultCount columns ∈
      site.recordClass.methods)
    (link : Value) (enough : keys.length = columns.length) (page : List Value) :
    site.scene.callStatic name (link :: (keys ++ page)) =
      exchange
        (site.plan.pageRequest columns link keys (Plan.pageCount defaultCount page)
          (Plan.pageSkip page))
        (Value.list <$> site.objects link) := by
  have sends := invoke_pageFetcher site 998 name description defaultCount none link enough page
  refine (callStatic_of_exchange member sends).trans ?_
  rw [map_bind]
  rfl

/-- **Fetchers of pages send one selection and give every row as an object.** -/
theorem callStatic_page (site : Deployment) {method : Method} {columns : List Column}
    {defaultCount count skip : Int64} {keys bound page : List Value}
    (pages : site.plan.PagesOver method columns defaultCount)
    (member : method ∈ site.recordClass.methods)
    (distinct : (columns.map site.plan.keyParamName).Nodup)
    (enough : keys.length = columns.length)
    (binds : List.Forall₂ (fun pair param => boundAs pair.1 pair.2 = .ok param)
      (columns.zip keys) bound)
    (given : PageArgs defaultCount page count skip) :
    (∃ objects, List.Forall₂ site.Makes site.rows objects ∧
        ∀ log, site.scene.callStatic method.name (.connection :: (keys ++ page)) log =
          .ok (.list objects) (log ++ [site.plan.pageQuery columns bound count skip])) ∨
      ∃ front row back failure, site.rows = front ++ row :: back ∧
        (∀ other ∈ front, ∃ object, site.Makes other object) ∧ site.FailsOn row failure ∧
          ∀ log, site.scene.callStatic method.name (.connection :: (keys ++ page)) log =
            .error failure (log ++ [site.plan.pageQuery columns bound count skip]) := by
  have ready : site.plan.pageRequest columns .connection keys
      (Plan.pageCount defaultCount page) (Plan.pageSkip page) =
        .ok (site.plan.pageQuery columns bound count skip) := by
    rw [given.values.1, given.values.2]
    refine Plan.pageRequest_eq ?_ count skip
    rw [Plan.boundKeys_eq distinct enough, mapM_of_forall₂ binds]
  have sends : site.scene.callStatic method.name (.connection :: (keys ++ page)) =
      exchange (.ok (site.plan.pageQuery columns bound count skip))
        (Value.list <$> site.objects .connection) := by
    rw [← ready]
    cases pages with
    | all => exact callStatic_pageFetcher member .connection enough page
    | key description columns => exact callStatic_pageFetcher member .connection enough page
  cases served : site.objects .connection with
  | ok objects =>
      refine Or.inl ⟨objects, (forall₂_of_mapM served).imp fun _ _ => makes_iff.mpr, fun log => ?_⟩
      rw [sends, served]
      rfl
  | error failure =>
      obtain ⟨front, row, back, split, passed, failed⟩ := mapM_eq_error served
      refine Or.inr ⟨front, row, back, failure, split, fun other inFront => ?_,
        failsOn_iff.mpr failed, fun log => ?_⟩
      · obtain ⟨object, made⟩ := passed other inFront
        exact ⟨object, makes_iff.mpr made⟩
      · rw [sends, served]
        rfl

/-- The fetcher over the key of recent visits. -/
def recentFetcher : Method :=
  visits.plan.keyPageFetcher ("Fetch records matching index \x60" ++ "recent" ++ "\x60.")
    (visitsTable.columnsOf [2, 1])

/-- Recent visits are a key of the table that visits can share. -/
theorem recentFetcher_pages :
    visits.plan.PagesOfKey recentFetcher (visitsTable.columnsOf [2, 1]) :=
  @Plan.PagesOfKey.nonUniqueKey visits.plan "recent" [2, 1] (List.mem_singleton_self _)

theorem recentFetcher_mem : recentFetcher ∈ visits.recordClass.methods :=
  List.mem_of_getElem? (i := 4) rfl

/-- What is sent for the recent visits without a note, for a count that is no exact floating-point
number and a negative number of visits to skip. -/
def recentVisits : Request :=
  { kind := .query
    sql := "SELECT \x60id\x60, \x60seen\x60, \x60add\x60 FROM \x60visits\x60 " ++
      "WHERE \x60add\x60 <=> ? AND \x60seen\x60 <=> ? LIMIT ?"
    params := [.null, .text "2024-02-29 12:30:00", .int 9007199254740993] }

theorem pageQuery_recentVisits :
    visits.plan.pageQuery (visitsTable.columnsOf [2, 1]) [.null, .text "2024-02-29 12:30:00"]
      9007199254740993 (-5) = recentVisits := by
  rfl

/-- The account of a login. -/
def ownerPair : ForeignPair :=
  { own := 1
    referenced :=
      { name := "id", nativeType := "bigint", extendedType := "bigint", nullable := false,
        comment := "", isPrimary := true }
    referencedSchema := "auth"
    referencedTable := "accounts" }

/-- Logins, some of them of an account. -/
def loginsTable : Table :=
  { schema := "auth"
    name := "logins"
    columns :=
      [ { name := "at", nativeType := "datetime", extendedType := "datetime", nullable := false,
          comment := "", isPrimary := false },
        { name := "account", nativeType := "bigint", extendedType := "bigint", nullable := true,
          comment := "", isPrimary := false } ]
    foreignKeys := [("owner", [ownerPair])]
    loaded := true }

/-- A row of logins. -/
def loginRow : Database.Row :=
  ⟨[("at", .text "2024-02-29 12:30:00"), ("account", .text "4")]⟩

/-- A row whose moment is none. -/
def strayLoginRow : Database.Row :=
  ⟨[("at", .text "yesterday"), ("account", .text "4")]⟩

/-- Logins whose connection answers with a good row and then a stray one. -/
def logins : Deployment :=
  { assembler := { options := { sqlStyle := { dialect := .ansi } } }
    table := loginsTable
    target := {}
    rows := [loginRow, strayLoginRow] }

/-- The fetcher over the foreign key to accounts. -/
def ownerFetcher : Method :=
  logins.plan.keyPageFetcher
    ("Fetch records referencing \x60" ++ "accounts" ++ "\x60 through \x60" ++ "owner" ++ "\x60.")
    (loginsTable.columnsOf [1])

/-- The account of a login is a foreign key of the table. -/
theorem ownerFetcher_pages :
    logins.plan.PagesOfKey ownerFetcher (loginsTable.columnsOf [1]) :=
  @Plan.PagesOfKey.foreignKey logins.plan "owner" [ownerPair] (List.mem_singleton_self _)

theorem ownerFetcher_mem : ownerFetcher ∈ logins.recordClass.methods :=
  List.mem_of_getElem? (i := 1) rfl

theorem name_ownerFetcher : ownerFetcher.name = "getByAccount" := by
  decide +kernel

/-- No object is made from the stray row, whose text is no moment. -/
theorem objectOf_strayLoginRow : logins.objectOf .connection (Value.ofRow strayLoginRow) =
    .error (.invalidTimestamp "yesterday") := by
  rfl

/-- Of the rows of logins only the stray one makes no object. -/
theorem failsOn_logins {failure : EvalError} (served : row ∈ logins.rows)
    (fails : logins.FailsOn row failure) : failure = .invalidTimestamp "yesterday" := by
  have failed := failsOn_iff.mp fails
  have either : row = loginRow ∨ row = strayLoginRow := by simpa [logins] using served
  rcases either with rfl | rfl
  · cases failed
  · exact (Except.error.inj (objectOf_strayLoginRow.symm.trans failed)).symm

/-- What is sent for ten logins of an account behind the first twenty. -/
def accountLogins : Request :=
  { kind := .query
    sql := "SELECT \"at\", \"account\" FROM \"logins\" " ++
      "WHERE \"account\" IS NOT DISTINCT FROM ? LIMIT ? OFFSET ?"
    params := [.int 4, .int 10, .int 20] }

theorem pageQuery_accountLogins :
    logins.plan.pageQuery (loginsTable.columnsOf [1]) [.int 4] 10 20 = accountLogins := by
  rfl

theorem callStatic_page_visits :
    (∀ log, visits.scene.callStatic "getByAddAndSeen"
        [.connection, .null, .dateTime visitMoment, .int 9007199254740993, .int (-5)] log =
      .ok (.list [visit]) (log ++ [recentVisits])) ∧
      ∀ log, logins.scene.callStatic "getByAccount" [.connection, .int 4, .int 10, .int 20] log =
        .error (.invalidTimestamp "yesterday") (log ++ [accountLogins]) := by
  constructor
  · have binds : List.Forall₂ (fun pair param => boundAs pair.1 pair.2 = .ok param)
        ((visitsTable.columnsOf [2, 1]).zip [.null, .dateTime visitMoment])
        [.null, .text "2024-02-29 12:30:00"] := .cons rfl (.cons rfl .nil)
    have sent := callStatic_page visits recentFetcher_pages.pagesOver recentFetcher_mem
      (by decide) rfl binds (.countAndSkip 9007199254740993 (-5))
    rw [pageQuery_recentVisits] at sent
    rcases sent with ⟨objects, makes, gives⟩ | ⟨front, row, back, _, split, -, fails, -⟩
    · obtain ⟨object, _, made, ⟨⟩, rfl⟩ := List.forall₂_cons_left_iff.mp makes
      obtain rfl := Except.ok.inj ((makes_iff.mp made).symm.trans objectOf_visitRow)
      exact gives
    · have served : row ∈ visits.rows := split ▸ List.mem_append_cons_self
      obtain rfl : row = visitRow := List.mem_singleton.mp served
      cases (failsOn_iff.mp fails).symm.trans objectOf_visitRow
  · have binds : List.Forall₂ (fun pair param => boundAs pair.1 pair.2 = .ok param)
        ((loginsTable.columnsOf [1]).zip [.int 4]) [.int 4] := .cons rfl .nil
    have sent := callStatic_page logins ownerFetcher_pages.pagesOver ownerFetcher_mem
      (by decide) rfl binds (.countAndSkip 10 20)
    rw [pageQuery_accountLogins, name_ownerFetcher] at sent
    rcases sent with ⟨objects, makes, -⟩ | ⟨front, row, back, failure, split, -, fails, gives⟩
    · obtain ⟨_, _, -, rest, -⟩ := List.forall₂_cons_left_iff.mp makes
      obtain ⟨_, _, made, -, -⟩ := List.forall₂_cons_left_iff.mp rest
      cases (makes_iff.mp made).symm.trans objectOf_strayLoginRow
    · have served : row ∈ logins.rows := split ▸ List.mem_append_cons_self
      rw [failsOn_logins served fails] at gives
      exact gives

end Deployment

end DataAccess.Members
