import DataAccess.Members.Binding

/-!
# Fetchers

The static methods that read records: all of them, their number, and the ones with a given key.
Fetchers of several records give them page by page.
-/

namespace DataAccess.Members

open Code Schema

/-- The parameters of a page: how many records, and how many to skip. -/
def pageParams (defaultCount : Int64) : List Parameter :=
  [ { name := "count", type := .int, default := some (.int defaultCount) },
    { name := "skip", type := .int, default := some (.int 0) } ]

/-- Sends the statement in `sql` with bound values and keeps the rows. -/
def queryRows (params : Expr) : Stmt :=
  .declare "rows" false none
    (.await (.call (.var connectionName) "query" [.var "sql", params]))

/-- Adds a page clause to the statement where its number is positive. -/
def pageStep (style : Sql.Style) (name : String) (clause : Sql.PageClause) : Stmt :=
  .when (.greater (.var name) (.int 0))
    [.append "sql" (clause.text style), .push "params" (.var name)]

namespace Plan

/-- The body of a fetcher of one record: the first row as an object, or null without rows. -/
def fetchOneBody (plan : Plan) (sql : String) (args : List Expr) : List Stmt :=
  [ .declare "sql" false none (.text sql),
    queryRows (.list args),
    .result
      (.ternary (.isEmpty (.var "rows")) .null (plan.hydrated (.first (.var "rows")))) ]

/-- The body of a fetcher of a page of records: every row as an object. -/
def fetchPageBody (plan : Plan) (sql : String) (args : List Expr) : List Stmt :=
  [ .declare "sql" true (some .text) (.text sql),
    .declare "params" true (some (.list .unknown)) (.list args),
    pageStep plan.options.sqlStyle "count" .limit,
    pageStep plan.options.sqlStyle "skip" .offset,
    queryRows (.var "params"),
    .result
      (.mapRows (.var "rows") "record" plan.classType (plan.hydrated (.var "record"))) ]

/-- A static method that reads records. -/
def fetcher (plan : Plan) (name description : String) (params : List Parameter) (returns : Ty)
    (body : List Stmt) : Method :=
  { name
    kind := .static
    isAsync := true
    params
    returns := some returns
    doc := plan.doc (methodDoc description params (some returns))
    body }

/-- What the accessor over a key is called. -/
def keyFetcherName (plan : Plan) (columns : List Column) : String :=
  plan.naming.keyMethodName (columns.map plan.propertyName)

/-- The fetcher of the record with the given values in key columns. -/
def keyFetcher (plan : Plan) (description : String) (columns : List Column) : Method :=
  plan.fetcher (plan.keyFetcherName columns) description
    (connectionParam :: plan.keyParams columns)
    plan.classType.orNull
    (plan.fetchOneBody (plan.sql (plan.selection (keyConditions columns))) (plan.keyArgs columns))

/-- A fetcher of the records with the given values in key columns, page by page. -/
def pageFetcher (plan : Plan) (name description : String) (defaultCount : Int64)
    (columns : List Column) : Method :=
  plan.fetcher name description
    (connectionParam :: plan.keyParams columns ++ pageParams defaultCount)
    (.list plan.classType)
    (plan.fetchPageBody (plan.sql (plan.selection (keyConditions columns)))
      (plan.keyArgs columns))

/-- The fetcher over a key that several records can share. -/
def keyPageFetcher (plan : Plan) (description : String) (columns : List Column) : Method :=
  plan.pageFetcher (plan.keyFetcherName columns) description 0 columns

/-- The fetcher of all records: no column is a key. -/
def allFetcher (plan : Plan) : Method :=
  plan.pageFetcher "all" ("Fetch rows of \x60" ++ plan.table.name ++ "\x60.")
    (Int64.ofInt plan.options.allDefaultCount.toNat) []

/-- The statement that counts the distinct primary keys. -/
def countStatement (plan : Plan) : Sql.Statement :=
  .select
    { table := plan.tableRef
      items := [.countDistinct (plan.table.primaryColumns.map (·.name)) (some "count")] }

/-- The body of the method that counts the records. -/
def countBody (plan : Plan) : List Stmt :=
  [ .declare "sql" false none (.text (plan.sql plan.countStatement)),
    queryRows (.list []),
    .result
      (.ternary (.isEmpty (.var "rows")) (.int 0)
        (.cast (.index (.first (.var "rows")) "count") .int)) ]

/-- The method that counts the records. -/
def countFetcher (plan : Plan) : Method :=
  plan.fetcher "count" "Count the stored records." [connectionParam] .int plan.countBody

/-- The method that counts the records, for tables with a primary key. -/
def countFetchers (plan : Plan) : List Method :=
  if plan.table.hasPrimaryKey then [plan.countFetcher] else []

/-- The fetcher over the primary key, for tables with one. -/
def primaryKeyFetchers (plan : Plan) : List Method :=
  let columns := plan.table.primaryColumns
  if columns.isEmpty then []
  else [plan.keyFetcher "Fetch the record with the given primary key." columns]

/-- One fetcher over each unique key. -/
def uniqueKeyFetchers (plan : Plan) : List Method :=
  plan.table.uniqueKeys.map fun (key, refs) =>
    plan.keyFetcher ("Fetch the record matching unique key \x60" ++ key ++ "\x60.")
      (plan.table.columnsOf refs)

/-- One fetcher over each key that several records can share. -/
def nonUniqueKeyFetchers (plan : Plan) : List Method :=
  plan.table.nonUniqueKeys.map fun (key, refs) =>
    plan.keyPageFetcher ("Fetch records matching index \x60" ++ key ++ "\x60.")
      (plan.table.columnsOf refs)

/-- One fetcher over the own columns of each foreign key. -/
def foreignKeyFetchers (plan : Plan) : List Method :=
  plan.table.foreignKeys.map fun (constraint, pairs) =>
    let referenced := (pairs.head?.map (·.referencedTable)).getD ""
    plan.keyPageFetcher
      ("Fetch records referencing \x60" ++ referenced ++ "\x60 through \x60" ++ constraint ++
        "\x60.")
      (plan.table.columnsOf (pairs.map (·.own)))

end Plan

end DataAccess.Members
