import DataAccess.Members.Binding

/-!
# Mutators

The methods of objects that change the table: insertion, writing back and deletion. The last two
find the row by its primary key.
-/

namespace DataAccess.Members

open Code Schema

namespace Plan

/-- The parameters of mutators: the connection, unless the object has its own. -/
def mutatorParams (plan : Plan) : List Parameter :=
  if plan.isBound then [] else [connectionParam]

/-- A method that runs a statement and tells whether it affected any row. -/
def mutator (plan : Plan) (name description : String) (statement : Sql.Statement)
    (args : List Expr) : Method :=
  { name
    kind := .ofObject
    isAsync := true
    params := plan.mutatorParams
    returns := some .bool
    doc := plan.doc (methodDoc description plan.mutatorParams (some .bool))
    body :=
      [ .declare "sql" false none (.text (plan.sql statement)),
        .declare "affected" false none
          (.await (.call plan.ownConnection "execute" [.var "sql", .list args])),
        .result (.greater (.var "affected") (.int 0)) ] }

/-- The statement that inserts a row with a value for every column. -/
def insertion (plan : Plan) : Sql.Statement :=
  .insert { table := plan.tableRef, columns := plan.columnNames }

/-- The statement that deletes the row with a primary key. -/
def deletion (plan : Plan) : Sql.Statement :=
  .delete { table := plan.tableRef, conditions := keyConditions plan.table.primaryColumns }

/-- The statement that sets every column of the row with a primary key. -/
def writeBack (plan : Plan) : Sql.Statement :=
  .update
    { table := plan.tableRef
      columns := plan.columnNames
      conditions := keyConditions plan.table.primaryColumns }

/-- The method that inserts a record. -/
def addMutator (plan : Plan) : Method :=
  plan.mutator "add" "Insert this record." plan.insertion (plan.propertyArgs plan.table.columns)

/-- The method that deletes a record, found by its primary key. -/
def deleteMutator (plan : Plan) : Method :=
  plan.mutator "delete" "Delete this record." plan.deletion
    (plan.propertyArgs plan.table.primaryColumns)

/-- The writing back of a record: every column is set, and the key follows. -/
def updateMutator (plan : Plan) : Method :=
  plan.mutator "update" "Write this record back." plan.writeBack
    (plan.propertyArgs plan.table.columns ++ plan.propertyArgs plan.table.primaryColumns)

/-- The insertion of a record, for every table. -/
def addMutators (plan : Plan) : List Method :=
  [plan.addMutator]

/-- The deletion of a record, for tables with a primary key. -/
def deleteMutators (plan : Plan) : List Method :=
  if plan.table.primaryColumns.isEmpty then [] else [plan.deleteMutator]

/-- The writing back of a record, for tables with a primary key. -/
def updateMutators (plan : Plan) : List Method :=
  if plan.table.primaryColumns.isEmpty then [] else [plan.updateMutator]

end Plan

end DataAccess.Members
