import DataAccess.Code.RecordClass
import DataAccess.Naming.Convention
import DataAccess.Schema.Table
import DataAccess.Sql.Statement

/-!
# Class plans

Everything that decides the members of the class of a table: the table, the name of the class, the
options of the run and the naming convention. Property and parameter names are kept clear of the
names that generated methods use themselves.
-/

namespace DataAccess.Members

open Code Schema

/-- The shape of generated classes. -/
inductive Family where
  /-- Fetchers and mutators take the connection as a parameter. -/
  | static
  /-- Objects own their connection, and mutators use it. -/
  | bound
  deriving DecidableEq

/-- What a family of classes is called. -/
def Family.name : Family → String
  | static => "static"
  | bound => "bound"

/-- The family of a name. -/
def Family.ofName? (name : String) : Option Family :=
  if name = "static" then some .static
  else if name = "bound" then some .bound
  else none

/-- The options of a run. -/
structure Options where
  /-- Whether members have comments. -/
  comments : Bool := true
  family : Family := .static
  /-- The number of rows that `all` gives when none is asked for; zero for every row. -/
  allDefaultCount : UInt32 := 0
  sqlStyle : Sql.Style := {}
  deriving DecidableEq

/-- Which of the methods that change the table a class gets. -/
structure Mutators where
  add : Bool := true
  update : Bool := true
  delete : Bool := true
  deriving DecidableEq

/-- Names and switches of one class. A name that is not given comes from the naming convention. -/
structure ClassTarget where
  namespaceName : Option String := none
  className : Option String := none
  mutators : Mutators := {}
  deriving DecidableEq

/-- What the members of one class are made from. -/
structure Plan where
  table : Table
  className : String
  options : Options
  naming : Naming.Convention

/-- The name of the method that makes an object from a row. -/
def fromRecordName : String := "fromRecord"

/-- The name of the connection, as a parameter and as a property. -/
def connectionName : String := "connection"

/-- The names that generated methods of objects take. -/
def objectMethodNames : List String :=
  ["add", "update", "delete", "serialize", constructorName]

/-- The parameters and variables of generated fetchers. -/
def fetcherNames : List String :=
  [connectionName, "count", "skip", "sql", "params", "rows", "record"]

/-- The name, with an underscore behind it where it is taken. -/
def aside (taken : Bool) (name : String) : String :=
  if taken then name ++ "_" else name

namespace Plan

/-- Whether objects own their connection. -/
def isBound (plan : Plan) : Bool :=
  plan.options.family = .bound

/-- The type of the objects of the class. -/
def classType (plan : Plan) : Ty :=
  .object plan.className

/-- Whether members of objects use a name for something other than a column. -/
def isTaken (plan : Plan) (name : String) : Bool :=
  objectMethodNames.contains name || plan.isBound && name == connectionName

/-- The name of the property of a column. It makes way for methods and the connection. -/
def propertyName (plan : Plan) (column : Column) : String :=
  let name := plan.naming.propertyName column.name
  aside (plan.isTaken name) name

/-- The key of a column in what is serialized, where no name is taken. -/
def serializedKey (plan : Plan) (column : Column) : String :=
  plan.naming.propertyName column.name

/-- The parameter of a fetcher that stands for a key column. -/
def keyParamName (plan : Plan) (column : Column) : String :=
  let name := plan.propertyName column
  aside (fetcherNames.contains name) name

/-- The type of the property of a column. -/
def propertyType (column : Column) : Ty :=
  let type := Ty.ofSemantic column.semanticType
  if column.nullable then type.orNull else type

/-- A comment, where comments are wanted. -/
def doc (plan : Plan) (doc : Doc) : Option Doc :=
  if plan.options.comments then some doc else none

/-- The table as statements name it. -/
def tableRef (plan : Plan) : Sql.TableRef :=
  { name := plan.table.name }

/-- The names of all columns, in order. -/
def columnNames (plan : Plan) : List String :=
  plan.table.columns.map (·.name)

/-- The selection of all columns of the rows that satisfy the conditions. -/
def selection (plan : Plan) (conditions : List Sql.Condition) : Sql.Statement :=
  .select
    { table := plan.tableRef
      items := plan.columnNames.map fun name => .column name none
      conditions }

/-- The text of a statement in the style of the run. -/
def sql (plan : Plan) (statement : Sql.Statement) : String :=
  statement.text plan.options.sqlStyle

/-- The connection, as methods of objects see it. -/
def ownConnection (plan : Plan) : Expr :=
  if plan.isBound then .field .this connectionName else .var connectionName

/-- The object of a record, as a call. -/
def hydrated (plan : Plan) (record : Expr) : Expr :=
  .selfCall fromRecordName
    (if plan.isBound then [.var connectionName, record] else [record])

end Plan

/-- The parameter for the connection. -/
def connectionParam : Parameter :=
  { name := connectionName, type := .connection }

/-- A comment that describes a method with its parameters and result. -/
def methodDoc (description : String) (params : List Parameter) (returns : Option Ty) : Doc :=
  { description := some description
    params := params.map fun param => (param.name, param.type)
    returns }

end DataAccess.Members
