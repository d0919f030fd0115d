import DataAccess.Members.Binding
import DataAccess.Text.Blank

/-!
# Records

The properties of objects, how an object is made from a row, and how it is serialized.
-/

namespace DataAccess.Members

open Code Schema

/-- What the comment of a property says: the comment of the column, or its name and type. -/
def propertyDescription (column : Column) : String :=
  let comment := Text.trim column.comment
  if comment.isEmpty then "\x60" ++ column.name ++ "\x60 " ++ column.extendedType else comment

/-- The value of the property of a column, from the row in `record`. -/
def hydratedValue (column : Column) : Expr :=
  nullGuarded column (.index (.var "record") column.name)
    (if column.isTemporal then .parseTimestamp
      else fun value => .cast value (.ofSemantic column.semanticType))

namespace Plan

/-- One property for each column. -/
def columnProperties (plan : Plan) : List Property :=
  plan.table.columns.map fun column =>
    { name := plan.propertyName column
      type := propertyType column
      doc := plan.doc { description := some (propertyDescription column) } }

/-- The property that holds the connection of an object. -/
def connectionProperty : Property :=
  { name := connectionName, isPrivate := true, type := .connection }

/-- The method that binds a new object to a connection. -/
def connectionConstructor (plan : Plan) : Method :=
  { name := constructorName
    kind := .constructor
    params := [connectionParam]
    doc := plan.doc (methodDoc "Bind a new instance to a connection." [connectionParam] none)
    body := [.assign (.field .this connectionName) (.var connectionName)] }

/-- The connection of objects, in the bound family. -/
def connectionMembers (plan : Plan) : List Member :=
  if plan.isBound then [.property connectionProperty, .method plan.connectionConstructor] else []

/-- The parameters of the method that makes an object from a row. -/
def fromRecordParams (plan : Plan) : List Parameter :=
  let record : Parameter := { name := "record", type := .row }
  if plan.isBound then [connectionParam, record] else [record]

/-- The body of the method that makes an object from a row: a new object, and then every column in
turn. -/
def fromRecordBody (plan : Plan) : List Stmt :=
  let created : Stmt := .declare "instance" false none
    (.new plan.className (if plan.isBound then [.var connectionName] else []))
  let assigned := plan.table.columns.map fun column =>
    Stmt.assign (.field (.var "instance") (plan.propertyName column)) (hydratedValue column)
  created :: assigned ++ [.result (.var "instance")]

/-- The method that makes an object from a record. -/
def fromRecord (plan : Plan) : Method :=
  { name := fromRecordName
    kind := .static
    isPrivate := true
    params := plan.fromRecordParams
    returns := some plan.classType
    doc := plan.doc
      (methodDoc "Build an instance from a result row." plan.fromRecordParams
        (some plan.classType))
    body := plan.fromRecordBody }

/-- What is serialized of a column. -/
def serializedValue (plan : Plan) (column : Column) : Expr :=
  writtenValue .iso column (.field .this (plan.propertyName column))

/-- The method that makes a map from an object. -/
def serialize (plan : Plan) : Method :=
  { name := "serialize"
    kind := .ofObject
    returns := some .map
    doc := plan.doc (methodDoc "Plain representation of this record." [] (some .map))
    body :=
      [ .result
          (.map (plan.table.columns.map fun column =>
            (plan.serializedKey column, plan.serializedValue column))) ] }

end Plan

end DataAccess.Members
