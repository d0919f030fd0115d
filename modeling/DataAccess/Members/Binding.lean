import DataAccess.Members.Plan

/-!
# Values bound into statements

Which expressions are bound for columns, and the conditions and parameters of key columns. Values
of columns that can be null are converted only where they are not null.
-/

namespace DataAccess.Members

open Code Schema

/-- The converted value of a column; null stays null in a column that can be null. -/
def nullGuarded (column : Column) (value : Expr) (convert : Expr → Expr) : Expr :=
  if column.nullable then .ternary (.isNull value) .null (convert value) else convert value

/-- The value of a column with moments in time as text in a form. -/
def writtenValue (form : TimestampForm) (column : Column) (value : Expr) : Expr :=
  if column.isTemporal then nullGuarded column value fun value => .formatTimestamp value form
  else value

/-- The value of a column as it is bound into a statement. -/
def boundValue (column : Column) (value : Expr) : Expr :=
  writtenValue .sql column value

/-- The conditions that the columns equal bound values. -/
def keyConditions (columns : List Column) : List Sql.Condition :=
  columns.map fun column => .matching column.name column.nullable

namespace Plan

/-- The parameters of a key, one for each column. -/
def keyParams (plan : Plan) (columns : List Column) : List Parameter :=
  columns.map fun column => { name := plan.keyParamName column, type := propertyType column }

/-- What is bound for the parameters of key columns. -/
def keyArgs (plan : Plan) (columns : List Column) : List Expr :=
  columns.map fun column => boundValue column (.var (plan.keyParamName column))

/-- What is bound for the properties of columns of an object. -/
def propertyArgs (plan : Plan) (columns : List Column) : List Expr :=
  columns.map fun column => boundValue column (.field .this (plan.propertyName column))

end Plan

end DataAccess.Members
