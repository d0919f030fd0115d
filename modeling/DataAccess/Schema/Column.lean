import DataAccess.Schema.SemanticType

/-!
# Columns

One column of a table as the catalog describes it.
-/

namespace DataAccess.Schema

/-- A column of a table. -/
structure Column where
  name : String
  /-- The name of the type alone, such as `tinyint`. -/
  nativeType : String
  /-- The whole declared type, such as `tinyint(1) unsigned`. -/
  extendedType : String
  nullable : Bool
  comment : String
  isPrimary : Bool
  deriving DecidableEq

/-- What the values of a column mean. -/
def Column.semanticType (column : Column) : SemanticType :=
  .ofNative column.nativeType column.extendedType

/-- Whether a column holds moments in time. -/
def Column.isTemporal (column : Column) : Bool :=
  column.semanticType.isTemporal

end DataAccess.Schema
