import DataAccess.Text.Basic
import DataAccess.Text.Blank

/-!
# Semantic types

The categories of values that the columns of a table hold, and how the native type of a column
decides its category.
-/

namespace DataAccess.Schema

/-- What kind of value a column holds. -/
inductive SemanticType where
  | integer
  | float
  | boolean
  /-- A moment in time, in UTC. -/
  | temporal
  | text
  deriving DecidableEq

namespace SemanticType

/-- What a type is called. -/
def name : SemanticType → String
  | integer => "integer"
  | float => "float"
  | boolean => "boolean"
  | temporal => "temporal"
  | text => "text"

/-- Whether the values of a type are moments in time. -/
def isTemporal : SemanticType → Bool
  | temporal => true
  | _ => false

/-- The native type names of the categories; all other native types are text. -/
def floatNames : List String := ["float", "double", "decimal"]

/-- The native types of integers. -/
def integerNames : List String := ["tinyint", "smallint", "mediumint", "int", "bigint"]

/-- The native types of moments in time. -/
def temporalNames : List String := ["date", "datetime"]

/-- The category of a native type and its extended form. Case and surrounding white space do not
matter, and `tinyint(1)` is how truth values are declared. -/
def ofNative (native extended : String) : SemanticType :=
  let name := Text.lowerAscii (Text.trim native)
  if floatNames.contains name then float
  else if name = "tinyint" ∧ Text.eqIgnoringCase (Text.trim extended) "tinyint(1)" then boolean
  else if integerNames.contains name then integer
  else if temporalNames.contains name then temporal
  else text

end SemanticType

end DataAccess.Schema
