/-!
# SQL dialects

What differs between the dialects of the statements that are written: how identifiers are quoted
and how equality that takes two nulls for equal is spelled.
-/

namespace DataAccess.Sql

/-- A dialect of SQL. -/
inductive Dialect where
  | mysql
  | ansi
  deriving DecidableEq

namespace Dialect

/-- What a dialect is called. -/
def name : Dialect → String
  | mysql => "mysql"
  | ansi => "ansi"

/-- The character on both sides of a quoted identifier. -/
def quote : Dialect → Char
  | mysql => '\x60'
  | ansi => '"'

/-- The operator of equality under which two nulls are equal. -/
def nullSafeEq : Dialect → String
  | mysql => "<=>"
  | ansi => "IS NOT DISTINCT FROM"

/-- What stands for a bound value. -/
def placeholder (_ : Dialect) : String := "?"

end Dialect

/-- A name with each quote in it written twice. -/
def doubleQuotes (quote : Char) : List Char → List Char
  | [] => []
  | c :: rest => if c = quote then quote :: quote :: doubleQuotes quote rest
    else c :: doubleQuotes quote rest

/-- A name between quotes, with the quotes inside it written twice. -/
def Dialect.quoteIdentifier (dialect : Dialect) (name : String) : String :=
  String.ofList (dialect.quote :: (doubleQuotes dialect.quote name.toList ++ [dialect.quote]))

/-- A dialect, and whether identifiers are quoted or written as they are. -/
structure Style where
  dialect : Dialect := .mysql
  quoteIdentifiers : Bool := true
  deriving DecidableEq

/-- A name as it is written in a style. -/
def Style.identifier (style : Style) (name : String) : String :=
  if style.quoteIdentifiers then style.dialect.quoteIdentifier name else name

end DataAccess.Sql
