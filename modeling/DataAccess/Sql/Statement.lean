import DataAccess.Sql.Token

/-!
# SQL statements

The statements that generated classes and the catalog reader send: selections with conjunctive
conditions, insertions, updates and deletions. Every value is a placeholder that is bound by its
position.
-/

namespace DataAccess.Sql

/-- A table, with its schema where it is given. -/
structure TableRef where
  schema : Option String := none
  name : String
  deriving DecidableEq

/-- The token of a table. -/
def TableRef.token (table : TableRef) : Token :=
  .qualified table.schema table.name

/-- One item of a selection. -/
inductive SelectItem where
  | column (name : String) (label : Option String)
  /-- The number of distinct combinations of the columns. -/
  | countDistinct (columns : List String) (label : Option String)
  deriving DecidableEq

/-- The label of an item, where it has one. -/
def labelTokens : Option String → List Token
  | none => []
  | some label => [.space, .as, .space, .ident label]

/-- The tokens of what is selected. -/
def SelectItem.tokens : SelectItem → List Token
  | .column name label => .ident name :: labelTokens label
  | .countDistinct columns label =>
    [.functionName "count", .leftParen, .distinct, .space] ++
      commaSeparated (columns.map fun column => [.ident column]) ++
      .rightParen :: labelTokens label

/-- One condition on a column. -/
inductive Condition where
  | eq (column : String)
  /-- Equality under which two nulls are equal. -/
  | nullSafeEq (column : String)
  | notNull (column : String)
  deriving DecidableEq

namespace Condition

/-- Equality with a bound value: null-safe on columns that can hold null. -/
def matching (column : String) (nullable : Bool) : Condition :=
  if nullable then nullSafeEq column else eq column

/-- Whether a condition has a bound value. -/
def bindsValue : Condition → Bool
  | notNull _ => false
  | _ => true

/-- The tokens of a condition. -/
def tokens : Condition → List Token
  | eq column => [.ident column, .space, .eq, .space, .placeholder]
  | nullSafeEq column => [.ident column, .space, .nullSafeEq, .space, .placeholder]
  | notNull column => [.ident column, .space, .isNotNull]

end Condition

/-- The conditions with `AND` between neighbours. -/
def conjunction : List Condition → List Token
  | [] => []
  | [only] => only.tokens
  | first :: next :: rest =>
    first.tokens ++ [.space, .and, .space] ++ conjunction (next :: rest)

/-- The condition of a statement; nothing without conditions. -/
def whereTokens (conditions : List Condition) : List Token :=
  if conditions.isEmpty then [] else [.space, .where, .space] ++ conjunction conditions

/-- A selection. Without items it selects everything. -/
structure Select where
  table : TableRef
  items : List SelectItem := []
  conditions : List Condition := []
  orderBy : List String := []
  deriving DecidableEq

/-- The order of the rows of a selection; nothing without columns. -/
def orderTokens (columns : List String) : List Token :=
  if columns.isEmpty then []
  else [.space, .orderBy, .space] ++ commaSeparated (columns.map fun column => [.ident column])

/-- The tokens of a selection. -/
def Select.tokens (statement : Select) : List Token :=
  let items := if statement.items.isEmpty then [.star]
    else commaSeparated (statement.items.map SelectItem.tokens)
  [.select, .space] ++ items ++ [.space, .from, .space, statement.table.token] ++
    whereTokens statement.conditions ++ orderTokens statement.orderBy

/-- An insertion of one row. -/
structure Insert where
  table : TableRef
  columns : List String
  deriving DecidableEq

/-- The tokens of an insertion. -/
def Insert.tokens (statement : Insert) : List Token :=
  [.insert, .space, .into, .space, statement.table.token, .space, .leftParen] ++
    commaSeparated (statement.columns.map fun column => [.ident column]) ++
    [.rightParen, .space, .values, .space, .leftParen] ++
    commaSeparated (statement.columns.map fun _ => [.placeholder]) ++ [.rightParen]

/-- An update of every listed column. -/
structure Update where
  table : TableRef
  columns : List String
  conditions : List Condition
  deriving DecidableEq

/-- The tokens of an assignment in an update. -/
def assignmentTokens (column : String) : List Token :=
  [.ident column, .space, .eq, .space, .placeholder]

/-- The tokens of an update. -/
def Update.tokens (statement : Update) : List Token :=
  [.update, .space, statement.table.token, .space, .set, .space] ++
    commaSeparated (statement.columns.map assignmentTokens) ++ whereTokens statement.conditions

/-- A deletion. -/
structure Delete where
  table : TableRef
  conditions : List Condition
  deriving DecidableEq

/-- The tokens of a deletion. -/
def Delete.tokens (statement : Delete) : List Token :=
  [.delete, .space, .from, .space, statement.table.token] ++ whereTokens statement.conditions

/-- The clauses that cut a selection to a page. -/
inductive PageClause where
  | limit
  | offset
  deriving DecidableEq

/-- The tokens of a page clause. -/
def PageClause.tokens : PageClause → List Token
  | limit => [.space, .limit, .space, .placeholder]
  | offset => [.space, .offset, .space, .placeholder]

/-- Any statement. -/
inductive Statement where
  | select (statement : Select)
  | insert (statement : Insert)
  | update (statement : Update)
  | delete (statement : Delete)
  deriving DecidableEq

namespace Statement

/-- The tokens of a statement. -/
def tokens : Statement → List Token
  | select statement => statement.tokens
  | insert statement => statement.tokens
  | update statement => statement.tokens
  | delete statement => statement.tokens

/-- The text of a statement in a style. -/
def text (style : Style) (statement : Statement) : String :=
  textOf style statement.tokens

/-- The conditions of a statement. -/
def conditions : Statement → List Condition
  | select statement => statement.conditions
  | insert _ => []
  | update statement => statement.conditions
  | delete statement => statement.conditions

end Statement

/-- The text of a page clause, to be put after a selection. -/
def PageClause.text (style : Style) (clause : PageClause) : String :=
  textOf style clause.tokens

end DataAccess.Sql
