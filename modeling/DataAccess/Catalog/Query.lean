import DataAccess.Sql.Statement
import DataAccess.Text.Blank

/-!
# Catalog queries

The six statements that read the catalog views `information_schema` of a server. Every selected
column has a lower-case label, so that decoding does not depend on how a server writes labels.

| query | bound values |
|-------|--------------|
| `tables` | schema, table type |
| `columns` | schema, table |
| `column` | schema, table, column |
| `primaryKey` | schema, table, index name |
| `indexKeys` | schema, table, non-unique flag |
| `foreignKeys` | schema, table |
-/

namespace DataAccess.Catalog

open Sql

namespace Label

/-- The label under which answers give the name of a table. -/
def tableName : String := "table_name"
def columnName : String := "column_name"
def dataType : String := "data_type"
def columnType : String := "column_type"
def isNullable : String := "is_nullable"
def columnKey : String := "column_key"
def columnComment : String := "column_comment"
def indexName : String := "index_name"
def constraintName : String := "constraint_name"
def referencedTableSchema : String := "referenced_table_schema"
def referencedTableName : String := "referenced_table_name"
def referencedColumnName : String := "referenced_column_name"

end Label

/-- The type of the tables that are listed; views have another one. -/
def baseTable : String := "BASE TABLE"

/-- The name of the index that holds the primary key. -/
def primaryIndex : String := "PRIMARY"

/-- A query of the catalog. -/
inductive CatalogQuery where
  | tables
  | columns
  | column
  | primaryKey
  | indexKeys
  | foreignKeys
  deriving DecidableEq

namespace CatalogQuery

/-- All catalog queries. -/
def all : List CatalogQuery :=
  [tables, columns, column, primaryKey, indexKeys, foreignKeys]

/-- What a query is called in messages. -/
def name : CatalogQuery → String
  | tables => "tables"
  | columns => "columns"
  | column => "column"
  | primaryKey => "primary key"
  | indexKeys => "index keys"
  | foreignKeys => "foreign keys"

/-- A relation of the information schema. -/
def view (name : String) : TableRef :=
  { schema := some "information_schema", name }

/-- A column of a relation under the label that the answer has. -/
def labelled (column label : String) : SelectItem :=
  .column column (some label)

/-- What is selected of columns. -/
def columnItems : List SelectItem :=
  [ labelled "COLUMN_NAME" Label.columnName,
    labelled "DATA_TYPE" Label.dataType,
    labelled "COLUMN_TYPE" Label.columnType,
    labelled "IS_NULLABLE" Label.isNullable,
    labelled "COLUMN_KEY" Label.columnKey,
    labelled "COLUMN_COMMENT" Label.columnComment ]

/-- What is selected of indexes. -/
def indexItems : List SelectItem :=
  [ labelled "INDEX_NAME" Label.indexName,
    labelled "COLUMN_NAME" Label.columnName ]

/-- What is selected of foreign keys. -/
def foreignItems : List SelectItem :=
  [ labelled "CONSTRAINT_NAME" Label.constraintName,
    labelled "COLUMN_NAME" Label.columnName,
    labelled "REFERENCED_TABLE_SCHEMA" Label.referencedTableSchema,
    labelled "REFERENCED_TABLE_NAME" Label.referencedTableName,
    labelled "REFERENCED_COLUMN_NAME" Label.referencedColumnName ]

/-- The conditions on the schema and the name of a table. -/
def ofTable : List Condition :=
  [.eq "TABLE_SCHEMA", .eq "TABLE_NAME"]

/-- The selection that a query sends. -/
def select : CatalogQuery → Select
  | tables =>
    { table := view "TABLES"
      items := [labelled "TABLE_NAME" Label.tableName]
      conditions := [.eq "TABLE_SCHEMA", .eq "TABLE_TYPE"]
      orderBy := ["TABLE_NAME"] }
  | columns =>
    { table := view "COLUMNS"
      items := columnItems
      conditions := ofTable
      orderBy := ["ORDINAL_POSITION"] }
  | column =>
    { table := view "COLUMNS"
      items := columnItems
      conditions := ofTable ++ [.eq "COLUMN_NAME"] }
  | primaryKey =>
    { table := view "STATISTICS"
      items := indexItems
      conditions := ofTable ++ [.eq "INDEX_NAME"]
      orderBy := ["SEQ_IN_INDEX"] }
  | indexKeys =>
    { table := view "STATISTICS"
      items := indexItems
      conditions := ofTable ++ [.eq "NON_UNIQUE"]
      orderBy := ["INDEX_NAME", "SEQ_IN_INDEX"] }
  | foreignKeys =>
    { table := view "KEY_COLUMN_USAGE"
      items := foreignItems
      conditions := ofTable ++
        [ .notNull "REFERENCED_TABLE_SCHEMA", .notNull "REFERENCED_TABLE_NAME",
          .notNull "REFERENCED_COLUMN_NAME" ]
      orderBy := ["CONSTRAINT_NAME", "ORDINAL_POSITION"] }

/-- The text of a query; catalog queries always quote their identifiers. -/
def sql (query : CatalogQuery) : String :=
  (Statement.select query.select).text {}

/-- The query that a statement is, white space around it aside. -/
def identify? (statement : String) : Option CatalogQuery :=
  all.find? fun query => query.sql == Text.trim statement

end CatalogQuery

end DataAccess.Catalog
