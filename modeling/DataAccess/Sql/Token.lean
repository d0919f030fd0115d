import DataAccess.Sql.Dialect
import DataAccess.Text.Basic
import DataAccess.Text.Uppercase

/-!
# SQL tokens

The pieces that statements are put together from. A style turns each into text.
-/

namespace DataAccess.Sql

/-- One piece of a statement. -/
inductive Token where
  | select
  | from
  | where
  | and
  | as
  | orderBy
  | limit
  | offset
  | distinct
  | isNotNull
  | insert
  | into
  | values
  | update
  | set
  | delete
  | comma
  | star
  | leftParen
  | rightParen
  | eq
  | nullSafeEq
  | space
  | placeholder
  | ident (name : String)
  /-- A table, with its schema in front where there is one. -/
  | qualified (schema : Option String) (name : String)
  /-- The name of a function, written in upper case. -/
  | functionName (name : String)
  deriving DecidableEq

/-- How a token is written in a style. -/
def Token.text (style : Style) : Token → String
  | .select => "SELECT"
  | .from => "FROM"
  | .where => "WHERE"
  | .and => "AND"
  | .as => "AS"
  | .orderBy => "ORDER BY"
  | .limit => "LIMIT"
  | .offset => "OFFSET"
  | .distinct => "DISTINCT"
  | .isNotNull => "IS NOT NULL"
  | .insert => "INSERT"
  | .into => "INTO"
  | .values => "VALUES"
  | .update => "UPDATE"
  | .set => "SET"
  | .delete => "DELETE"
  | .comma => ","
  | .star => "*"
  | .leftParen => "("
  | .rightParen => ")"
  | .eq => "="
  | .nullSafeEq => style.dialect.nullSafeEq
  | .space => " "
  | .placeholder => style.dialect.placeholder
  | .ident name => style.identifier name
  | .qualified none name => style.identifier name
  | .qualified (some schema) name => style.identifier schema ++ "." ++ style.identifier name
  | .functionName name => Text.upper name

/-- The text of the pieces, one after another. -/
def textOf (style : Style) : List Token → String
  | [] => ""
  | token :: rest => token.text style ++ textOf style rest

/-- The groups of pieces with a comma and a space between neighbours. -/
def commaSeparated : List (List Token) → List Token
  | [] => []
  | [only] => only
  | first :: next :: rest => first ++ .comma :: .space :: commaSeparated (next :: rest)

theorem textOf_append (style : Style) (left right : List Token) :
    textOf style (left ++ right) = textOf style left ++ textOf style right := by
  induction left with
  | nil => simp [textOf]
  | cons token rest ih => simp [textOf, ih, String.append_assoc]

end DataAccess.Sql
