import DataAccess.Sql.Statement

/-!
# Texts of statements

The text of a selection, put together from the texts of its columns and conditions
(`text_selection`), and the texts of the clauses that cut it to a page.
-/

namespace DataAccess.Sql

open Text

variable (style : Style)

theorem textOf_commaSeparated (groups : List (List Token)) :
    textOf style (commaSeparated groups) = joinWith ", " (groups.map (textOf style)) := by
  induction groups with
  | nil => rfl
  | cons first rest ih =>
      cases rest with
      | nil => rfl
      | cons next rest =>
          have between : textOf style [.comma, .space] = ", " := rfl
          have split : first ++ .comma :: .space :: commaSeparated (next :: rest) =
              first ++ ([.comma, .space] ++ commaSeparated (next :: rest)) := rfl
          rw [commaSeparated, split, textOf_append, textOf_append, between, ih]
          simp only [List.map_cons, joinWith, String.append_assoc]

/-- The text of a condition that a column equals a bound value. -/
def matchingText (column : String) (nullable : Bool) : String :=
  style.identifier column ++ (if nullable then " " ++ style.dialect.nullSafeEq ++ " ?" else " = ?")

theorem textOf_matching (column : String) (nullable : Bool) :
    textOf style (Condition.matching column nullable).tokens =
      matchingText style column nullable := by
  cases nullable with
  | false => rfl
  | true =>
      simp only [Condition.matching, ↓reduceIte, Condition.tokens, matchingText, textOf,
        Token.text, Dialect.placeholder, String.append_empty, String.append_assoc]
      rfl

theorem textOf_conjunction (conditions : List Condition) :
    textOf style (conjunction conditions) =
      joinWith " AND " (conditions.map fun condition => textOf style condition.tokens) := by
  induction conditions with
  | nil => rfl
  | cons first rest ih =>
      cases rest with
      | nil => rfl
      | cons next rest =>
          have between : textOf style [.space, .and, .space] = " AND " := rfl
          rw [conjunction, textOf_append, textOf_append, between, ih]
          simp only [List.map_cons, joinWith]

/-- The text of the condition that columns equal bound values; nothing without columns. A column is
given by its name and by whether it can be null. -/
def whereText (matched : List (String × Bool)) : String :=
  if matched.isEmpty then ""
  else " WHERE " ++ joinWith " AND " (matched.map fun column =>
    matchingText style column.1 column.2)

/-- The text of a selection of columns, `*` without any, with conditions on columns. -/
def selectionText (table : String) (columns : List String) (matched : List (String × Bool)) :
    String :=
  "SELECT " ++
    (if columns.isEmpty then "*" else joinWith ", " (columns.map style.identifier)) ++
    " FROM " ++ style.identifier table ++ whereText style matched

theorem textOf_where (matched : List (String × Bool)) :
    textOf style (whereTokens (matched.map fun column => .matching column.1 column.2)) =
      whereText style matched := by
  cases matched with
  | nil => rfl
  | cons first rest =>
      have lead : textOf style [.space, .where, .space] = " WHERE " := rfl
      have texts : ((first :: rest).map fun column => Condition.matching column.1 column.2).map
            (fun condition => textOf style condition.tokens) =
          (first :: rest).map fun column => matchingText style column.1 column.2 := by
        rw [List.map_map]
        exact List.map_congr_left fun column _ => textOf_matching style column.1 column.2
      rw [whereTokens, whereText, List.isEmpty_map, List.isEmpty_cons,
        if_neg Bool.false_ne_true, if_neg Bool.false_ne_true, textOf_append, lead,
        textOf_conjunction, texts]

theorem textOf_items (columns : List String) :
    textOf style (commaSeparated
        ((columns.map fun column => SelectItem.column column none).map SelectItem.tokens)) =
      joinWith ", " (columns.map style.identifier) := by
  rw [textOf_commaSeparated, List.map_map, List.map_map]
  refine congrArg (joinWith ", ") (List.map_congr_left fun column _ => ?_)
  exact String.append_empty

/-- **The text of a selection** of whole columns. -/
theorem text_selection (table : String) (columns : List String) (matched : List (String × Bool)) :
    (Statement.select
      { table := { name := table }
        items := columns.map fun column => .column column none
        conditions := matched.map fun column => .matching column.1 column.2 }).text style =
      selectionText style table columns matched := by
  have lead : textOf style [.select, .space] = "SELECT " := rfl
  have middle : textOf style [.space, .from, .space, .qualified none table] =
      " FROM " ++ style.identifier table := by
    simp only [textOf, Token.text, String.append_empty, ← String.append_assoc]
    rfl
  have items : textOf style
        (if (columns.map fun column => SelectItem.column column none).isEmpty then [.star]
          else commaSeparated
            ((columns.map fun column => SelectItem.column column none).map SelectItem.tokens)) =
      if columns.isEmpty then "*" else joinWith ", " (columns.map style.identifier) := by
    rw [List.isEmpty_map]
    split
    · rfl
    · exact textOf_items style columns
  have order : textOf style (orderTokens []) = "" := rfl
  rw [Statement.text, Statement.tokens, Select.tokens, TableRef.token]
  simp only [textOf_append, lead, items, middle, textOf_where, order, String.append_empty,
    selectionText, String.append_assoc]

theorem text_limit : PageClause.limit.text style = " LIMIT ?" := rfl

theorem text_offset : PageClause.offset.text style = " OFFSET ?" := rfl

end DataAccess.Sql
