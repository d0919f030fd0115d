import DataAccess.Catalog.Introspection
import DataAccess.Catalog.SnapshotServer
import DataAccess.Proofs.Sql.UniqueStatements
import DataAccess.Proofs.Text.Trimming

/-!
# Answers of a snapshot

A snapshot connection recognizes every catalog query by its text (`identify?_sql`) and answers it
from the tables of the snapshot (`query_sql`). The rows of an answer are decoded as what they were
made from.
-/

namespace DataAccess.Catalog

open Database Sql Text

namespace CatalogQuery

/-- The last piece of the text of a query. -/
def lastPiece : CatalogQuery → Token
  | tables => .ident "TABLE_NAME"
  | columns => .ident "ORDINAL_POSITION"
  | column => .placeholder
  | primaryKey => .ident "SEQ_IN_INDEX"
  | indexKeys => .ident "SEQ_IN_INDEX"
  | foreignKeys => .ident "ORDINAL_POSITION"

theorem getLast?_tokens (query : CatalogQuery) :
    query.select.tokens.getLast? = some query.lastPiece := by
  cases query <;> rfl

theorem getLast?_lastPiece (query : CatalogQuery) :
    ∃ front last, (query.lastPiece.text {}).toList = front ++ [last] ∧ isBlank last = false := by
  have ident (name : String) :
      ∃ front last, ((Token.ident name).text {}).toList = front ++ [last] ∧
        isBlank last = false := by
    refine ⟨'\x60' :: doubleQuotes '\x60' name.toList, '\x60', ?_, by decide⟩
    exact nameChars_eq .mysql name
  cases query
  case column => exact ⟨[], '?', by decide, by decide⟩
  all_goals exact ident _

/-- There is no white space around the text of a query. -/
theorem trim_sql (query : CatalogQuery) : trim query.sql = query.sql := by
  apply trim_of_ends
  · intro c first
    have whole : query.sql = "SELECT" ++ textOf {} query.select.tokens.tail := rfl
    rw [whole, String.toList_append] at first
    cases first
    decide
  · intro c last
    obtain ⟨pieces, whole⟩ := List.getLast?_eq_some_iff.mp query.getLast?_tokens
    obtain ⟨front, final, ends, solid⟩ := query.getLast?_lastPiece
    have text : query.sql.toList = (textOf {} pieces).toList ++ front ++ [final] := by
      have split : query.sql = textOf {} (pieces ++ [query.lastPiece]) := by
        rw [← whole]
        rfl
      rw [split, textOf_append, textOf, textOf, String.append_empty, String.toList_append, ends,
        List.append_assoc]
    rw [text, List.getLast?_concat] at last
    cases last
    exact solid

theorem select_injective : Function.Injective select := by
  intro first second same
  cases first <;> cases second <;> first | rfl | (revert same; decide)

theorem sql_injective : Function.Injective sql := by
  intro first second same
  exact select_injective (select_eq .mysql (congrArg String.toList same))

/-- **Every query is recognized by its text.** -/
theorem identify?_sql (query : CatalogQuery) : identify? query.sql = some query := by
  have same : (fun other : CatalogQuery => other.sql == query.sql) =
      fun other => other == query := by
    funext other
    rw [Bool.eq_iff_iff, beq_iff_eq, beq_iff_eq]
    exact sql_injective.eq_iff
  rw [identify?, trim_sql, same]
  cases query <;> rfl

end CatalogQuery

section Answers

variable {snapshot : Snapshot} {query : CatalogQuery} {values : List Cell} {rows : List Row}

theorem query_sql (served : List CatalogQuery)
    (answered : SnapshotServer.answer snapshot query query.sql values = .ok rows) :
    (SnapshotServer.connection { snapshot }).query query.sql values served =
      .ok rows (served ++ [query]) := by
  simp only [SnapshotServer.connection, CatalogQuery.identify?_sql, answered]
  rfl

theorem ask_eq_ok (context : ConnectionError → IntrospectionError) (served : List CatalogQuery)
    (answered : SnapshotServer.answer snapshot query query.sql values = .ok rows) :
    ask (SnapshotServer.connection { snapshot }) context query values served =
      .ok rows (served ++ [query]) := by
  rw [ask, inContext, query_sql served answered]

/-- The flag of an index listing is 0 for the indexes that are unique. -/
theorem selects_flag (unique : Bool) :
    (fun index : SnapshotIndex =>
        index.unique == ((if unique then 0 else 1 : Int64) == 0)) =
      (·.unique == unique) := by
  cases unique <;> rfl

end Answers

section Rows

open SnapshotServer

variable {cells : List (String × String)} {label value : String}

/-- The labels differ in more than the case of their letters. -/
def Distinct (labels : List String) : Prop :=
  labels.Pairwise fun left right => eqIgnoringCase left right = false

instance (labels : List String) : Decidable (Distinct labels) :=
  inferInstanceAs (Decidable (labels.Pairwise _))

theorem find?_textRow (distinct : Distinct (cells.map Prod.fst)) (member : (label, value) ∈ cells) :
    (textRow cells).find? label = some (.text value) := by
  induction cells with
  | nil => cases member
  | cons cell cells ih =>
      obtain ⟨first, text⟩ := cell
      obtain ⟨apart, distinct⟩ := List.pairwise_cons.mp distinct
      rcases List.mem_cons.mp member with same | later
      · cases same
        simp [Row.find?, textRow, eqIgnoringCase_refl]
      · have skipped : eqIgnoringCase first label = false :=
          apart label (List.mem_map_of_mem later)
        have step : (textRow ((first, text) :: cells)).find? label =
            (textRow cells).find? label := by
          simp [Row.find?, textRow, skipped]
        rw [step]
        exact ih distinct later

theorem text_textRow (distinct : Distinct (cells.map Prod.fst)) (member : (label, value) ∈ cells) :
    (textRow cells).text label = .ok value := by
  simp [Row.text, Row.cell, find?_textRow distinct member, bind, Except.bind, Cell.text?]

theorem textOrNull_textRow (distinct : Distinct (cells.map Prod.fst))
    (member : (label, value) ∈ cells) : (textRow cells).textOrNull label = .ok (some value) := by
  rw [Row.textOrNull, text_textRow distinct member]
  simp [Row.cell, find?_textRow distinct member, bind, Except.bind, Cell.isNull]

/-- The column of a table that the catalog reports. -/
def SnapshotColumn.reported (column : SnapshotColumn) : Schema.Column :=
  { name := column.name
    nativeType := column.dataType
    extendedType := column.effectiveType
    nullable := column.nullable
    comment := column.comment
    isPrimary := occursIn "PRI".toList (upperAscii column.key).toList }

theorem eqIgnoringCase_yes (holds : Bool) :
    eqIgnoringCase (if holds then "YES" else "NO") "YES" = holds := by
  cases holds <;> decide

theorem columnOfRow_columnRow (column : SnapshotColumn) :
    columnOfRow (columnRow column) = .ok column.reported := by
  have distinct : Distinct
      [Label.columnName, Label.dataType, Label.columnType, Label.isNullable, Label.columnKey,
        Label.columnComment] := by decide
  have key : (columnRow column).textOrNull Label.columnKey = .ok (some column.key) :=
    textOrNull_textRow distinct (by simp)
  have name : (columnRow column).text Label.columnName = .ok column.name :=
    text_textRow distinct (by simp)
  have native : (columnRow column).text Label.dataType = .ok column.dataType :=
    text_textRow distinct (by simp)
  have extended : (columnRow column).text Label.columnType = .ok column.effectiveType :=
    text_textRow distinct (by simp)
  have nullable : (columnRow column).text Label.isNullable =
      .ok (if column.nullable then "YES" else "NO") := text_textRow distinct (by simp)
  have comment : (columnRow column).textOrNull Label.columnComment = .ok (some column.comment) :=
    textOrNull_textRow distinct (by simp)
  rw [columnOfRow, key, name, native, extended, nullable, comment]
  simp only [bind, Except.bind, Option.getD_some, eqIgnoringCase_yes, SnapshotColumn.reported,
    upperAscii, String.toList_ofList]

/-- The row of a column of an index. -/
def indexRow (index column : String) : Row :=
  textRow [(Label.indexName, index), (Label.columnName, column)]

theorem textOrNull_indexRow (index column : String) :
    (indexRow index column).textOrNull Label.columnName = .ok (some column) :=
  textOrNull_textRow (by decide : Distinct [Label.indexName, Label.columnName]) (by simp)

theorem indexEntryOfRow_indexRow (index column : String) :
    indexEntryOfRow (indexRow index column) = .ok (index, some column) := by
  have name : (indexRow index column).text Label.indexName = .ok index :=
    text_textRow (by decide : Distinct [Label.indexName, Label.columnName]) (by simp)
  rw [indexEntryOfRow, name, textOrNull_indexRow]
  rfl

/-- The row of a column of a foreign key. -/
def foreignRow (constraint : String) (reference : SnapshotReference) : Row :=
  textRow
    [ (Label.constraintName, constraint), (Label.columnName, reference.column),
      (Label.referencedTableSchema, reference.referencedSchema),
      (Label.referencedTableName, reference.referencedTable),
      (Label.referencedColumnName, reference.referencedColumn) ]

theorem foreignEntryOfRow_foreignRow (constraint : String) (reference : SnapshotReference) :
    foreignEntryOfRow (foreignRow constraint reference) =
      .ok
        { constraint
          column := reference.column
          schema := reference.referencedSchema
          table := reference.referencedTable
          referenced := reference.referencedColumn } := by
  have distinct : Distinct
      [Label.constraintName, Label.columnName, Label.referencedTableSchema,
        Label.referencedTableName, Label.referencedColumnName] := by decide
  have name : (foreignRow constraint reference).text Label.constraintName = .ok constraint :=
    text_textRow distinct (by simp)
  have column : (foreignRow constraint reference).text Label.columnName = .ok reference.column :=
    text_textRow distinct (by simp)
  have schema : (foreignRow constraint reference).text Label.referencedTableSchema =
      .ok reference.referencedSchema := text_textRow distinct (by simp)
  have table : (foreignRow constraint reference).text Label.referencedTableName =
      .ok reference.referencedTable := text_textRow distinct (by simp)
  have referenced : (foreignRow constraint reference).text Label.referencedColumnName =
      .ok reference.referencedColumn := text_textRow distinct (by simp)
  rw [foreignEntryOfRow, name, column, schema, table, referenced]
  rfl

end Rows

end DataAccess.Catalog
