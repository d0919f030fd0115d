import DataAccess.Catalog.Introspection
import Mathlib.Data.List.Forall2

/-!
# Runs through two connections

Loading is made of questions, of the decoding of their answers, and of steps in sequence. So a
comparison of runs through two connections that sequences keep holds of every loader as soon as it
holds of every question (`Asks.foreignKeys` and its siblings). Rows are compared by the cells that
names find in them, since decoding looks at nothing else (`Row.SameCells`).
-/

namespace DataAccess.Database.Row

/-- Every name finds the same cell in both rows. -/
def SameCells (row other : Row) : Prop :=
  ∀ name, row.find? name = other.find? name

variable {row other : Row}

theorem SameCells.text (same : row.SameCells other) (name : String) :
    row.text name = other.text name := by
  rw [Row.text, Row.text, Row.cell, Row.cell, same name]

theorem SameCells.textOrNull (same : row.SameCells other) (name : String) :
    row.textOrNull name = other.textOrNull name := by
  rw [Row.textOrNull, Row.textOrNull, Row.cell, Row.cell, same name, same.text name]

/-- Rows are decoded to the same values, or fail at the same one, where each of them is. -/
theorem mapM_of_sameCells {α : Type} {decode : Row → Except ConnectionError α}
    (respects : ∀ {row other : Row}, row.SameCells other → decode row = decode other)
    {rows others : List Row} (each : List.Forall₂ SameCells rows others) :
    rows.mapM decode = others.mapM decode := by
  induction each with
  | nil => rfl
  | cons same _ ih => rw [List.mapM_cons, List.mapM_cons, respects same, ih]

end DataAccess.Database.Row

namespace DataAccess.Catalog

open Database Schema

section Decoding

variable {row other : Row}

theorem columnOfRow_of_sameCells (same : row.SameCells other) :
    columnOfRow row = columnOfRow other := by
  simp only [columnOfRow, same.text, same.textOrNull]

theorem indexEntryOfRow_of_sameCells (same : row.SameCells other) :
    indexEntryOfRow row = indexEntryOfRow other := by
  simp only [indexEntryOfRow, same.text, same.textOrNull]

theorem foreignEntryOfRow_of_sameCells (same : row.SameCells other) :
    foreignEntryOfRow row = foreignEntryOfRow other := by
  simp only [foreignEntryOfRow, same.text]

end Decoding

/-- A comparison of steps through two connections, for a relation between what they give, that
steps in sequence keep. -/
structure Comparison (σ τ : Type) where
  holds {α β : Type} (related : α → β → Prop) (step : Introspect σ α) (other : Introspect τ β) :
    Prop
  value {α β : Type} {related : α → β → Prop} {value : α} {other : β}
    (alike : related value other) : holds related (pure value) (pure other)
  failure {α β : Type} (related : α → β → Prop) (failure : IntrospectionError) :
    holds related (throw failure) (throw failure)
  sequence {α β γ δ : Type} {related : α → β → Prop} {relatedAfter : γ → δ → Prop}
    {step : Introspect σ α} {other : Introspect τ β} {next : α → Introspect σ γ}
    {otherNext : β → Introspect τ δ} (now : holds related step other)
    (later : ∀ value otherValue, related value otherValue →
      holds relatedAfter (next value) (otherNext otherValue)) :
    holds relatedAfter (step >>= next) (other >>= otherNext)

namespace Comparison

variable {σ τ α β : Type} (comparison : Comparison σ τ)

/-- A step that gives the same, with the same steps behind it. -/
theorem bind {step : Introspect σ α} {other : Introspect τ α} {next : α → Introspect σ β}
    {otherNext : α → Introspect τ β} (now : comparison.holds Eq step other)
    (later : ∀ value, comparison.holds Eq (next value) (otherNext value)) :
    comparison.holds Eq (step >>= next) (other >>= otherNext) :=
  comparison.sequence now fun value _ same => same ▸ later value

theorem decoded (context : ConnectionError → IntrospectionError)
    (value : Except ConnectionError α) :
    comparison.holds Eq (decoded context value) (decoded context value) := by
  cases value with
  | ok value => exact comparison.value rfl
  | error failure => exact comparison.failure Eq (context failure)

/-- Rows with the same cells, decoded one by one, with the same steps behind that. -/
theorem decodedRows {decode : Row → Except ConnectionError α}
    (respects : ∀ {row other : Row}, row.SameCells other → decode row = decode other)
    (context : ConnectionError → IntrospectionError) {rows others : List Row}
    (each : List.Forall₂ Row.SameCells rows others) {next : List α → Introspect σ β}
    {otherNext : List α → Introspect τ β}
    (later : ∀ results, comparison.holds Eq (next results) (otherNext results)) :
    comparison.holds Eq (Catalog.decoded context (rows.mapM decode) >>= next)
      (Catalog.decoded context (others.mapM decode) >>= otherNext) := by
  rw [Row.mapM_of_sameCells respects each]
  exact comparison.bind (comparison.decoded context _) later

end Comparison

/-- The comparison holds of every catalog query, with rows that have the same cells. -/
def Asks {σ τ : Type} (comparison : Comparison σ τ) (first : Connection σ)
    (second : Connection τ) : Prop :=
  ∀ context query values, comparison.holds (List.Forall₂ Row.SameCells)
    (ask first context query values) (ask second context query values)

namespace Asks

variable {σ τ α : Type} {comparison : Comparison σ τ} {first : Connection σ}
  {second : Connection τ} (asks : Asks comparison first second) (table : Table)

include asks

theorem tables (schema : String) :
    comparison.holds Eq (listTables first schema) (listTables second schema) :=
  comparison.sequence (asks _ _ _) fun _ _ each =>
    comparison.decodedRows (fun same => same.text Label.tableName) _ each fun _ =>
      comparison.value rfl

theorem column (schema name column : String) :
    comparison.holds Eq (getColumn first schema name column)
      (getColumn second schema name column) := by
  refine comparison.sequence (asks _ _ _) fun rows others each => ?_
  cases each with
  | nil => exact comparison.value rfl
  | cons same _ =>
      simp only [columnOfRow_of_sameCells same, map_eq_pure_bind]
      exact comparison.bind (comparison.decoded _ _) fun _ => comparison.value rfl

theorem columns : comparison.holds Eq (loadColumns first table) (loadColumns second table) := by
  refine comparison.sequence (asks _ _ _) fun rows others each => ?_
  rw [Row.mapM_of_sameCells columnOfRow_of_sameCells each]
  exact comparison.decoded _ _

theorem primaryKey :
    comparison.holds Eq (loadPrimaryKey first table) (loadPrimaryKey second table) :=
  comparison.sequence (asks _ _ _) fun _ _ each =>
    comparison.decodedRows (fun same => same.textOrNull Label.columnName) _ each fun _ =>
      comparison.value rfl

theorem indexGroups (unique : Bool) :
    comparison.holds Eq (loadIndexGroups first table unique)
      (loadIndexGroups second table unique) :=
  comparison.sequence (asks _ _ _) fun _ _ each =>
    comparison.decodedRows indexEntryOfRow_of_sameCells _ each fun _ => comparison.value rfl

theorem uniqueKeys :
    comparison.holds Eq (loadUniqueKeys first table) (loadUniqueKeys second table) :=
  comparison.bind (asks.indexGroups table true) fun _ => comparison.value rfl

theorem foreignRows (keys : ForeignKeys) {rows others : List Row}
    (each : List.Forall₂ Row.SameCells rows others) :
    comparison.holds Eq (addForeignRows first table keys rows)
      (addForeignRows second table keys others) := by
  induction each generalizing keys with
  | nil => exact comparison.value rfl
  | cons same _ ih =>
      rw [addForeignRows, addForeignRows, foreignEntryOfRow_of_sameCells same]
      refine comparison.bind (comparison.decoded _ _) fun entry => ?_
      cases table.resolve? entry.column with
      | none => exact ih keys
      | some own =>
          refine comparison.bind (asks.column _ _ _) fun found => ?_
          cases found with
          | none => exact ih keys
          | some referenced => exact ih _

theorem foreignKeys :
    comparison.holds Eq (loadForeignKeys first table) (loadForeignKeys second table) :=
  comparison.sequence (asks _ _ _) fun _ _ each => asks.foreignRows table [] each

end Asks

end DataAccess.Catalog
