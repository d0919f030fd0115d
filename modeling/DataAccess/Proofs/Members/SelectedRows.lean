import DataAccess.Members.Binding
import DataAccess.Proofs.Sql.Truth
import Mathlib.Data.List.Forall2

/-!
# Rows that key conditions select

The conditions on the columns of a key compare each column with one bound value, with the null-safe
operator where the column can be null. So a row is selected exactly if its cells at those columns
are the bound values, null being equal to null (`selects_keyConditions_iff`). One column is the
step, and a key of any length follows, since each test takes the next of the values.
-/

namespace DataAccess.Members

open Schema Sql Database

/-- Whether the cells of a row at the columns are equal to the values one by one. -/
def HoldsKey (equal : Cell → Cell → Bool) (row : String → Cell) (columns : List Column)
    (values : List Cell) : Prop :=
  List.Forall₂ (fun column value => Same equal (row column.name) value) columns values

theorem keyConditions_cons (column : Column) (columns : List Column) :
    keyConditions (column :: columns) =
      .matching column.name column.nullable :: keyConditions columns :=
  rfl

section Keys

variable (equal : Cell → Cell → Bool) (row : String → Cell)

/-- With one value for each column, the tests of a key say something of every row. -/
theorem isSome_clauseTruth (lead : Token) {columns : List Column} {values : List Cell}
    (lengths : columns.length = values.length) :
    (clauseTruth equal row lead (testTokens lead (keyConditions columns)) values).isSome =
      true := by
  induction columns generalizing lead values with
  | nil =>
      rw [List.length_eq_zero_iff.mp lengths.symm]
      rfl
  | cons column columns ih =>
      cases values with
      | nil => cases lengths
      | cons value values =>
          rw [keyConditions_cons, clauseTruth_matching, Option.isSome_map]
          exact ih .and (Nat.succ.inj lengths)

/-- The tests of a key hold of the rows whose cells are the values. -/
theorem clauseTruth_eq_holds (lead : Token) {columns : List Column} {values : List Cell}
    (filled : ∀ column ∈ columns, column.nullable = false → row column.name ≠ .null) :
    clauseTruth equal row lead (testTokens lead (keyConditions columns)) values = some .holds ↔
      HoldsKey equal row columns values := by
  unfold HoldsKey
  induction columns generalizing lead values with
  | nil =>
      rw [List.forall₂_nil_left_iff]
      cases values with
      | nil => exact iff_of_true rfl rfl
      | cons value values => exact iff_of_false nofun nofun
  | cons column columns ih =>
      have own := filled column List.mem_cons_self
      have rest : ∀ other ∈ columns, other.nullable = false → row other.name ≠ .null :=
        fun other member => filled other (List.mem_cons_of_mem _ member)
      rw [keyConditions_cons]
      cases values with
      | nil =>
          rw [clauseTruth_matching_nil]
          exact iff_of_false nofun nofun
      | cons value values =>
          rw [clauseTruth_matching, List.forall₂_cons, ← comparison_eq_holds own, ← ih .and rest,
            Option.map_eq_some_iff]
          constructor
          · rintro ⟨truth, said, both⟩
            obtain ⟨first, later⟩ := Truth.and_eq_holds.mp both
            exact ⟨first, later ▸ said⟩
          · rintro ⟨first, said⟩
            exact ⟨.holds, said, Truth.and_eq_holds.mpr ⟨first, rfl⟩⟩

end Keys

/-- Cells that are equal one by one under plain equality are the values. -/
theorem holdsKey_plainEqual_iff {row : String → Cell} {columns : List Column}
    {values : List Cell} :
    HoldsKey plainEqual row columns values ↔
      columns.map (fun column => row column.name) = values := by
  unfold HoldsKey
  simp only [same_plainEqual_iff]
  rw [← List.forall₂_eq_eq_eq, List.forall₂_map_left_iff]

/-- **Key conditions select exactly the rows with the key.** With a value bound for each column of a
key, the clause of its conditions says something of every row, and it holds of the rows whose cells
at the columns are equal to the values one by one, null being equal to null. This is so for every
way of comparing values that are not null; under plain equality the cells are the values. -/
theorem selects_keyConditions_iff (row : String → Cell) (columns : List Column)
    (values : List Cell)
    (filled : ∀ column ∈ columns, column.nullable = false → row column.name ≠ .null) :
    (∀ equal : Cell → Cell → Bool,
      (columns.length = values.length →
        (clauseTruth equal row .where (whereTokens (keyConditions columns)) values).isSome) ∧
      (Selects equal row (whereTokens (keyConditions columns)) values ↔
        HoldsKey equal row columns values)) ∧
    (Selects plainEqual row (whereTokens (keyConditions columns)) values ↔
      columns.map (fun column => row column.name) = values) := by
  have holds (equal : Cell → Cell → Bool) :
      Selects equal row (whereTokens (keyConditions columns)) values ↔
        HoldsKey equal row columns values := by
    rw [Selects, whereTokens_eq]
    exact clauseTruth_eq_holds equal row .where filled
  refine ⟨fun equal => ⟨fun lengths => ?_, holds equal⟩, ?_⟩
  · rw [whereTokens_eq]
    exact isSome_clauseTruth equal row .where lengths
  · exact (holds plainEqual).trans holdsKey_plainEqual_iff

/-- The columns of a key over a telephone number that can be missing and a region. -/
def contactKey : List Column :=
  [ { name := "phone", nativeType := "varchar", extendedType := "varchar(20)", nullable := true,
      comment := "", isPrimary := false },
    { name := "region", nativeType := "varchar", extendedType := "varchar(2)", nullable := false,
      comment := "", isPrimary := false } ]

/-- A contact without a telephone. -/
def contactRow (name : String) : Cell :=
  if name = "region" then .text "EU" else .null

theorem selects_keyConditions_contact :
    (∀ column ∈ contactKey, column.nullable = false → contactRow column.name ≠ .null) ∧
      Selects plainEqual contactRow (whereTokens (keyConditions contactKey)) [.null, .text "EU"] ∧
      ¬Selects plainEqual contactRow (whereTokens (keyConditions contactKey))
        [.text "", .text "EU"] := by
  have filled : ∀ column ∈ contactKey, column.nullable = false →
      contactRow column.name ≠ .null := by
    decide
  have selected (values : List Cell) :=
    (selects_keyConditions_iff contactRow contactKey values filled).2
  refine ⟨filled, (selected _).mpr (by decide), ?_⟩
  rw [selected]
  decide

end DataAccess.Members
