import DataAccess.Database.Cell
import DataAccess.Sql.Statement

/-!
# Truth of conditions

What the condition of a statement says of a row, in the logic of SQL, which has three truth values:
a comparison with null neither holds nor fails. A clause is read from its pieces, and each of its
placeholders takes the next of the bound values. A row is selected if the clause holds
(`Selects`). How two values that are not null are compared is left open.
-/

namespace DataAccess.Sql

open Database

/-- A truth value. -/
inductive Truth where
  | fails
  | unknown
  | holds
  deriving DecidableEq

namespace Truth

def ofBool (value : Bool) : Truth :=
  if value then holds else fails

def and : Truth → Truth → Truth
  | fails, _ => fails
  | _, fails => fails
  | holds, holds => holds
  | _, _ => unknown

theorem ofBool_eq_holds {value : Bool} : ofBool value = holds ↔ value = true := by
  cases value <;> decide

theorem and_eq_holds {left right : Truth} :
    left.and right = holds ↔ left = holds ∧ right = holds := by
  cases left <;> cases right <;> decide

end Truth

theorem isNull_eq_false {cell : Cell} (present : cell ≠ .null) : cell.isNull = false := by
  cases cell with
  | null => exact absurd rfl present
  | _ => rfl

theorem eq_null_of_isNull {cell : Cell} (null : cell.isNull = true) : cell = .null := by
  cases cell with
  | null => rfl
  | _ => cases null

section Comparisons

variable (equal : Cell → Cell → Bool)

/-- The operator `=`: unknown where a side is null. -/
def equals (left right : Cell) : Truth :=
  if left.isNull || right.isNull then .unknown else .ofBool (equal left right)

/-- The null-safe operator, which holds of two nulls, and fails for one. -/
def nullSafeEquals (left right : Cell) : Truth :=
  if left.isNull || right.isNull then .ofBool (left.isNull && right.isNull)
  else .ofBool (equal left right)

/-- Whether two cells are equal where null counts as equal to null. -/
def Same (left right : Cell) : Prop :=
  left.isNull = true ∧ right.isNull = true ∨
    left.isNull = false ∧ right.isNull = false ∧ equal left right = true

theorem nullSafeEquals_eq_holds {left right : Cell} :
    nullSafeEquals equal left right = .holds ↔ Same equal left right := by
  unfold nullSafeEquals Same
  cases left.isNull <;> cases right.isNull <;> simp [Truth.ofBool_eq_holds]

/-- Where a side is not null, the two operators hold of the same cells. -/
theorem equals_eq_holds {left right : Cell} (present : left ≠ .null) :
    equals equal left right = .holds ↔ Same equal left right := by
  unfold equals Same
  rw [isNull_eq_false present]
  cases right.isNull <;> simp [Truth.ofBool_eq_holds]

end Comparisons

/-- Whether cells are identical. -/
def plainEqual (left right : Cell) : Bool :=
  left = right

theorem same_plainEqual_iff {left right : Cell} : Same plainEqual left right ↔ left = right := by
  unfold Same plainEqual
  rw [decide_eq_true_eq]
  constructor
  · rintro (⟨noLeft, noRight⟩ | ⟨-, -, equal⟩)
    · rw [eq_null_of_isNull noLeft, eq_null_of_isNull noRight]
    · exact equal
  · rintro rfl
    cases left.isNull <;> simp

section Clauses

variable (equal : Cell → Cell → Bool) (row : String → Cell)

/-- What a clause says of a row with values bound to its placeholders in turn. Each test stands
behind a word, which is `lead` for the first and `AND` for the others. A clause that is put together
otherwise, or for another number of values, says nothing. -/
def clauseTruth (lead : Token) : List Token → List Cell → Option Truth
  | [], [] => some .holds
  | .space :: word :: .space :: .ident column :: .space :: .eq :: .space :: .placeholder :: rest,
    value :: values =>
    if word = lead then
      (clauseTruth .and rest values).map (equals equal (row column) value).and
    else none
  | .space :: word :: .space :: .ident column :: .space :: .nullSafeEq :: .space ::
      .placeholder :: rest, value :: values =>
    if word = lead then
      (clauseTruth .and rest values).map (nullSafeEquals equal (row column) value).and
    else none
  | .space :: word :: .space :: .ident column :: .space :: .isNotNull :: rest, values =>
    if word = lead then
      (clauseTruth .and rest values).map (Truth.ofBool !(row column).isNull).and
    else none
  | _, _ => none

/-- Whether a clause holds of a row. -/
def Selects (clause : List Token) (values : List Cell) : Prop :=
  clauseTruth equal row .where clause values = some .holds

end Clauses

/-- Conditions behind each other, each behind a word: `lead` for the first, `AND` for the others. -/
def testTokens (lead : Token) : List Condition → List Token
  | [] => []
  | condition :: conditions =>
    .space :: lead :: .space :: (condition.tokens ++ testTokens .and conditions)

theorem conjunction_cons (condition : Condition) (conditions : List Condition) :
    conjunction (condition :: conditions) = condition.tokens ++ testTokens .and conditions := by
  induction conditions generalizing condition with
  | nil => exact (List.append_nil _).symm
  | cons next conditions ih =>
      rw [conjunction, ih next, List.append_assoc]
      rfl

theorem whereTokens_eq (conditions : List Condition) :
    whereTokens conditions = testTokens .where conditions := by
  cases conditions with
  | nil => rfl
  | cons condition conditions =>
      rw [whereTokens, conjunction_cons]
      rfl

/-- The comparison of a column with a bound value: null-safe on columns that can hold null. -/
def comparison (equal : Cell → Cell → Bool) (nullable : Bool) (left right : Cell) : Truth :=
  if nullable then nullSafeEquals equal left right else equals equal left right

theorem comparison_eq_holds {equal : Cell → Cell → Bool} {nullable : Bool} {left right : Cell}
    (filled : nullable = false → left ≠ .null) :
    comparison equal nullable left right = .holds ↔ Same equal left right := by
  unfold comparison
  cases nullable with
  | false => exact equals_eq_holds equal (filled rfl)
  | true => exact nullSafeEquals_eq_holds equal

section Matching

variable (equal : Cell → Cell → Bool) (row : String → Cell)

/-- A test that a column matches a bound value takes one value. -/
theorem clauseTruth_matching (lead : Token) (column : String) (nullable : Bool)
    (conditions : List Condition) (value : Cell) (values : List Cell) :
    clauseTruth equal row lead
        (testTokens lead (.matching column nullable :: conditions)) (value :: values) =
      (clauseTruth equal row .and (testTokens .and conditions) values).map
        (comparison equal nullable (row column) value).and := by
  cases nullable with
  | false => exact if_pos rfl
  | true => exact if_pos rfl

theorem clauseTruth_matching_nil (lead : Token) (column : String) (nullable : Bool)
    (conditions : List Condition) :
    clauseTruth equal row lead
      (testTokens lead (.matching column nullable :: conditions)) [] = none := by
  cases nullable <;> rfl

end Matching

end DataAccess.Sql
