import DataAccess.Proofs.Entries.Stored
import DataAccess.Proofs.Members.Hydration

/-!
# Types of properties

The property of a column holds a value of the type of the column, or the null that the column may
hold, unless the cell came as a value of another type that reading leaves as it is
(`callStatic_fromRecord_types`). Which cells these are depends on the type alone (`staysAsRead`).
-/

namespace DataAccess.Members

open Code Schema Evaluation Database Numeral

/-- The cell of a row under a label, null where there is none. Of several, the last one counts. -/
def cellUnder (row : Row) (name : String) : Cell :=
  (Entries.last? name row.cells).getD .null

/-- Whether a value is one of the type. -/
def isOfType : SemanticType → Value → Bool
  | .integer, .int _ | .float, .float _ | .boolean, .bool _ | .temporal, .dateTime _
  | .text, .text _ => true
  | _, _ => false

/-- Whether a value is one of the type of a column, or a null in a column that can be null. -/
def HoldsType (column : Column) (value : Value) : Prop :=
  isOfType column.semanticType value = true ∨ column.nullable = true ∧ value = .null

/-- Whether reading leaves a cell as it is although it is of another type: floating-point numbers
are not made integers or truth values, and truth values are not made floating-point numbers or
texts. An unsigned integer beyond the signed ones counts as a floating-point number. -/
def staysAsRead : SemanticType → Cell → Bool
  | .integer, .float _ | .boolean, .float _ | .float, .bool _ | .text, .bool _ => true
  | .integer, .uint value | .boolean, .uint value => decide (twoTo 63 ≤ value.toNat)
  | _, _ => false

/-- The value of an unsigned integer is an integer if it is in range, and else a floating-point
number. -/
theorem ofUnsigned_cases (value : UInt64) :
    (value.toNat < twoTo 63 ∧ ∃ number, Value.ofUnsigned value = .int number) ∨
      (twoTo 63 ≤ value.toNat ∧ ∃ number, Value.ofUnsigned value = .float number) := by
  unfold Value.ofUnsigned toInt64?
  by_cases small : value.toNat < twoTo 63
  · have range : -(twoTo 63 : Int) ≤ value.toNat ∧ (value.toNat : Int) < twoTo 63 := by omega
    rw [if_pos range]
    exact .inl ⟨small, _, rfl⟩
  · have outside : ¬(-(twoTo 63 : Int) ≤ value.toNat ∧ (value.toNat : Int) < twoTo 63) := by
      omega
    rw [if_neg outside]
    exact .inr ⟨Nat.le_of_not_lt small, _, rfl⟩

theorem ofCell_isNull {cell : Cell} (present : cell ≠ .null) :
    (Value.ofCell cell).isNull = false := by
  cases cell with
  | null => exact absurd rfl present
  | uint value =>
      rw [Value.ofCell]
      obtain ⟨-, number, made⟩ | ⟨-, number, made⟩ := ofUnsigned_cases value <;> rw [made] <;> rfl
  | _ => rfl

/-- A cell that stays as it is is not of the type, and reading does not change it. -/
theorem cast_of_stays {type : SemanticType} {cell : Cell} (stays : staysAsRead type cell = true) :
    isOfType type (.ofCell cell) = false ∧
      cast (.ofCell cell) (.ofSemantic type) = .ok (.ofCell cell) := by
  cases cell with
  | uint value =>
      have large : twoTo 63 ≤ value.toNat := by
        cases type with
        | integer | boolean => exact of_decide_eq_true stays
        | _ => cases stays
      rw [Value.ofCell]
      obtain ⟨small, -⟩ | ⟨-, number, made⟩ := ofUnsigned_cases value
      · exact absurd large (Nat.not_le_of_lt small)
      · rw [made]
        cases type with
        | integer | boolean => exact ⟨rfl, rfl⟩
        | _ => cases stays
  | float value =>
      cases type with
      | integer | boolean => exact ⟨rfl, rfl⟩
      | _ => cases stays
  | bool value =>
      cases type with
      | float | text => exact ⟨rfl, rfl⟩
      | _ => cases stays
  | _ => cases type <;> cases stays

/-- Reading makes a text a value of the type, or fails. -/
theorem isOfType_of_cast_text {type : SemanticType} {text : String} {value : Value}
    (nonTemporal : type.isTemporal = false)
    (read : cast (.text text) (.ofSemantic type) = .ok value) : isOfType type value = true := by
  cases type with
  | integer =>
      obtain ⟨number, rfl⟩ := castTextToInt_eq_ok read
      rfl
  | float =>
      obtain ⟨number, rfl⟩ := castTextToFloat_eq_ok read
      rfl
  | boolean | text =>
      cases read
      rfl
  | temporal => cases nonTemporal

theorem isOfType_of_cast_int {type : SemanticType} {number : Int64} {value : Value}
    (nonTemporal : type.isTemporal = false)
    (read : cast (.int number) (.ofSemantic type) = .ok value) : isOfType type value = true := by
  cases type with
  | temporal => cases nonTemporal
  | _ =>
      cases read
      rfl

/-- Every other cell is read as a value of the type, or not at all. -/
theorem isOfType_of_cast {type : SemanticType} {cell : Cell} {value : Value}
    (present : cell ≠ .null) (changes : staysAsRead type cell = false)
    (nonTemporal : type.isTemporal = false)
    (read : cast (.ofCell cell) (.ofSemantic type) = .ok value) : isOfType type value = true := by
  cases cell with
  | null => exact absurd rfl present
  | text text => exact isOfType_of_cast_text nonTemporal read
  | bytes bytes => exact isOfType_of_cast_text nonTemporal read
  | int number => exact isOfType_of_cast_int nonTemporal read
  | uint number =>
      rw [Value.ofCell] at read
      obtain ⟨-, small, made⟩ | ⟨large, float, made⟩ := ofUnsigned_cases number
      · rw [made] at read
        exact isOfType_of_cast_int nonTemporal read
      · rw [made] at read
        cases type with
        | temporal => cases nonTemporal
        | integer | boolean => exact absurd large (of_decide_eq_false changes)
        | float | text =>
            cases read
            rfl
  | bool flag =>
      cases type with
      | temporal => cases nonTemporal
      | float | text => cases changes
      | integer | boolean =>
          cases read
          rfl
  | float number =>
      cases type with
      | temporal => cases nonTemporal
      | integer | boolean => cases changes
      | float | text =>
          cases read
          rfl

theorem eq_temporal_of_isTemporal {type : SemanticType} (temporal : type.isTemporal = true) :
    type = .temporal := by
  cases type with
  | temporal => rfl
  | _ => cases temporal

/-- What is read for a column of a present cell is of its type exactly if the cell does not stay as
it is. -/
theorem readAs_types {column : Column} {cell : Cell} {value : Value} (present : cell ≠ .null)
    (read : readAs column (.ofCell cell) = .ok value) :
    (isOfType column.semanticType value = true ↔ staysAsRead column.semanticType cell = false) ∧
      (staysAsRead column.semanticType cell = true → value = .ofCell cell) := by
  rw [readAs, guarded, ofCell_isNull present, Bool.and_false, if_neg Bool.false_ne_true] at read
  cases temporal : column.isTemporal with
  | true =>
      rw [temporal, if_pos rfl] at read
      obtain ⟨moment, rfl⟩ := momentOf_eq_ok read
      rw [eq_temporal_of_isTemporal temporal]
      exact ⟨iff_of_true rfl rfl, fun stays => absurd stays Bool.false_ne_true⟩
  | false =>
      rw [temporal, if_neg Bool.false_ne_true] at read
      cases stays : staysAsRead column.semanticType cell with
      | false =>
          refine ⟨iff_of_true ?_ rfl, fun changed => absurd changed Bool.false_ne_true⟩
          exact isOfType_of_cast present stays temporal read
      | true =>
          obtain ⟨wrong, unchanged⟩ := cast_of_stays stays
          have same : value = .ofCell cell := (Except.ok.inj (unchanged.symm.trans read)).symm
          refine ⟨iff_of_false ?_ Bool.false_ne_true.symm, fun _ => same⟩
          rw [same, wrong]
          exact Bool.false_ne_true

/-- The null that a column may hold is read as null. -/
theorem readAs_null {column : Column} (nullable : column.nullable = true) :
    readAs column .null = .ok .null := by
  rw [readAs, guarded, nullable]
  rfl

/-- What is read from a row for a column is what its cell is read as. -/
theorem readFrom_ofRow (row : Row) (column : Column) :
    readFrom (Value.ofRow row) column = readAs column (.ofCell (cellUnder row column.name)) := by
  have held : cellIn column.name (Value.ofRow row) =
      .ok (.ofCell (cellUnder row column.name)) := by
    rw [Value.ofRow, cellIn, Entries.find?_ofList, Entries.last?_map, cellUnder]
    cases Entries.last? column.name row.cells <;> rfl
  rw [readFrom, held]
  rfl

/-- What is read from a row for a column is of the type of the column, or the null that it may hold,
exactly if the cell does not stay as it is. -/
theorem readFrom_types {row : Row} {column : Column} {value : Value}
    (filled : column.nullable = false → cellUnder row column.name ≠ .null)
    (read : readFrom (Value.ofRow row) column = .ok value) :
    (HoldsType column value ↔
        staysAsRead column.semanticType (cellUnder row column.name) = false) ∧
      (staysAsRead column.semanticType (cellUnder row column.name) = true →
        value = .ofCell (cellUnder row column.name)) := by
  rw [readFrom_ofRow] at read
  generalize cellUnder row column.name = cell at filled read ⊢
  by_cases missing : cell = .null
  · subst missing
    have nullable : column.nullable = true := by
      cases declared : column.nullable with
      | true => rfl
      | false => exact absurd rfl (filled declared)
    have same : value = .null := (Except.ok.inj ((readAs_null nullable).symm.trans read)).symm
    have changes : staysAsRead column.semanticType .null = false := by
      cases column.semanticType <;> rfl
    rw [changes]
    refine ⟨iff_of_true (.inr ⟨nullable, same⟩) rfl, ?_⟩
    exact fun stays => absurd stays Bool.false_ne_true
  · obtain ⟨types, unchanged⟩ := readAs_types missing read
    refine ⟨?_, unchanged⟩
    rw [← types]
    refine ⟨?_, .inl⟩
    rintro (typed | ⟨-, same⟩)
    · exact typed
    · -- The value of a cell that is not null is not null, whether it stays or is converted.
      cases stays : staysAsRead column.semanticType cell with
      | false => exact types.mpr stays
      | true =>
          have present := ofCell_isNull missing
          rw [← unchanged stays, same] at present
          cases present

namespace Deployment

variable {site : Deployment}

/-- **The types of properties.** Let the columns of a table have distinct properties, and let a row
hold a cell that is not null for each column that cannot be null. If the object of the row is made,
the property of every column holds a value of the type of the column, or the null that the column
may hold, exactly if the cell is not one that stays as it is; of such a cell it holds the value as
it came. -/
theorem callStatic_fromRecord_types {link object : Value} {row : Row} {before after : Log}
    (distinct : (site.table.columns.map site.plan.propertyName).Nodup)
    (filled : ∀ column ∈ site.table.columns, column.nullable = false →
      cellUnder row column.name ≠ .null)
    (made : site.scene.callStatic fromRecordName
      (site.plan.fromRecordArgs link (Value.ofRow row)) before = .ok object after) :
    ∀ column ∈ site.table.columns, ∃ value,
      object.member? (site.plan.propertyName column) = some value ∧
        (HoldsType column value ↔
          staysAsRead column.semanticType (cellUnder row column.name) = false) ∧
        (staysAsRead column.semanticType (cellUnder row column.name) = true →
          value = .ofCell (cellUnder row column.name)) := by
  intro column member
  obtain ⟨stored, -⟩ := callStatic_fromRecord_eq_ok_iff.mp made
  obtain ⟨value, read, held⟩ := member?_objectOf distinct stored member
  exact ⟨value, held, readFrom_types (filled column member) read⟩

/-- The visit is made of its row, and each of its properties holds a value of its type or null. -/
theorem callStatic_fromRecord_types_visits :
    visits.scene.callStatic fromRecordName
        (visits.plan.fromRecordArgs .connection (Value.ofRow visitRow)) [] = .ok visit [] ∧
      ∀ column ∈ visits.table.columns, ∃ value,
        visit.member? (visits.plan.propertyName column) = some value ∧
          HoldsType column value := by
  have made : visits.scene.callStatic fromRecordName
      (visits.plan.fromRecordArgs .connection (Value.ofRow visitRow)) [] = .ok visit [] :=
    callStatic_fromRecord_eq_ok_iff.mpr ⟨objectOf_visitRow, rfl⟩
  refine ⟨made, ?_⟩
  intro column member
  have changes : ∀ column ∈ visits.table.columns,
      staysAsRead column.semanticType (cellUnder visitRow column.name) = false := by
    decide
  obtain ⟨value, held, types, -⟩ :=
    callStatic_fromRecord_types (by decide) (by decide) made column member
  exact ⟨value, held, types.mpr (changes column member)⟩

/-- Readings with a ratio, a flag and a label, all of which have to be there. -/
def readings : Deployment :=
  { assembler := {}
    table :=
      { schema := "shop"
        name := "readings"
        columns :=
          [ { name := "ratio", nativeType := "double", extendedType := "double",
              nullable := false, comment := "", isPrimary := false },
            { name := "active", nativeType := "tinyint", extendedType := "tinyint(1)",
              nullable := false, comment := "", isPrimary := false },
            { name := "label", nativeType := "varchar", extendedType := "varchar(20)",
              nullable := false, comment := "", isPrimary := false } ]
        loaded := true }
    target := {} }

/-- A reading whose cells are all of other types than their columns. -/
def readingRow : Row :=
  ⟨[("ratio", .bool true), ("active", .float (.ofInt 1)), ("label", .bool true)]⟩

def reading : Value :=
  .object "readings" [("ratio", .bool true), ("active", .float (.ofInt 1)), ("label", .bool true)]

/-- The object of the reading is made, though none of its properties holds a value of its type. -/
theorem fromRecord_mistypes_reading :
    (readings.table.columns.map readings.plan.propertyName).Nodup ∧
      (∀ column ∈ readings.table.columns, cellUnder readingRow column.name ≠ .null) ∧
      readings.scene.callStatic fromRecordName
        (readings.plan.fromRecordArgs .connection (Value.ofRow readingRow)) [] =
          .ok reading [] ∧
      ∀ column ∈ readings.table.columns, ∃ value,
        reading.member? (readings.plan.propertyName column) = some value ∧
          ¬ HoldsType column value := by
  have distinct : (readings.table.columns.map readings.plan.propertyName).Nodup := by decide
  have filled : ∀ column ∈ readings.table.columns, cellUnder readingRow column.name ≠ .null := by
    decide
  have stay : ∀ column ∈ readings.table.columns,
      staysAsRead column.semanticType (cellUnder readingRow column.name) = true := by
    decide
  have stored : readings.objectOf .connection (Value.ofRow readingRow) = .ok reading := rfl
  refine ⟨distinct, filled, callStatic_fromRecord_eq_ok_iff.mpr ⟨stored, rfl⟩, ?_⟩
  intro column member
  obtain ⟨value, read, held⟩ := member?_objectOf distinct stored member
  obtain ⟨types, -⟩ := readFrom_types (fun _ => filled column member) read
  refine ⟨value, held, fun typed => ?_⟩
  exact absurd (stay column member) (Bool.eq_false_iff.mp (types.mp typed))

end Deployment

end DataAccess.Members
