import DataAccess.Members.Records
import DataAccess.Proofs.Calendar.ReadBack
import DataAccess.Proofs.Evaluation.Casts
import DataAccess.Proofs.Evaluation.Equations
import DataAccess.Proofs.Numeral.Sign

/-!
# Values of columns

Generated code converts the value of a column in two places: when it is bound into a statement, and
when it is read from a cell of a row. Each conversion is a pure function here (`boundAs`,
`readAs`), and the generated expressions evaluate to exactly that. What is written for a value that
was read can be read again and gives the same value (`readAs_writtenAs`), provided that the written
text of a moment in time leaves nothing of it out: the text that is bound drops fractions of a
second, and the text for exchange what is below a millisecond.
-/

namespace DataAccess.Members

open Code Schema Evaluation

/-- The field of an object or entry of a map; null where it has none of the name. -/
def fieldIn (name : String) : Value → Except EvalError Value
  | .object _ fields => .ok ((Entries.find? name fields).getD .null)
  | .map entries => .ok ((Entries.find? name entries).getD .null)
  | other => .error (.mismatch .object other)

/-- An object with another value of a field. -/
def fieldSet (name : String) (value : Value) : Value → Except EvalError Value
  | .object className fields => .ok (.object className (Entries.insert name value fields))
  | other => .error (.mismatch .object other)

/-- The cell of a row; null where it has none of the name. -/
def cellIn (key : String) : Value → Except EvalError Value
  | .map entries => .ok ((Entries.find? key entries).getD .null)
  | other => .error (.mismatch .row other)

/-- The timestamp that a text spells; a timestamp stays as it is. -/
def momentOf : Value → Except EvalError Value
  | .text text =>
    match Calendar.timestamp? text with
    | some moment => .ok (.dateTime moment)
    | none => .error (.invalidTimestamp text)
  | .dateTime moment => .ok (.dateTime moment)
  | other => .error (.mismatch .timestampText other)

/-- The text of a timestamp in a form. -/
def momentText (form : TimestampForm) : Value → Except EvalError Value
  | .dateTime moment =>
    .ok (.text (match form with
      | .sql => moment.sqlText
      | .iso => moment.isoText))
  | other => .error (.mismatch .dateTime other)

/-- Whether a number is positive; other values have no answer. -/
def isPositive (value : Value) : Except EvalError Bool :=
  match value.number? with
  | some number => .ok (number.above (.ofInt 0))
  | none => .error (.mismatch .number value)

/-- A member that an object has is what its field holds. -/
theorem fieldIn_of_member? {name : String} {target value : Value}
    (held : target.member? name = some value) : fieldIn name target = .ok value := by
  cases target with
  | object className fields => rw [fieldIn, show Entries.find? name fields = some value from held,
      Option.getD_some]
  | map entries => rw [fieldIn, show Entries.find? name entries = some value from held,
      Option.getD_some]
  | _ => cases held

/-- Taking a field is settled at once. -/
theorem fieldOf_eq (name : String) (value : Value) :
    fieldOf name value = settled (fieldIn name value) := by
  cases value <;> rfl

/-- Setting a field is settled at once. -/
theorem withField_eq (name : String) (value target : Value) :
    withField name value target = settled (fieldSet name value target) := by
  cases target <;> rfl

/-- Taking a cell is settled at once. -/
theorem cellOf_eq (key : String) (value : Value) :
    cellOf key value = settled (cellIn key value) := by
  cases value <;> rfl

/-- Reading a moment is settled at once. -/
theorem asTimestamp_eq (value : Value) : asTimestamp value = settled (momentOf value) := by
  cases value with
  | text text =>
      simp only [asTimestamp, momentOf]
      cases Calendar.timestamp? text <;> rfl
  | _ => rfl

/-- Writing a moment is settled at once. -/
theorem formatted_eq (form : TimestampForm) (value : Value) :
    formatted form value = settled (momentText form value) := by
  cases value with
  | dateTime moment => cases form <;> rfl
  | _ => rfl

/-- Whether a value is positive is settled at once. -/
theorem isGreater_zero (value : Value) :
    isGreater value (.int 0) = settled (Value.bool <$> isPositive value) := by
  have zero : Value.number? (.int 0) = some (.ofInt 0) := rfl
  rw [isGreater, zero, isPositive]
  cases value.number? <;> rfl

/-- An integer is positive if it is, also where the comparison rounds it. -/
theorem isPositive_int (n : Int64) : isPositive (.int n) = .ok (decide (0 < n)) := by
  rw [isPositive, Value.number?]
  simp only [Numeral.Binary64.above_zero_ofInt, Int64.lt_iff_toInt_lt, Int64.toInt_zero]

/-- A conversion of the value of a column; null stays null in a column that can be null. -/
def guarded (column : Column) (convert : Value → Except EvalError Value) (value : Value) :
    Except EvalError Value :=
  if column.nullable && value.isNull then .ok .null else convert value

/-- The value of the column with a moment as text in a form, and every other value as it is. -/
def writtenAs (form : TimestampForm) (column : Column) (value : Value) : Except EvalError Value :=
  if column.isTemporal then guarded column (momentText form) value else .ok value

/-- What is bound into a statement for a value of the column. -/
def boundAs (column : Column) (value : Value) : Except EvalError Value :=
  writtenAs .sql column value

/-- The value of the column that a cell holds. -/
def readAs (column : Column) (cell : Value) : Except EvalError Value :=
  guarded column
    (if column.isTemporal then momentOf
      else fun value => cast value (.ofSemantic column.semanticType))
    cell

/-- The value of a column in a record. -/
def readFrom (record : Value) (column : Column) : Except EvalError Value := do
  readAs column (← cellIn column.name record)

section Expressions

variable {around : Surroundings} {frame : Frame}

/-- A guarded conversion evaluates its value, and converts it where it is not a null that the column
may hold. -/
theorem evalExpr_nullGuarded {column : Column} {value : Expr} {convert : Expr → Expr}
    {given : Except EvalError Value} {converted : Value → Except EvalError Value}
    (evaluates : evalExpr around frame value = settled given)
    (converts : evalExpr around frame (convert value) = settled (given >>= converted)) :
    evalExpr around frame (nullGuarded column value convert) =
      settled (given >>= guarded column converted) := by
  cases nullable : column.nullable with
  | false =>
      have plain : guarded column converted = converted := by
        funext value
        simp only [guarded, nullable, Bool.false_and, Bool.false_eq_true, ↓reduceIte]
      rw [nullGuarded, nullable, plain]
      exact converts
  | true =>
      simp only [nullGuarded, nullable, ↓reduceIte, evalExpr, evaluates, converts]
      cases given with
      | error failure => rfl
      | ok value =>
          cases null : value.isNull <;>
            simp [guarded, nullable, null, Value.holds]

/-- What is written of a value is settled where the value is. -/
theorem evalExpr_writtenValue {form : TimestampForm} {column : Column} {value : Expr}
    {given : Except EvalError Value} (evaluates : evalExpr around frame value = settled given) :
    evalExpr around frame (writtenValue form column value) =
      settled (given >>= writtenAs form column) := by
  cases temporal : column.isTemporal with
  | true =>
      have same : writtenAs form column = guarded column (momentText form) := by
        funext value
        rw [writtenAs, temporal, if_pos rfl]
      rw [writtenValue, temporal, if_pos rfl, same]
      apply evalExpr_nullGuarded evaluates
      simp only [evalExpr, evaluates, formatted_eq, settled_bind]
  | false =>
      have same : writtenAs form column = pure := by
        funext value
        rw [writtenAs, temporal]
        rfl
      rw [writtenValue, temporal, same, bind_pure]
      exact evaluates

/-- What is read for a column is settled at once. -/
theorem evalExpr_hydratedValue {column : Column} {record : Value}
    (given : lookup frame "record" = pure record) :
    evalExpr around frame (hydratedValue column) = settled (readFrom record column) := by
  have cell : evalExpr around frame (.index (.var "record") column.name) =
      settled (cellIn column.name record) := by
    simp only [evalExpr, given, pure_bind, cellOf_eq]
  apply evalExpr_nullGuarded cell
  cases temporal : column.isTemporal with
  | true =>
      rw [if_pos rfl, if_pos rfl, evalExpr, cell, settled_bind]
      simp only [asTimestamp_eq]
  | false =>
      rw [if_neg Bool.false_ne_true, if_neg Bool.false_ne_true, evalExpr, cell, settled_bind]

/-- Arguments are settled where each of them is. -/
theorem evalAll_map {α : Type} {expr : α → Expr} {value : α → Except EvalError Value}
    {items : List α}
    (evaluates : ∀ item ∈ items, evalExpr around frame (expr item) = settled (value item)) :
    evalAll around frame (items.map expr) = settled (items.mapM value) := by
  induction items with
  | nil => simp only [List.map_nil, evalAll, List.mapM_nil, settled_pure]
  | cons item rest ih =>
      have later : evalAll around frame (rest.map expr) = settled (rest.mapM value) :=
        ih fun item member => evaluates item (List.mem_cons_of_mem _ member)
      simp only [List.map_cons, evalAll, evaluates item List.mem_cons_self, later,
        List.mapM_cons, settled_bind, settled_pure]

end Expressions

/-- What is read as a moment is one. -/
theorem momentOf_eq_ok {cell value : Value} (read : momentOf cell = .ok value) :
    ∃ moment, value = .dateTime moment := by
  cases cell with
  | text text =>
      rw [momentOf] at read
      split at read
      · exact ⟨_, (Except.ok.inj read).symm⟩
      · cases read
  | dateTime moment => exact ⟨moment, (Except.ok.inj read).symm⟩
  | _ => cases read

/-- Whether the text of a moment in a form leaves nothing of the moment out. -/
def Keeps (form : TimestampForm) (moment : Calendar.Timestamp) : Prop :=
  match form with
  | .sql => moment.IsWhole
  | .iso => moment.IsMilli

/-- A moment that is kept by a form is read back from it. -/
theorem momentOf_momentText {form : TimestampForm} {moment : Calendar.Timestamp}
    (kept : Keeps form moment) :
    ∃ written, momentText form (.dateTime moment) = .ok written ∧ written.isNull = false ∧
      momentOf written = .ok (.dateTime moment) := by
  cases form with
  | sql =>
      refine ⟨.text moment.sqlText, rfl, rfl, ?_⟩
      rw [momentOf, Calendar.timestamp?_sqlText kept]
  | iso =>
      refine ⟨.text moment.isoText, rfl, rfl, ?_⟩
      rw [momentOf, Calendar.timestamp?_isoText, Calendar.Timestamp.toMilli_of_isMilli kept]

/-- **What is written for a value that was read is read as that value again**, if the written text
keeps all of a moment. -/
theorem readAs_writtenAs {form : TimestampForm} {column : Column} {cell value : Value}
    (read : readAs column cell = .ok value)
    (kept : column.isTemporal = true → ∀ moment, value = .dateTime moment → Keeps form moment) :
    ∃ written, writtenAs form column value = .ok written ∧ readAs column written = .ok value := by
  cases temporal : column.isTemporal with
  | false =>
      refine ⟨value, by rw [writtenAs, temporal]; rfl, ?_⟩
      simp only [readAs, temporal, guarded, Bool.false_eq_true, ↓reduceIte] at read ⊢
      cases null : column.nullable && value.isNull with
      | true =>
          have isNull : value.isNull = true := (Bool.and_eq_true_iff.mp null).2
          cases value with
          | null => rfl
          | _ => cases isNull
      | false =>
          rw [if_neg Bool.false_ne_true]
          split at read
          · -- The cell was null, so the value is the null that the column may hold.
            next wasNull =>
              cases read
              rw [(Bool.and_eq_true_iff.mp wasNull).1] at null
              cases null
          · exact cast_of_isLeftBy (isLeftBy_of_cast read)
  | true =>
      simp only [readAs, writtenAs, temporal, guarded, ↓reduceIte] at read ⊢
      split at read
      · next wasNull =>
          cases read
          have nullable : column.nullable = true := (Bool.and_eq_true_iff.mp wasNull).1
          have null : (column.nullable && Value.null.isNull) = true := by
            rw [nullable]
            rfl
          exact ⟨.null, if_pos null, if_pos null⟩
      · obtain ⟨moment, rfl⟩ := momentOf_eq_ok read
        obtain ⟨written, writes, present, again⟩ :=
          momentOf_momentText (kept temporal moment rfl)
        refine ⟨written, ?_, ?_⟩
        · have notNull : (Value.dateTime moment).isNull = false := rfl
          rw [notNull, Bool.and_false, if_neg Bool.false_ne_true]
          exact writes
        · rw [present, Bool.and_false, if_neg Bool.false_ne_true]
          exact again

end DataAccess.Members
