import DataAccess.Proofs.Evaluation.Progress
import DataAccess.Proofs.Members.Fetching
import DataAccess.Proofs.Members.Mutation
import DataAccess.Proofs.Members.Serialization

/-!
# Objects that own their connection

Whatever values it is given, a step of generated code ends with a value or fails on data, as long
as the objects in it are of the class and own their connection (`Plan.Owns`). Objects that are made
from rows do, and requests can be prepared for objects that do.
-/

namespace DataAccess.Members

open Code Schema Evaluation

section Values

variable {column : Column}

/-- Writing a moment does not call methods or send requests. -/
theorem settles_momentText (form : TimestampForm) (value : Value) :
    Settles (fun _ => True) (momentText form value) := by
  cases value with
  | dateTime moment => exact .value trivial
  | _ => exact .failure (.typeMismatch _ _)

theorem settles_momentOf (value : Value) : Settles (fun _ => True) (momentOf value) := by
  cases value with
  | text text =>
      rw [momentOf]
      split
      · exact .value trivial
      · exact .failure (.invalidTimestamp text)
  | dateTime moment => exact .value trivial
  | _ => exact .failure (.typeMismatch _ _)

theorem settles_castTextToInt (text : String) : Settles (fun _ => True) (castTextToInt text) := by
  rw [castTextToInt]
  split
  · exact .value trivial
  · exact .failure (.typeMismatch _ _)

theorem settles_castTextToFloat (text : String) :
    Settles (fun _ => True) (castTextToFloat text) := by
  rw [castTextToFloat]
  split
  · exact .value trivial
  · exact .failure (.typeMismatch _ _)

/-- A cast gives a value or a conversion failure. -/
theorem settles_cast (value : Value) (type : Ty) : Settles (fun _ => True) (cast value type) := by
  fun_induction cast value type with
  | case2 value inner _ ih => exact ih
  | case3 text => exact settles_castTextToInt text
  | case6 text => exact settles_castTextToFloat text
  | _ => exact .value trivial

theorem settles_isPositive (value : Value) : Settles (fun _ => True) (isPositive value) := by
  rw [isPositive]
  split
  · exact .value trivial
  · exact .failure (.typeMismatch _ _)

/-- Looking a cell up gives a value or a conversion failure. -/
theorem settles_cellIn (key : String) (record : Value) :
    Settles (fun _ => True) (cellIn key record) := by
  cases record with
  | map entries => exact .value trivial
  | _ => exact .failure (.typeMismatch _ _)

/-- A conversion that is guarded against null settles as the conversion does. -/
theorem settles_guarded {convert : Value → Except EvalError Value}
    (converts : ∀ value, Settles (fun _ => True) (convert value)) (value : Value) :
    Settles (fun _ => True) (guarded column convert value) := by
  rw [guarded]
  split
  · exact .value trivial
  · exact converts value

/-- Writing the value of a column gives a value or a conversion failure. -/
theorem settles_writtenAs (form : TimestampForm) (column : Column) (value : Value) :
    Settles (fun _ => True) (writtenAs form column value) := by
  rw [writtenAs]
  split
  · exact settles_guarded (settles_momentText form) value
  · exact .value trivial

/-- Reading the value of a column gives a value or a conversion failure. -/
theorem settles_readFrom (record : Value) (column : Column) :
    Settles (fun _ => True) (readFrom record column) := by
  refine (settles_cellIn column.name record).bind fun cell _ => ?_
  rw [readAs]
  refine settles_guarded (fun value => ?_) cell
  split
  · exact settles_momentOf value
  · exact settles_cast value _

end Values

/-- An object of the class, with the connection as its own where the class keeps one. -/
inductive Plan.Owns (plan : Plan) : Value → Prop where
  | object {fields : Entries Value}
      (connected : plan.isBound = true →
        fieldIn connectionName (.object plan.className fields) = .ok .connection) :
      Owns plan (.object plan.className fields)

/-- The objects in a result: the result itself, or the items of a list. -/
inductive ObjectIn : Value → Value → Prop where
  | alone (className : String) (fields : Entries Value) :
      ObjectIn (.object className fields) (.object className fields)
  | item {className : String} {fields : Entries Value} {items : List Value}
      (member : .object className fields ∈ items) :
      ObjectIn (.list items) (.object className fields)

/-- Every object in a result owns its connection. -/
def Plan.GivesOwn (plan : Plan) (result : Value) : Prop :=
  ∀ object, ObjectIn result object → plan.Owns object

/-- The end of a method: the objects in its result own their connection, and so does its receiver
afterwards. -/
structure Plan.Leaves (plan : Plan) (outcome : Value × Option Value) : Prop where
  result : plan.GivesOwn outcome.1
  receiver : ∀ object, outcome.2 = some object → plan.Owns object

/-- A value without objects in it, such as a cell of a row. -/
inductive IsScalar : Value → Prop where
  | null : IsScalar .null
  | bool (value : Bool) : IsScalar (.bool value)
  | int (value : Int64) : IsScalar (.int value)
  | float (value : Numeral.Binary64) : IsScalar (.float value)
  | text (value : String) : IsScalar (.text value)

namespace Plan

variable {plan : Plan} {result : Value}

/-- Objects of the class are its own values. -/
theorem givesOwn_of_owns (owns : plan.Owns result) : plan.GivesOwn result := by
  intro object within
  cases owns with
  | object connected =>
      cases within
      exact .object connected

/-- Scalars belong to no other class. -/
theorem givesOwn_of_scalar (scalar : IsScalar result) : plan.GivesOwn result := by
  intro object within
  cases scalar <;> cases within

/-- Maps belong to no other class. -/
theorem givesOwn_map (entries : Entries Value) : plan.GivesOwn (.map entries) := by
  intro object within
  cases within

/-- Lists of objects of the class are its own values. -/
theorem givesOwn_list {items : List Value} (own : ∀ item ∈ items, plan.Owns item) :
    plan.GivesOwn (.list items) := by
  intro object within
  cases within with
  | item member => exact own _ member

end Plan

/-- A cell holds a scalar. -/
theorem isScalar_ofCell (cell : Database.Cell) : IsScalar (Value.ofCell cell) := by
  cases cell with
  | null => exact .null
  | bool value => exact .bool value
  | int value => exact .int value
  | uint value =>
      rw [Value.ofCell, Value.ofUnsigned]
      cases Numeral.toInt64? value.toNat with
      | none => exact .float _
      | some number => exact .int number
  | float value => exact .float value
  | text value => exact .text value
  | bytes value => exact .text _

/-- Scalars are converted to scalars. -/
theorem isScalar_cast {value : Value} (scalar : IsScalar value) :
    Settles IsScalar (cast value .int) := by
  cases scalar with
  | null => exact .value .null
  | bool value => exact .value (.int _)
  | int value => exact .value (.int value)
  | float value => exact .value (.float value)
  | text text =>
      rw [Evaluation.cast, castTextToInt]
      split
      · exact .value (.int _)
      · exact .failure (.typeMismatch _ _)

namespace Deployment

variable {site : Deployment}

/-- Objects that are made from rows own the connection that they are made with. -/
theorem settles_objectOf (site : Deployment) (record : Value) :
    Settles site.plan.Owns (site.objectOf .connection record) := by
  cases made : site.objectOf .connection record with
  | ok object =>
      obtain ⟨values, -, rfl⟩ := objectOf_eq_ok made
      exact .value (.object fun bound => fieldIn_connection_objectOf bound made)
  | error failure =>
      have settles : Settles (fun _ => True) (site.objectOf .connection record) :=
        (Settles.mapM fun column _ => settles_readFrom record column).bind
          fun values _ => .value trivial
      rw [made] at settles
      cases settles with
      | failure data => exact .failure data

/-- The objects that are made of rows belong to the class. -/
theorem settles_objects (site : Deployment) :
    Settles (fun objects => ∀ object ∈ objects, site.plan.Owns object)
      (site.objects .connection) :=
  Settles.mapM fun row _ => settles_objectOf site (Value.ofRow row)

/-- The object that is made of the first row belongs to the class. -/
theorem settles_firstObject (site : Deployment) :
    Settles site.plan.GivesOwn (site.firstObject .connection) := by
  rw [firstObject]
  cases site.rows with
  | nil => exact .value (Plan.givesOwn_of_scalar .null)
  | cons row rest => exact (settles_objectOf site _).imp fun _ => Plan.givesOwn_of_owns

/-- The count of records is a scalar. -/
theorem settles_firstCount (site : Deployment) : Settles IsScalar site.firstCount := by
  rw [firstCount]
  cases site.rows with
  | nil => exact .value (.int 0)
  | cons row rest =>
      have cell : Settles IsScalar (cellIn "count" (Value.ofRow row)) := by
        rw [Value.ofRow, cellIn, Entries.find?_ofList]
        refine .value ?_
        cases last : Entries.last? "count"
            (row.cells.map fun cell => (cell.1, Value.ofCell cell.2)) with
        | none => exact .null
        | some value =>
            obtain ⟨cell, -, same⟩ := List.mem_map.mp (Entries.mem_of_last? last)
            obtain ⟨-, rfl⟩ := Prod.mk.inj same
            exact isScalar_ofCell cell.2
      exact cell.bind fun value scalar => isScalar_cast scalar

end Deployment

namespace Plan

variable {plan : Plan}

/-- Binding keys gives values or a conversion failure. -/
theorem settles_boundKeys (plan : Plan) (columns : List Column) (keys : List Value) :
    Settles (fun _ => True) (plan.boundKeys columns keys) :=
  (Settles.mapM fun column _ => settles_writtenAs .sql column _).imp fun _ _ => trivial

/-- Adding a page clause gives a draft or a conversion failure. -/
theorem settles_paged (style : Sql.Style) (clause : Sql.PageClause) (value : Value)
    (draft : Draft) : Settles (fun _ => True) (draft.paged style clause value) := by
  refine (settles_isPositive value).bind fun positive _ => ?_
  cases positive with
  | true => exact .value trivial
  | false => exact .value trivial

/-- Preparing the request for a page gives it or a conversion failure. -/
theorem settles_pageRequest (plan : Plan) (columns : List Column) (keys : List Value)
    (count skip : Value) :
    Settles (fun _ => True) (plan.pageRequest columns .connection keys count skip) := by
  refine (settles_boundKeys plan columns keys).bind fun params _ => ?_
  refine (settles_paged _ _ _ _).bind fun limited _ => ?_
  refine (settles_paged _ _ _ _).bind fun draft _ => ?_
  exact .value trivial

/-- Preparing the request for a record gives it or a conversion failure. -/
theorem settles_keyRequest (plan : Plan) (columns : List Column) (keys : List Value) :
    Settles (fun _ => True) (plan.keyRequest columns .connection keys) :=
  (settles_boundKeys plan columns keys).bind fun _ _ => .value trivial

/-- A mutator of an object that owns its connection, or that is passed the connection, prepares its
request unless a value cannot be bound. -/
theorem settles_mutation (name : String) (statement : Sql.Statement) (columns : List Column)
    {this : Value} {args : List Value} (owns : plan.Owns this)
    (passed : plan.isBound = false → args.head? = some .connection) :
    Settles (fun _ => True) (plan.mutation name statement columns this args) := by
  cases owns with
  | @object fields connected =>
      have link : plan.mutatorLink name (.object plan.className fields) args =
          .ok .connection := by
        cases bound : plan.isBound with
        | true =>
            simp only [mutatorLink, bound, ↓reduceIte]
            exact connected bound
        | false =>
            obtain ⟨rest, rfl⟩ := List.head?_eq_some_iff.mp (passed bound)
            simp only [mutatorLink, bound, Bool.false_eq_true, ↓reduceIte]
      have params : Settles (fun _ => True)
          (columns.mapM (plan.boundProperty (.object plan.className fields))) := by
        have each (column : Column) : Settles (fun _ => True)
            (plan.boundProperty (.object plan.className fields) column) := by
          rw [boundProperty, fieldIn, ok_bind]
          exact settles_writtenAs .sql column _
        exact (Settles.mapM fun column _ => each column).imp fun _ _ => trivial
      rw [mutation, link, ok_bind]
      exact params.bind fun values _ => .value trivial

/-- What is serialized of an object of the class is its own value. -/
theorem settles_serialized {object : Value} (owns : plan.Owns object) :
    Settles plan.GivesOwn (plan.serialized object) := by
  cases owns with
  | @object fields connected =>
      have entry (column : Column) :
          Settles (fun _ => True)
            (plan.serializedEntry (.object plan.className fields) column) := by
        rw [serializedEntry, fieldIn, ok_bind]
        exact (settles_writtenAs .iso column _).bind fun written _ => .value trivial
      rw [serialized]
      exact (Settles.mapM fun column _ => entry column).bind fun entries _ =>
        .value (givesOwn_map _)

end Plan

end DataAccess.Members
