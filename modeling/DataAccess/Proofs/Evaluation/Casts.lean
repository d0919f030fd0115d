import DataAccess.Evaluation.Cast

/-!
# Values that a cast leaves alone

Whether a cast leaves a value as it is depends on the kind of the value and on the type alone
(`isLeftBy`). Whatever a cast gives is such a value, so a cast changes nothing that was cast to the
same type before (`cast_stable`).
-/

namespace DataAccess.Evaluation

open Code

theorem castTextToInt_eq_ok {text : String} {result : Value}
    (read : castTextToInt text = .ok result) : ∃ number, result = .int number := by
  rw [castTextToInt] at read
  split at read
  · exact ⟨_, (Except.ok.inj read).symm⟩
  · cases read

theorem castTextToFloat_eq_ok {text : String} {result : Value}
    (read : castTextToFloat text = .ok result) : ∃ number, result = .float number := by
  rw [castTextToFloat] at read
  split at read
  · exact ⟨_, (Except.ok.inj read).symm⟩
  · cases read

/-- Whether a cast to the type leaves the value as it is. -/
def Value.isLeftBy : Value → Ty → Bool
  | value, .nullable inner => value.isNull || value.isLeftBy inner
  | .text _, .int | .bool _, .int => false
  | .int _, .float | .text _, .float => false
  | .int _, .bool | .text _, .bool => false
  | .int _, .text | .float _, .text => false
  | _, _ => true

theorem cast_nullable {value : Value} (present : value.isNull = false) (inner : Ty) :
    cast value (.nullable inner) = cast value inner := by
  cases value with
  | null => cases present
  | _ => rfl

theorem cast_of_isLeftBy {value : Value} {type : Ty} (left : value.isLeftBy type = true) :
    cast value type = .ok value := by
  induction type with
  | nullable inner ih =>
      cases null : value.isNull with
      | true =>
          cases value with
          | null => rfl
          | _ => cases null
      | false =>
          rw [Value.isLeftBy, null, Bool.false_or] at left
          rw [cast_nullable null, ih left]
  | int =>
      cases value with
      | text _ | bool _ => cases left
      | _ => rfl
  | float | bool =>
      cases value with
      | int _ | text _ => cases left
      | _ => rfl
  | text =>
      cases value with
      | int _ | float _ => cases left
      | _ => rfl
  | _ => cases value <;> rfl

/-- A cast gives values that it leaves as they are. -/
theorem isLeftBy_of_cast {value result : Value} {type : Ty} (made : cast value type = .ok result) :
    result.isLeftBy type = true := by
  induction type with
  | nullable inner ih =>
      rw [Value.isLeftBy, Bool.or_eq_true]
      cases null : value.isNull with
      | true =>
          cases value with
          | null =>
              cases made
              exact .inl rfl
          | _ => cases null
      | false =>
          rw [cast_nullable null] at made
          exact .inr (ih made)
  | int =>
      cases value with
      | text text =>
          obtain ⟨number, rfl⟩ := castTextToInt_eq_ok made
          rfl
      | _ =>
          cases made
          rfl
  | float =>
      cases value with
      | text text =>
          obtain ⟨number, rfl⟩ := castTextToFloat_eq_ok made
          rfl
      | _ =>
          cases made
          rfl
  | _ =>
      cases value with
      | _ =>
          cases made
          rfl

/-- A cast leaves a value as it is exactly if the kind of the value says so. -/
theorem cast_eq_self_iff {value : Value} {type : Ty} :
    cast value type = .ok value ↔ value.isLeftBy type = true :=
  ⟨isLeftBy_of_cast, cast_of_isLeftBy⟩

/-- **What was cast to a type stays as it is when it is cast to that type again.** -/
theorem cast_stable {value result : Value} {type : Ty} (made : cast value type = .ok result) :
    cast result type = .ok result :=
  cast_eq_self_iff.mpr (isLeftBy_of_cast made)

/-- A text with white space around its number, for a type that allows null twice. -/
theorem cast_stable_text :
    cast (.text "\t-0.50 ") (.nullable (.nullable .float)) =
        .ok (.float ⟨0xBFE0000000000000⟩) ∧
      cast (.float ⟨0xBFE0000000000000⟩) (.nullable (.nullable .float)) =
        .ok (.float ⟨0xBFE0000000000000⟩) := by
  have made : cast (.text "\t-0.50 ") (.nullable (.nullable .float)) =
      .ok (.float ⟨0xBFE0000000000000⟩) := by rfl
  exact ⟨made, cast_stable made⟩

end DataAccess.Evaluation
