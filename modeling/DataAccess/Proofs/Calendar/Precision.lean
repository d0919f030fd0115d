import DataAccess.Proofs.Calendar.ReadBack

/-!
# What the texts of a timestamp keep

Each text of a timestamp keeps all of it down to a unit: the SQL text the second, the text for
exchange the millisecond. The timestamp is read back as the one cut to that unit, whatever its year
and its fraction of a second, in a leap second too, and also where white space stands around the
text (`timestamp?_written`).
-/

namespace DataAccess.Calendar

open Text

/-- Whether the second timestamp is the first one with the nanoseconds that its clock shows cut to
a multiple of the unit. A leap second stays one. -/
def Timestamp.IsCutTo (unit : Nat) (t cut : Timestamp) : Prop :=
  cut.date = t.date ∧ cut.time.hour = t.time.hour ∧ cut.time.minute = t.time.minute ∧
    cut.time.second = t.time.second ∧ cut.time.isLeap = t.time.isLeap ∧
    cut.time.shownNano = t.time.shownNano / unit * unit

instance (unit : Nat) (t cut : Timestamp) : Decidable (t.IsCutTo unit cut) := by
  unfold Timestamp.IsCutTo; infer_instance

/-- The time without its fraction of a second. -/
def TimeOfDay.toSecond (time : TimeOfDay) : TimeOfDay :=
  { time with
    nano := time.nano - time.shownNano
    valid := time.isTime_sub _ }

def Timestamp.toSecond (t : Timestamp) : Timestamp :=
  { t with time := t.time.toSecond }

theorem TimeOfDay.isLeap_toSecond (time : TimeOfDay) : time.toSecond.isLeap = time.isLeap := by
  obtain ⟨hour, minute, second, nano, valid⟩ := time
  by_cases leap : nanosPerSecond ≤ nano
  · have still : nanosPerSecond ≤ nano - (nano - nanosPerSecond) := by omega
    simp only [toSecond, shownNano, isLeap, leap, still, decide_true, ↓reduceIte]
  · have still : ¬nanosPerSecond ≤ nano - nano := by
      rw [Nat.sub_self]
      decide
    simp only [toSecond, shownNano, isLeap, leap, still, decide_false, Bool.false_eq_true,
      ↓reduceIte]

theorem TimeOfDay.isLeap_toMilli (time : TimeOfDay) : time.toMilli.isLeap = time.isLeap := by
  have same := time.shown_toMilli.1
  have second : time.toMilli.second = time.second := rfl
  unfold shownSecond at same
  rw [second] at same
  cases cut : time.toMilli.isLeap <;> cases leap : time.isLeap <;> simp [cut, leap] at same ⊢

theorem TimeOfDay.shownSecond_toSecond (time : TimeOfDay) :
    time.toSecond.shownSecond = time.shownSecond := by
  unfold shownSecond
  rw [time.isLeap_toSecond]
  rfl

theorem TimeOfDay.shownNano_toSecond (time : TimeOfDay) : time.toSecond.shownNano = 0 := by
  have nano : time.toSecond.nano = time.nano - time.shownNano := rfl
  unfold shownNano
  rw [time.isLeap_toSecond, nano]
  unfold shownNano
  split <;> omega

theorem Timestamp.isCutTo_toSecond (t : Timestamp) : t.IsCutTo nanosPerSecond t.toSecond := by
  have none : t.time.shownNano / nanosPerSecond = 0 := Nat.div_eq_of_lt t.time.shownNano_lt
  refine ⟨rfl, rfl, rfl, rfl, t.time.isLeap_toSecond, ?_⟩
  rw [none, Nat.zero_mul]
  exact t.time.shownNano_toSecond

theorem Timestamp.isCutTo_toMilli (t : Timestamp) : t.IsCutTo nanosPerMilli t.toMilli :=
  ⟨rfl, rfl, rfl, rfl, t.time.isLeap_toMilli, t.time.shown_toMilli.2⟩

/-- The SQL text shows no fraction of a second. -/
theorem Timestamp.sqlText_toSecond (t : Timestamp) : t.toSecond.sqlText = t.sqlText := by
  have shown : t.toSecond.time.chars = t.time.chars := by
    unfold TimeOfDay.chars
    rw [Timestamp.toSecond, t.time.shownSecond_toSecond]
    rfl
  rw [sqlText, sqlText, sqlChars, sqlChars, shown]
  rfl

/-- White space around a text makes no difference to the timestamp that is read. -/
theorem timestamp?_surrounded {before after : String} (text : String)
    (blankBefore : ∀ c ∈ before.toList, isBlank c = true)
    (blankAfter : ∀ c ∈ after.toList, isBlank c = true) :
    timestamp? (before ++ text ++ after) = timestamp? text := by
  unfold timestamp? readTimestamp
  rw [String.toList_append, String.toList_append,
    trimChars_surrounded text.toList blankBefore blankAfter]

/-- **Timestamps survive their texts.** Every timestamp is read back from its SQL text as itself cut
to the second, and from its text for exchange as itself cut to the millisecond, also where white
space stands around the text. -/
theorem timestamp?_written (t : Timestamp) {before after : String}
    (blankBefore : ∀ c ∈ before.toList, isBlank c = true)
    (blankAfter : ∀ c ∈ after.toList, isBlank c = true) :
    timestamp? (before ++ t.sqlText ++ after) = some t.toSecond ∧
      timestamp? (before ++ t.isoText ++ after) = some t.toMilli ∧
      t.IsCutTo nanosPerSecond t.toSecond ∧ t.IsCutTo nanosPerMilli t.toMilli := by
  refine ⟨?_, ?_, t.isCutTo_toSecond, t.isCutTo_toMilli⟩
  · have whole : t.toSecond.IsWhole := t.time.shownNano_toSecond
    rw [timestamp?_surrounded _ blankBefore blankAfter, ← t.sqlText_toSecond]
    exact timestamp?_sqlText whole
  · rw [timestamp?_surrounded _ blankBefore blankAfter]
    exact timestamp?_isoText t

/-- The last nanosecond of a leap second, two years before the year one. -/
def lateLeapSecond : Timestamp :=
  ⟨⟨-1, 12, 31, by decide⟩, ⟨23, 59, 59, 1999999999, by decide⟩⟩

theorem timestamp?_written_lateLeapSecond :
    (∀ c ∈ "\t ".toList, isBlank c = true) ∧ (∀ c ∈ "\n".toList, isBlank c = true) ∧
      timestamp? ("\t " ++ "-0001-12-31 23:59:60" ++ "\n") =
        some ⟨⟨-1, 12, 31, by decide⟩, ⟨23, 59, 59, 1000000000, by decide⟩⟩ ∧
      timestamp? ("\t " ++ "-0001-12-31T23:59:60.999Z" ++ "\n") =
        some ⟨⟨-1, 12, 31, by decide⟩, ⟨23, 59, 59, 1999000000, by decide⟩⟩ := by
  have before : ∀ c ∈ "\t ".toList, isBlank c = true := List.all_eq_true.mp rfl
  have after : ∀ c ∈ "\n".toList, isBlank c = true := List.all_eq_true.mp rfl
  obtain ⟨second, milli, -⟩ := timestamp?_written lateLeapSecond before after
  exact ⟨before, after, second, milli⟩

end DataAccess.Calendar
