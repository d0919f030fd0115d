import DataAccess.Database.Connection
import DataAccess.Entries
import DataAccess.Proofs.Text.ByteOrder
import DataAccess.Sql.Statement

/-!
# Executing selections

What a selection gives on relations. A selection is resolved first: its table, the columns that it
mentions and its bound values, one for each condition that has a placeholder, in order. Then the
records that satisfy every condition are kept, sorted stably by the columns of the order, and
projected to the items under their labels.
-/

namespace DataAccess.Sql

open Database

/-- A value in a record. -/
inductive Datum where
  | null
  | number (value : Int)
  | text (value : String)
  deriving DecidableEq

namespace Datum

/-- The value that a bound cell stands for. Truth values are numbers; floats and bytes are not
compared with anything here. -/
def ofCell? : Cell → Option Datum
  | .null => some .null
  | .bool value => some (.number (if value then 1 else 0))
  | .int value => some (.number value.toInt)
  | .uint value => some (.number value.toNat)
  | .text value => some (.text value)
  | .float _ | .bytes _ => none

@[simp] theorem ofCell?_text (value : String) : ofCell? (.text value) = some (.text value) := rfl

/-- The cell of a result row that holds the value. -/
@[simp] def cell : Datum → Cell
  | null => .null
  | number value => .int (Int64.ofInt value)
  | text value => .text value

/-- Equality in a condition. Null equals nothing, not even null. -/
def equals (left right : Datum) : Bool :=
  left != null && left == right

@[simp] theorem text_bne_null (value : String) : (text value != null) = true := rfl

@[simp] theorem equals_text (left right : String) :
    (text left).equals (text right) = (left == right) := by
  rw [Bool.eq_iff_iff]
  simp [equals]

@[simp] theorem equals_number (left right : Int) :
    (number left).equals (number right) = (left == right) := by
  rw [Bool.eq_iff_iff]
  simp [equals]

/-- The order of sorting: null, then numbers by size, then texts by their bytes. -/
def upTo : Datum → Datum → Bool
  | null, _ => true
  | number _, null => false
  | number left, number right => decide (left ≤ right)
  | number _, text _ => true
  | text _, null | text _, number _ => false
  | text left, text right => Text.byBytes left right

theorem upTo_total (left right : Datum) : (left.upTo right || right.upTo left) = true := by
  cases left <;> cases right <;> first | rfl | skip
  case number.number left right =>
    simp only [upTo, Bool.or_eq_true, decide_eq_true_eq]
    omega
  case text.text left right => exact Text.byBytes_total left right

theorem upTo_trans {first second third : Datum} (here : first.upTo second = true)
    (there : second.upTo third = true) : first.upTo third = true := by
  cases first <;> cases second <;> cases third <;> simp only [upTo] at here there ⊢ <;>
    first | exact absurd here Bool.false_ne_true | exact absurd there Bool.false_ne_true | skip
  case number.number.number first second third =>
    simp only [decide_eq_true_eq] at here there ⊢
    omega
  case text.text.text first second third => exact Text.byBytes_trans here there

theorem upTo_antisymm {left right : Datum} (here : left.upTo right = true)
    (there : right.upTo left = true) : left = right := by
  cases left <;> cases right <;> simp only [upTo] at here there <;>
    first
    | rfl
    | exact absurd here Bool.false_ne_true
    | exact absurd there Bool.false_ne_true
    | skip
  case number.number left right =>
    simp only [decide_eq_true_eq] at here there
    have same : left = right := by omega
    rw [same]
  case text.text left right => rw [Text.byBytes_antisymm here there]

end Datum

/-- Records with named attributes. -/
structure Relation where
  Record : Type
  attributes : Entries (Record → Datum)
  records : List Record

namespace Relation

variable (relation : Relation)

/-- The attribute of a name, if the relation has it. -/
@[simp] def attribute? (name : String) : Option (relation.Record → Datum) :=
  Entries.find? name relation.attributes

/-- The tests of conditions with values bound by position. Every value has to be used. -/
@[simp] def tests? : List Condition → List Datum → Option (List (relation.Record → Bool))
  | [], [] => some []
  | .eq column :: conditions, value :: values => do
    let field ← relation.attribute? column
    let tests ← tests? conditions values
    some ((fun record => (field record).equals value) :: tests)
  | .nullSafeEq column :: conditions, value :: values => do
    let field ← relation.attribute? column
    let tests ← tests? conditions values
    some ((fun record => field record == value) :: tests)
  | .notNull column :: conditions, values => do
    let field ← relation.attribute? column
    let tests ← tests? conditions values
    some ((fun record => field record != .null) :: tests)
  | _, _ => none

/-- An item as an attribute under its label. Counts are no attributes of a record. -/
@[simp] def output? : SelectItem → Option (String × (relation.Record → Datum))
  | .column name label => (relation.attribute? name).map (label.getD name, ·)
  | .countDistinct _ _ => none

/-- The items of a selection; every attribute where there are none. -/
@[simp] def outputs? (items : List SelectItem) : Option (Entries (relation.Record → Datum)) :=
  if items.isEmpty then some relation.attributes else items.mapM relation.output?

end Relation

/-- The order by the first key in which two records differ. -/
def upToBy {ρ : Type} : List (ρ → Datum) → ρ → ρ → Bool
  | [], _, _ => true
  | key :: keys, left, right =>
    if key left = key right then upToBy keys left right else (key left).upTo (key right)

section Order

variable {ρ : Type} (keys : List (ρ → Datum))

/-- Records that are sorted by a text are sorted by its bytes. -/
theorem upToBy_text (text : ρ → String) :
    upToBy [fun record => .text (text record)] =
      fun left right => Text.byBytes (text left) (text right) := by
  funext left right
  simp only [upToBy, Datum.text.injEq, Datum.upTo]
  split
  · rename_i same
    rw [same, Text.byBytes_refl]
  · rfl

theorem upToBy_map {ι : Type} (view : ι → ρ) (left right : ι) :
    upToBy (keys.map fun key record => key (view record)) left right =
      upToBy keys (view left) (view right) := by
  induction keys with
  | nil => rfl
  | cons key keys ih => rw [List.map_cons, upToBy, upToBy, ih]

theorem upToBy_total (left right : ρ) :
    (upToBy keys left right || upToBy keys right left) = true := by
  induction keys with
  | nil => rfl
  | cons key keys ih =>
      by_cases level : key left = key right
      · rw [upToBy, upToBy, if_pos level, if_pos level.symm]
        exact ih
      · rw [upToBy, upToBy, if_neg level, if_neg (Ne.symm level)]
        exact Datum.upTo_total _ _

theorem upToBy_trans (first second third : ρ) (here : upToBy keys first second = true)
    (there : upToBy keys second third = true) : upToBy keys first third = true := by
  induction keys with
  | nil => rfl
  | cons key keys ih =>
      rw [upToBy] at here there ⊢
      by_cases level : key first = key second
      · rw [if_pos level] at here
        rw [level]
        by_cases levelToo : key second = key third
        · rw [if_pos levelToo] at there ⊢
          exact ih here there
        · rw [if_neg levelToo] at there ⊢
          exact there
      · rw [if_neg level] at here
        by_cases levelToo : key second = key third
        · rw [← levelToo, if_neg level]
          exact here
        · rw [if_neg levelToo] at there
          -- The first and the last are not level, or all three would be.
          have apart : key first ≠ key third := by
            intro same
            rw [same] at here
            exact levelToo (Datum.upTo_antisymm there here)
          rw [if_neg apart]
          exact Datum.upTo_trans here there

end Order

/-- The rows of a selection on the relations with the cells bound, if everything that the selection
mentions is there. -/
def Select.execute (relations : TableRef → Option Relation) (statement : Select)
    (values : List Cell) : Option (List Row) :=
  match relations statement.table with
  | none => none
  | some relation => do
    let bound ← values.mapM Datum.ofCell?
    let tests ← relation.tests? statement.conditions bound
    let keys ← statement.orderBy.mapM relation.attribute?
    let outputs ← relation.outputs? statement.items
    let kept := relation.records.filter fun record => tests.all fun test => test record
    let sorted := kept.mergeSort (upToBy keys)
    some (sorted.map fun record =>
      ⟨outputs.map fun (label, output) => (label, (output record).cell)⟩)

end DataAccess.Sql
