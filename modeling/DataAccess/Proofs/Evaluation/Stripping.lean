import DataAccess.Evaluation.Value
import DataAccess.Proofs.Entries.Stored

/-!
# Values without a field

Objects can be compared without regard to one field, at the top (`Value.withoutField`) or wherever
an object is inside a value (`Value.stripped`).
-/

namespace DataAccess.Evaluation

namespace Value

/-- The object without the field; every other value as it is. -/
def withoutField (name : String) : Value → Value
  | object className fields => object className (Entries.erase name fields)
  | other => other

mutual

/-- The value with the field taken out of every object in it. -/
def stripped (name : String) : Value → Value
  | list items => list (strippedItems name items)
  | map entries => map (strippedEntries name entries)
  | object className fields =>
    object className (Entries.erase name (strippedEntries name fields))
  | other => other

def strippedItems (name : String) : List Value → List Value
  | [] => []
  | item :: rest => stripped name item :: strippedItems name rest

def strippedEntry (name : String) : String × Value → String × Value
  | (key, value) => (key, stripped name value)

def strippedEntries (name : String) : List (String × Value) → List (String × Value)
  | [] => []
  | entry :: rest => strippedEntry name entry :: strippedEntries name rest

end

theorem strippedItems_eq (name : String) (items : List Value) :
    strippedItems name items = items.map (stripped name) := by
  induction items with
  | nil => rfl
  | cons item rest ih => rw [strippedItems, ih, List.map_cons]

theorem strippedEntries_erase (name : String) (entries : Entries Value) :
    strippedEntries name (Entries.erase name entries) =
      Entries.erase name (strippedEntries name entries) := by
  induction entries with
  | nil => rfl
  | cons entry rest ih =>
      obtain ⟨key, value⟩ := entry
      by_cases same : key = name
      · subst same
        rw [Entries.erase_cons_self, strippedEntries, strippedEntry, Entries.erase_cons_self, ih]
      · rw [Entries.erase_cons_of_ne same, strippedEntries, strippedEntries, strippedEntry,
          Entries.erase_cons_of_ne same, ih]

theorem stripped_withoutField (name : String) (value : Value) :
    (value.withoutField name).stripped name = value.stripped name := by
  cases value with
  | object className fields =>
      rw [withoutField, stripped, stripped, strippedEntries_erase, Entries.erase_erase]
  | _ => rfl

end Value

end DataAccess.Evaluation
