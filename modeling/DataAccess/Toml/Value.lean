import DataAccess.Entries
import DataAccess.Text.Basic

/-!
# TOML values

What a configuration text says, once it is read: tables hold their entries in the order of their
keys.
-/

namespace DataAccess

/-- A value of a configuration. -/
inductive Toml where
  | text (value : String)
  | integer (value : Int)
  /-- A floating-point number. -/
  | float
  | bool (value : Bool)
  /-- A date, a time of day or both. -/
  | dateTime
  | array (items : List Toml)
  | table (entries : List (String × Toml))

namespace Toml

/-- The text that a value is. -/
def text? : Toml → Option String
  | text value => some value
  | _ => none

/-- The truth value that a value is. -/
def bool? : Toml → Option Bool
  | bool value => some value
  | _ => none

/-- The natural number below a limit that a value is. -/
def natBelow? (limit : Nat) : Toml → Option Nat
  | integer value => if 0 ≤ value ∧ value < limit then some value.toNat else none
  | _ => none

/-- Entries in order of their keys. -/
def sortEntries {α : Type} (entries : Entries α) : Entries α :=
  entries.mergeSort fun left right => Text.byBytes left.1 right.1

end Toml

end DataAccess
