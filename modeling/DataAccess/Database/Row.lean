import DataAccess.Database.Connection
import DataAccess.Text.Basic

/-!
# Decoding rows

Looking up the cells of a row by name. Servers disagree on the case of the labels of catalog
columns, so the case of ASCII letters does not matter, and the first cell that fits is taken.
-/

namespace DataAccess.Database.Row

/-- The cell under a name, whatever the case of its letters. -/
def find? (row : Row) (name : String) : Option Cell :=
  (row.cells.find? fun cell => Text.eqIgnoringCase cell.1 name).map Prod.snd

/-- The cell under a name, which must be there. -/
def cell (row : Row) (name : String) : Except ConnectionError Cell :=
  match row.find? name with
  | some cell => .ok cell
  | none => .error (.missingColumn name)

/-- The text under a name. -/
def text (row : Row) (name : String) : Except ConnectionError String := do
  let cell ← row.cell name
  match cell.text? with
  | some text => .ok text
  | none => .error (.unexpectedType name "text" cell.kind)

/-- The text under a name, or none if the cell is null. -/
def textOrNull (row : Row) (name : String) : Except ConnectionError (Option String) := do
  let cell ← row.cell name
  if cell.isNull then .ok none else some <$> row.text name

/-- The integer under a name. -/
def int64 (row : Row) (name : String) : Except ConnectionError Int64 := do
  let cell ← row.cell name
  match cell.int64? with
  | some value => .ok value
  | none => .error (.unexpectedType name "an integer" cell.kind)

end DataAccess.Database.Row
