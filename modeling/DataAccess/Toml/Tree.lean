import DataAccess.Toml.Value

/-!
# Tables under construction

A configuration defines its tables bit by bit. A table is defined once by a header, or once by
dotted keys in front of values; tables on the way to a header come into being by themselves and may
get a header of their own later. Arrays of tables grow with each of their headers, and a path that
leads through one leads through its last table.
-/

namespace DataAccess.Toml

/-- How a table came into being. -/
inductive Origin where
  /-- By a header of its own, or as the whole configuration. -/
  | header
  /-- On the way to the header of another table. -/
  | implied
  /-- By dotted keys. -/
  | dotted
  deriving DecidableEq

/-- A part of a configuration that may still grow. -/
inductive Node where
  /-- A complete value. -/
  | value (content : Toml)
  | table (origin : Origin) (entries : List (String × Node))
  /-- An array of tables, with its last table apart from the ones before it. -/
  | tables (earlier : List (List (String × Node))) (last : List (String × Node))

/-- The members of a table that is being read. -/
abbrev Members := List (String × Node)

namespace Node

mutual

/-- The value of a node that is complete. -/
def close : Node → Toml
  | value content => content
  | table _ entries => .table (sortEntries (closeEntries entries))
  | tables earlier last =>
    .array (closeTables earlier ++ [.table (sortEntries (closeEntries last))])

/-- An entry with its value complete. -/
def closeEntry : String × Node → String × Toml
  | (key, node) => (key, node.close)

/-- Entries with their values complete. -/
def closeEntries : List (String × Node) → List (String × Toml)
  | [] => []
  | entry :: rest => closeEntry entry :: closeEntries rest

def closeTables : List (List (String × Node)) → List Toml
  | [] => []
  | entries :: rest => .table (sortEntries (closeEntries entries)) :: closeTables rest

end

end Node

/-- A change of the entries of a table, which may be refused. -/
abbrev Change := Origin → Members → Option Members

/-- Changes the table at the end of a path. Tables that are missing on the way come into being.
Dotted keys may not lead through a table that has a header. -/
def changeAt (dotted : Bool) (change : Change) : List String → Change
  | [], origin, members => change origin members
  | key :: path, _, members =>
    match Entries.find? key members with
    | none => do
      let origin := if dotted then Origin.dotted else .implied
      let inner ← changeAt dotted change path origin []
      some (Entries.insert key (.table origin inner) members)
    | some (.table origin inner) =>
      if dotted ∧ origin = .header then none
      else do
        let inner ← changeAt dotted change path origin inner
        some (Entries.insert key (.table origin inner) members)
    | some (.tables earlier last) => do
      let last ← changeAt dotted change path .header last
      some (Entries.insert key (.tables earlier last) members)
    | some (.value _) => none

/-- A new value under a key. Behind dotted keys it belongs to a table that dotted keys define, and
otherwise to one that they do not define. -/
def putValue (behindDots : Bool) (key : String) (value : Toml) : Change := fun origin members =>
  if (origin = .dotted) ≠ behindDots then none
  else
    match Entries.find? key members with
    | some _ => none
    | none => some (Entries.insert key (.value value) members)

/-- Assigns a value to a key. -/
def assign (path : List String) (key : String) (value : Toml) : Change :=
  changeAt true (putValue (!path.isEmpty) key value) path

/-- Opens the table of a header. -/
def openTable (key : String) : Change := fun _ members =>
  match Entries.find? key members with
  | none => some (Entries.insert key (.table .header []) members)
  | some (.table .implied inner) => some (Entries.insert key (.table .header inner) members)
  | some _ => none

/-- Opens one more element of an array of tables. -/
def openElement (key : String) : Change := fun _ members =>
  match Entries.find? key members with
  | none => some (Entries.insert key (.tables [] []) members)
  | some (.tables earlier last) =>
    some (Entries.insert key (.tables (earlier ++ [last]) []) members)
  | some _ => none

end DataAccess.Toml
