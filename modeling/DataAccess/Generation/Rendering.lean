import DataAccess.Catalog.Introspection
import DataAccess.Files.Path
import DataAccess.Settings.Basic

/-!
# Rendering

From tables of a catalog to classes that are ready to be written. Nothing here touches a file.
-/

namespace DataAccess.Generation

open Catalog Database Schema

variable {σ : Type}

/-- The class of a table, which is loaded first where it is not. -/
def classFor (connection : Connection σ) (settings : Settings) (table : Table) :
    Introspect σ Code.RecordClass := do
  let table ← populated connection table
  pure (settings.assembler.assemble table (settings.classTarget table.name))

/-- The source file of the class of a table. -/
def sourceFor (connection : Connection σ) (settings : Settings) (table : Table) :
    Introspect σ String := do
  let recordClass ← classFor connection settings table
  pure (TypeScript.source settings.printing recordClass)

/-- A class that is ready to be written. -/
structure RenderedClass where
  /-- The qualified name of its table. -/
  table : String
  className : String
  source : String
  /-- The directory that its file goes to. -/
  directory : String
  path : String
  deriving DecidableEq

/-- The class of a table, rendered, with the place that it goes to. -/
def rendered (connection : Connection σ) (settings : Settings) (table : Table) :
    Introspect σ RenderedClass := do
  let recordClass ← classFor connection settings table
  let directory := settings.outDir table.name
  pure
    { table := table.qualifiedName
      className := recordClass.name
      source := TypeScript.source settings.printing recordClass
      directory
      path := Files.Path.join directory (TypeScript.fileName recordClass) }

/-- The classes of tables, one after another. -/
def renderedAll (connection : Connection σ) (settings : Settings) :
    List Table → Introspect σ (List RenderedClass)
  | [] => pure []
  | table :: rest => do
    let first ← rendered connection settings table
    let rest ← renderedAll connection settings rest
    pure (first :: rest)

/-- The classes of all base tables of a schema, in the order of the catalog. -/
def renderedSchema (connection : Connection σ) (settings : Settings) (schema : String) :
    Introspect σ (List RenderedClass) := do
  let tables ← listTables connection schema
  renderedAll connection settings tables

/-- Why a single table cannot be had. -/
inductive LookupError where
  | introspection (source : IntrospectionError)
  | notFound (schema table : String)
  deriving DecidableEq

/-- What is said of a table that cannot be looked up. -/
def LookupError.message : LookupError → String
  | introspection source => source.message
  | notFound schema table =>
    "table " ++ IntrospectionError.ticked schema ++ "." ++ IntrospectionError.ticked table ++
      " not found"

/-- The first base table of a schema with the name, loaded. -/
def findTable (connection : Connection σ) (schema name : String) :
    EStateM LookupError σ Table := fun state =>
  match listTables connection schema state with
  | .error failure state => .error (.introspection failure) state
  | .ok tables state =>
    match tables.find? fun table => table.name == name with
    | none => .error (.notFound schema name) state
    | some table =>
      match populated connection table state with
      | .ok table state => .ok table state
      | .error failure state => .error (.introspection failure) state

end DataAccess.Generation
