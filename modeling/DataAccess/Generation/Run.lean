import DataAccess.Files.Dialogue
import DataAccess.Generation.Rendering

/-!
# Generation runs

A run renders the classes of all base tables of a schema and then writes one file for each. It is
given up where the catalog fails, before anything is written. A file that cannot be written does not
end the run, and of several tables with one path the first gets it.

As many classes as the settings allow are written at once. The operations of those in flight follow
one another in any order, which is a parameter of the run, the schedule. Without one (`run`), each
class is written before the next, as it is where only one may be in flight. The catalog is asked for
one table after another: a connection may give any answer to any query, so what the tables of
concurrent loads are told is what they are told one by one over some other connection.
-/

namespace DataAccess.Generation

open Catalog Database

/-- A file that was written for a table. -/
structure GeneratedFile where
  table : String
  className : String
  path : String
  deriving DecidableEq

/-- A table whose file could not be written. -/
structure SkippedTable where
  table : String
  reason : String
  deriving DecidableEq

/-- What became of a table. -/
inductive Outcome where
  | generated (file : GeneratedFile)
  | skipped (table : SkippedTable)
  deriving DecidableEq

namespace Outcome

/-- The file that was written for a table. -/
def generated? : Outcome → Option GeneratedFile
  | generated file => some file
  | skipped _ => none

/-- The table that was skipped. -/
def skipped? : Outcome → Option SkippedTable
  | generated _ => none
  | skipped table => some table

/-- The table that an outcome is about. -/
def table : Outcome → String
  | generated file => file.table
  | skipped table => table.table

end Outcome

/-- What a run produced, in the order of the catalog. -/
structure Report where
  generated : List GeneratedFile := []
  skipped : List SkippedTable := []
  deriving DecidableEq

namespace Report

/-- Whether no table was skipped. -/
def isComplete (report : Report) : Bool :=
  report.skipped.isEmpty

/-- The report of outcomes, in their order. -/
def ofOutcomes (outcomes : List Outcome) : Report :=
  { generated := outcomes.filterMap Outcome.generated?
    skipped := outcomes.filterMap Outcome.skipped? }

theorem isComplete_iff (report : Report) : report.isComplete = true ↔ report.skipped = [] := by
  simp [isComplete]

theorem length_ofOutcomes (outcomes : List Outcome) :
    (ofOutcomes outcomes).generated.length + (ofOutcomes outcomes).skipped.length =
      outcomes.length := by
  induction outcomes with
  | nil => rfl
  | cons outcome rest ih =>
    cases outcome <;>
      simp only [ofOutcomes, List.filterMap_cons, Outcome.generated?, Outcome.skipped?,
        List.length_cons] at ih ⊢ <;> omega

end Report

/-- A class with the answer whether its path is still free when its turn comes. -/
structure Claim where
  rendered : RenderedClass
  isFirst : Bool
  deriving DecidableEq

/-- Hands out the paths in the order of the classes; `taken` are the ones handed out before. -/
def claimFrom (taken : List (List Files.Component)) : List RenderedClass → List Claim
  | [] => []
  | rendered :: rest =>
    let components := Files.Path.components rendered.path
    { rendered, isFirst := !taken.contains components } :: claimFrom (components :: taken) rest

/-- Hands out the paths in the order of the classes. -/
def claims (classes : List RenderedClass) : List Claim :=
  claimFrom [] classes

namespace RenderedClass

/-- The outcome for a class that is not written, with its path and the reason. -/
def skip (rendered : RenderedClass) (reason : String) : Outcome :=
  .skipped { table := rendered.table, reason := rendered.path ++ ": " ++ reason }

/-- The outcome of a class after an attempt to write it. -/
def outcome (rendered : RenderedClass) : Except Files.Failure Unit → Outcome
  | .ok () =>
    .generated
      { table := rendered.table, className := rendered.className, path := rendered.path }
  | .error failure => rendered.skip failure.message

end RenderedClass

variable {m : Type → Type} [Monad m]

/-- Writes the file of a class, if its path is free. -/
def writeClaim (files : Files.FileSystem m) (claim : Claim) : m Outcome :=
  let rendered := claim.rendered
  if claim.isFirst then
    rendered.outcome <$> files.store rendered.directory rendered.path rendered.source
  else pure (rendered.skip "written by an earlier table")

/-- Writes the files of classes, of which `width` may be in flight at once. -/
def writeAll (files : Files.FileSystem m) (width : Nat) (schedule : List Nat)
    (claims : List Claim) : m (List Outcome) :=
  Files.Dialogue.runAll files width schedule (claims.map (writeClaim Files.Dialogue.fileSystem))

/-- Writes classes, a number of them at a time, and reports what became of each. -/
def write (files : Files.FileSystem m) (width : Nat) (schedule : List Nat)
    (classes : List RenderedClass) : m Report :=
  Report.ofOutcomes <$> writeAll files width schedule (claims classes)

/-- How many classes may be written at once. -/
def width (settings : Settings) : Nat :=
  max settings.output.concurrency.toNat 1

/-- Generates the classes of all base tables of a schema. The operations on files come in the order
of a schedule, as far as the settings allow it. -/
def runScheduled {σ : Type} (schedule : List Nat) (files : Files.FileSystem m)
    (connection : Connection σ) (settings : Settings) (schema : String) (state : σ) :
    m (Except IntrospectionError Report) :=
  match renderedSchema connection settings schema state with
  | .ok classes _ => .ok <$> write files (width settings) schedule classes
  | .error failure _ => pure (.error failure)

/-- Generates the classes of all base tables of a schema, one after another. -/
def run {σ : Type} (files : Files.FileSystem m) (connection : Connection σ) (settings : Settings)
    (schema : String) (state : σ) : m (Except IntrospectionError Report) :=
  runScheduled [] files connection settings schema state

end DataAccess.Generation
