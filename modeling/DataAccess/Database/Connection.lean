import DataAccess.Database.Cell
import DataAccess.Files.Failure

/-!
# Connections

The one seam to a database: a statement and its bound values go in, and rows or the number of
affected rows come out. A connection is given by its state and may answer the same statement
differently each time.
-/

namespace DataAccess.Database

/-- A result row: named cells in the order of the selection. -/
structure Row where
  cells : List (String × Cell)
  deriving DecidableEq

/-- Why a request to a connection, or the decoding of its answer, fails. -/
inductive ConnectionError where
  /-- The server refused or failed a statement. -/
  | query (sql message : String)
  /-- A row has no cell of the name. -/
  | missingColumn (name : String)
  /-- A cell holds another kind of value. -/
  | unexpectedType (column expected found : String)
  /-- The connection does not run statements of this kind. -/
  | unsupported (sql : String)
  | snapshotRead (failure : Files.Failure)
  | snapshotParse
  deriving DecidableEq

namespace ConnectionError

/-- What a failure of a connection says. -/
def message : ConnectionError → String
  | query _ message => "query failed: " ++ message
  | missingColumn name => "row has no column \x60" ++ name ++ "\x60"
  | unexpectedType column expected found =>
    "column \x60" ++ column ++ "\x60 holds " ++ found ++ ", expected " ++ expected
  | unsupported sql => "statement not supported by this connection: " ++ sql
  | snapshotRead failure => "failed to read catalog snapshot: " ++ failure.message
  | snapshotParse => "failed to parse catalog snapshot: the text is not a catalog snapshot"

/-- Whether the failure came from the server and not from decoding its answer. -/
def isQueryFailure : ConnectionError → Bool
  | query _ _ => true
  | _ => false

end ConnectionError

/-- A connection whose state is `σ`. -/
structure Connection (σ : Type) where
  query : String → List Cell → EStateM ConnectionError σ (List Row)
  execute : String → List Cell → EStateM ConnectionError σ UInt64

/-- A connection that answers some of the statements with other rows. The statement is still sent,
and it may still fail. -/
def Connection.replacing {σ : Type} (connection : Connection σ)
    (replacement : String → Option (List Row)) : Connection σ :=
  { connection with
    query := fun sql values => do
      let rows ← connection.query sql values
      pure ((replacement sql).getD rows) }

end DataAccess.Database
