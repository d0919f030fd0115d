import DataAccess.Main
import DataAccess.CommandLine.Commands
import DataAccess.Generation.Run
import DataAccess.Files.Tree
import DataAccess.Files.Dialogue
import DataAccess.Settings.Decoding
import DataAccess.Toml.Reader
import DataAccess.Members.Assembly
import DataAccess.TypeScript.Source
import DataAccess.Layout.Outline
import DataAccess.Evaluation.Run
import DataAccess.Code.RecordClass
import DataAccess.Text.Quoted
import DataAccess.Text.Utf8
import DataAccess.Text.Uppercase
import DataAccess.Text.LetterCase
import DataAccess.Text.Alphanumeric
import DataAccess.Text.Blank
import DataAccess.Numeral.Plain
import DataAccess.Calendar.Pattern
import DataAccess.Calendar.Written
import DataAccess.Naming.Convention
import DataAccess.Schema.Table
import DataAccess.Sql.Statement
import DataAccess.Json.Reader
import DataAccess.Json.Printer
import DataAccess.Database.Row
import DataAccess.Catalog.SnapshotJson
import DataAccess.Catalog.SnapshotServer
import DataAccess.Catalog.Introspection
import DataAccess.Proofs.Code.RecordClass
import DataAccess.Proofs.Entries.Groups
import DataAccess.Proofs.Entries.Stored
import DataAccess.Proofs.Schema.WholeTables
import DataAccess.Proofs.Schema.BuiltTables
import DataAccess.Proofs.Evaluation.Casts
import DataAccess.Proofs.Evaluation.Equations
import DataAccess.Proofs.Evaluation.Exchange
import DataAccess.Proofs.Evaluation.Progress
import DataAccess.Proofs.Evaluation.Recording
import DataAccess.Proofs.Evaluation.Stripping
import DataAccess.Proofs.Calendar.ReadBack
import DataAccess.Proofs.Naming.AccessorNames
import DataAccess.Proofs.Numeral.Sign
import DataAccess.Proofs.Sql.StatementText
import DataAccess.Proofs.Sql.Placeholders
import DataAccess.Proofs.Members.Assembled
import DataAccess.Proofs.Members.Values
import DataAccess.Proofs.Members.Hydration
import DataAccess.Proofs.Members.Mutation
import DataAccess.Proofs.Members.Fetching
import DataAccess.Proofs.Members.Serialization
import DataAccess.Proofs.Members.RoundTrip
import DataAccess.Proofs.Members.SerializedRoundTrip
import DataAccess.Proofs.Members.Paging
import DataAccess.Proofs.Members.Ownership
import DataAccess.Proofs.Members.Progress
import DataAccess.Proofs.Members.Positions
import DataAccess.Proofs.Members.Families
import DataAccess.Proofs.Members.FamilyCalls
import DataAccess.Proofs.Catalog.LoadedTables
import DataAccess.Proofs.Members.Lifecycle
import DataAccess.Proofs.Members.KeyAccessors
import DataAccess.Proofs.Members.Properties
import DataAccess.Proofs.Members.Renaming
import DataAccess.Proofs.Naming.WordEnds
import DataAccess.Proofs.Members.MovedNames
import DataAccess.Proofs.Members.DistinctProperties
import DataAccess.Proofs.Members.ParameterNames
import DataAccess.Proofs.Sql.UniqueStatements
import DataAccess.Proofs.Catalog.Sorting
import DataAccess.Proofs.Catalog.Answers
import DataAccess.Proofs.Catalog.Requests
import DataAccess.Proofs.Catalog.Populated
import DataAccess.Proofs.Catalog.FailingQueries
import DataAccess.Proofs.Catalog.Captured
import DataAccess.Proofs.Catalog.CapturedReferences
import DataAccess.Proofs.Catalog.Relations
import DataAccess.Proofs.Catalog.RepeatedLoading
import DataAccess.Proofs.Catalog.RetriedLoading
import DataAccess.Proofs.Json.ReadBack
import DataAccess.Proofs.Catalog.SnapshotRoundTrip
import DataAccess.Proofs.Files.Destinations
import DataAccess.Proofs.Files.Dialogues
import DataAccess.Proofs.Generation.Turns
import DataAccess.Proofs.Generation.Accounts
import DataAccess.Proofs.Generation.Reported
import DataAccess.Proofs.TypeScript.Syntax
import DataAccess.Proofs.TypeScript.Scanner
import DataAccess.Proofs.TypeScript.Reader
import DataAccess.Proofs.TypeScript.Levels
import DataAccess.Proofs.Code.Subexpressions
import DataAccess.Proofs.TypeScript.Placement
import DataAccess.Proofs.TypeScript.TypesReadBack
import DataAccess.Proofs.TypeScript.ReadBack
import DataAccess.Proofs.Text.Splitting
import DataAccess.Proofs.Naming.Identifiers
import DataAccess.Proofs.TypeScript.Comments
import DataAccess.Proofs.Layout.OutlineText
import DataAccess.Proofs.Layout.Brackets
import DataAccess.Proofs.TypeScript.PrintedNames
import DataAccess.Proofs.Code.Undocumented
import DataAccess.Proofs.TypeScript.Uncommented
import DataAccess.Proofs.Members.GeneratedNames
import DataAccess.Proofs.Members.Comments
import DataAccess.Proofs.Catalog.ComparedRuns
import DataAccess.Proofs.Catalog.Relabelling
import DataAccess.Proofs.Members.MutatorSwitches
import DataAccess.Proofs.Members.RuntimeImports
import DataAccess.Proofs.Members.SingleRecords
import DataAccess.Proofs.Calendar.Precision
import DataAccess.Proofs.Settings.Expansion
import DataAccess.Proofs.Sql.Truth
import DataAccess.Proofs.Members.SelectedRows
import DataAccess.Proofs.Members.PropertyTypes
import DataAccess.Proofs.Naming.LegalIdentifiers
import DataAccess.Proofs.Naming.RepeatedConversion
import DataAccess.Proofs.Members.LegalNames
import DataAccess.Proofs.TypeScript.LiteralText
import DataAccess.Proofs.TypeScript.TypeSpelling
import DataAccess.Proofs.TypeScript.Blocks
