import DataAccess.Catalog.SnapshotJson
import DataAccess.Catalog.SnapshotServer
import DataAccess.CommandLine.Arguments
import DataAccess.Generation.Run
import DataAccess.Settings.Loading

/-!
# Commands

What the program writes to its two outputs and with which code it ends, on any host. A catalog is
read from a snapshot; without one there is no connection to a server to be had.
-/

namespace DataAccess.CommandLine

open Catalog Files

variable {m : Type → Type} [Monad m]

/-- What the program runs on. -/
structure Host (m : Type → Type) where
  files : FileSystem m
  /-- The value of a variable of the environment. -/
  getVariable : String → m (Option String)

/-- How the program ends. -/
structure Ending where
  code : UInt32
  output : String := ""
  errors : String := ""
  deriving DecidableEq

namespace Ending

/-- Lines of text, each with its end. -/
def ofLines (lines : List String) : String :=
  String.join (lines.map (· ++ "\n"))

/-- An ending with lines on the standard output. -/
def success (lines : List String) : Ending :=
  { code := 0, output := ofLines lines }

/-- An ending with a message on the standard error. -/
def failure (message : String) : Ending :=
  { code := 1, errors := ofLines [message] }

end Ending

/-- The schema to work on: the given one, or else that of the settings. -/
def schemaFor (source : Source) (settings : Settings) : Except String String :=
  match source.schema.or settings.connection.schema with
  | some schema => .ok schema
  | none => .error "no schema given (use --schema or connection.schema)"

/-- What is said where settings cannot be loaded. -/
def settingsMessage (failure : Settings.SettingsError) : String :=
  "Configuration error: " ++ failure.message

/-- The message about a catalog that is on a server. -/
def serverMessage (source : Source) (settings : Settings) (environment : Settings.Environment) :
    String :=
  let unavailable := "built without the \x60mysql\x60 feature; use --snapshot"
  match source.url with
  | some _ => unavailable
  | none =>
    match settings.resolvedUrl environment with
    | .ok (some _) => unavailable
    | .ok none => "no connection given (use --url, --snapshot or connection.url)"
    | .error failure => settingsMessage failure

/-- Reads a snapshot from a file. -/
def readSnapshot (files : FileSystem m) (path : String) :
    m (Except Database.ConnectionError Snapshot) := do
  match ← files.readText path with
  | .error failure => pure (.error (.snapshotRead failure))
  | .ok text =>
    match Snapshot.read? text with
    | some snapshot => pure (.ok snapshot)
    | none => pure (.error .snapshotParse)

/-- What answers the catalog queries: a snapshot. Without one there is a message, as the program
reaches no servers. -/
def serverFor (host : Host m) (source : Source) (settings : Settings) :
    m (Except String SnapshotServer) := do
  match source.snapshot with
  | none =>
    let names := (settings.connection.url.map Settings.variablesOf).getD []
    let environment ← Settings.environmentOf host.getVariable names
    pure (.error (serverMessage source settings environment))
  | some path =>
    match ← readSnapshot host.files path with
    | .ok snapshot => pure (.ok { snapshot })
    | .error failure =>
      pure (.error ("Error reading snapshot '" ++ path ++ "': " ++ failure.message))

/-- Runs a command with its schema and server, or ends with the message why there is none. -/
def withCatalog (host : Host m) (source : Source) (settings : Settings)
    (command : String → SnapshotServer → m Ending) : m Ending := do
  match schemaFor source settings with
  | .error message => pure (.failure message)
  | .ok schema =>
    match ← serverFor host source settings with
    | .error message => pure (.failure message)
    | .ok server => command schema server

/-- The lines about a run, and its code. -/
def reportEnding (report : Generation.Report) : Ending :=
  { code := if report.isComplete then 0 else 1
    output := Ending.ofLines (report.generated.map fun file => file.table ++ " -> " ++ file.path)
    errors := Ending.ofLines (report.skipped.map fun skipped =>
      "skipped " ++ skipped.table ++ ": " ++ skipped.reason) }

/-- Generates the classes of a schema. -/
def generate (files : FileSystem m) (settings : Settings) (schema : String)
    (server : SnapshotServer) : m Ending := do
  match ← Generation.run files server.connection settings schema [] with
  | .ok report => pure (reportEnding report)
  | .error failure => pure (.failure ("Generation error: " ++ failure.message))

/-- Lists the tables of a schema. -/
def tables (schema : String) (server : SnapshotServer) : Ending :=
  match listTables server.connection schema [] with
  | .ok tables _ => .success (tables.map (·.name))
  | .error failure _ => .failure ("Introspection error: " ++ failure.message)

/-- The lines that describe a class. -/
def classLines (recordClass : Code.RecordClass) : List String :=
  ("class " ++ recordClass.name ++ " (" ++ recordClass.namespaceName ++ ")") ::
    recordClass.memberNames.map ("  - " ++ ·)

/-- Shows a table as it is loaded, and the members of its class. -/
def inspect (settings : Settings) (table schema : String) (server : SnapshotServer) : Ending :=
  match Generation.findTable server.connection schema table [] with
  | .error failure _ => .failure ("Introspection error: " ++ failure.message)
  | .ok table served =>
    let shown := [(SnapshotTable.ofTable table).toJson.pretty, ""]
    match Generation.classFor server.connection settings table served with
    | .ok recordClass _ => .success (shown ++ classLines recordClass)
    | .error failure _ => .failure ("Generation error: " ++ failure.message)

/-- Captures a schema, to a file or to the standard output. -/
def snapshot (files : FileSystem m) (output : Option String) (schema : String)
    (server : SnapshotServer) : m Ending := do
  match capture server.connection schema [] with
  | .error failure _ => pure (.failure ("Introspection error: " ++ failure.message))
  | .ok snapshot _ =>
    match output with
    | none => pure (.success [snapshot.write])
    | some path =>
      match ← files.writeText path snapshot.write with
      | .error failure =>
        pure (.failure ("Error writing '" ++ path ++ "': " ++ failure.message))
      | .ok () =>
        let count := toString snapshot.tables.length
        pure
          { code := 0
            errors := Ending.ofLines ["Wrote " ++ count ++ " tables to " ++ path] }

/-- The settings with what the options of generation replace. -/
def Command.adjusted (command : Command) (settings : Settings) : Settings :=
  match command with
  | .generate _ outDir comments =>
    { settings with
      output :=
        { settings.output with
          outDir := outDir.getD settings.output.outDir
          comments := settings.output.comments && comments } }
  | _ => settings

/-- Where the catalog of a command comes from. -/
def Command.source : Command → Source
  | generate source _ _ | tables source | inspect source _ | snapshot source _ => source

/-- Runs a command under settings. -/
def Command.run (host : Host m) (command : Command) (settings : Settings) : m Ending :=
  let settings := command.adjusted settings
  withCatalog host command.source settings fun schema server =>
    match command with
    | generate _ _ _ => CommandLine.generate host.files settings schema server
    | tables _ => pure (CommandLine.tables schema server)
    | inspect _ table => pure (CommandLine.inspect settings table schema server)
    | snapshot _ output => CommandLine.snapshot host.files output schema server

/-- The settings that a command line asks for. -/
def Invocation.settings (host : Host m) (invocation : Invocation) :
    m (Except Settings.SettingsError Settings) := do
  match invocation.config with
  | some path => Settings.fromFile host.files path
  | none =>
    let environment ← Settings.environmentOf host.getVariable Settings.loadingVariables
    Settings.load host.files environment

/-- Runs what is asked for with the settings for it. -/
def Invocation.run (host : Host m) (invocation : Invocation) : m Ending := do
  match ← invocation.settings host with
  | .error failure => pure (.failure (settingsMessage failure))
  | .ok settings => invocation.command.run host settings

/-- What is said of the version. -/
def versionLine : String := "dalgen 0.1.0"

/-- How the program is used. -/
def usageLines : List String :=
  [ "Usage:",
    "  dalgen generate [-s SCHEMA] [-u URL | --snapshot FILE] [-o DIR] [--no-comments]",
    "  dalgen tables [-s SCHEMA] [-u URL | --snapshot FILE]",
    "  dalgen inspect TABLE [-s SCHEMA] [-u URL | --snapshot FILE]",
    "  dalgen snapshot [-s SCHEMA] [-u URL | --snapshot FILE] [-o FILE]",
    "",
    "Every command takes -c FILE for a settings file and -v for more messages." ]

/-- How the program ends where there is nothing to run. -/
def Stop.ending : Stop → Ending
  | usage => { code := 2, errors := Ending.ofLines usageLines }
  | help => .success usageLines
  | version => .success [versionLine]

/-- The whole program, from its arguments to its ending. -/
def program (host : Host m) (arguments : List String) : m Ending :=
  match parse arguments with
  | .error stop => pure stop.ending
  | .ok invocation => invocation.run host

end DataAccess.CommandLine
