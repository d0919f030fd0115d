import DataAccess.Entries
import DataAccess.Files.Failure
import DataAccess.Members.Assembly
import DataAccess.Settings.Environment
import DataAccess.Text.Blank
import DataAccess.TypeScript.Source

/-!
# Settings

What a run is configured with: where the catalog is, what is generated and where it goes, how names
are written, and what is different for single tables.
-/

namespace DataAccess

/-- Where the catalog is. -/
structure Settings.Connection where
  /-- The address of a server; it may refer to environment variables. -/
  url : Option String := none
  schema : Option String := none
  deriving DecidableEq

/-- What is generated, and where it goes. -/
structure Settings.Output where
  comments : Bool := true
  /-- The namespace of all classes; otherwise it comes from the schema. -/
  namespaceName : Option String := none
  outDir : String := "./out"
  allDefaultCount : UInt32 := 0
  family : Members.Family := .static
  quoteIdentifiers : Bool := true
  dialect : Sql.Dialect := .mysql
  /-- The module that generated classes import their runtime symbols from. -/
  runtimeModule : String := "./connection"
  /-- How many tables may be worked on at once. -/
  concurrency : UInt64 := 1
  deriving DecidableEq

/-- The names of the styles of identifiers. A name that is no style leaves identifiers as they
are. -/
structure Settings.Names where
  namespaces : Option String := none
  classes : Option String := none
  methods : Option String := none
  properties : Option String := none
  deriving DecidableEq

/-- What is different for one table. -/
structure Settings.TableOverrides where
  className : Option String := none
  namespaceName : Option String := none
  outDir : Option String := none
  add : Bool := true
  update : Bool := true
  delete : Bool := true
  deriving DecidableEq

/-- What a run is configured with. -/
structure Settings where
  connection : Settings.Connection := {}
  output : Settings.Output := {}
  names : Settings.Names := {}
  tables : Entries Settings.TableOverrides := []
  deriving DecidableEq

namespace Settings

/-- A setting that makes no sense. -/
inductive InvalidSetting where
  | noConcurrency
  | emptyRuntimeModule
  | emptyClassName (table : String)
  deriving DecidableEq

/-- What is said of a setting that is not allowed. -/
def InvalidSetting.message : InvalidSetting → String
  | noConcurrency => "output.concurrency must be at least 1"
  | emptyRuntimeModule => "output.runtime_module must not be empty"
  | emptyClassName table => "tables." ++ table ++ ".class_name must not be empty"

/-- Why settings cannot be had. -/
inductive SettingsError where
  | fileNotFound (path : String)
  | unreadable (failure : Files.Failure)
  | malformed
  | missingVariable (name : String)
  | invalid (setting : InvalidSetting)
  deriving DecidableEq

/-- What is said of settings that cannot be loaded. -/
def SettingsError.message : SettingsError → String
  | fileNotFound path => "Config file not found: " ++ path
  | unreadable failure => "Failed to read config file: " ++ failure.message
  | malformed => "Failed to parse config file: the text is not a configuration"
  | missingVariable name => "Missing environment variable: " ++ name
  | invalid setting => "Invalid configuration: " ++ setting.message

/-- Whether there is nothing but white space in a text. -/
def isBlankText (text : String) : Bool :=
  (Text.trim text).isEmpty

/-- The first override with a class name that is empty. -/
def emptyClassName? (tables : Entries TableOverrides) : Option InvalidSetting :=
  (List.find? (fun entry => entry.2.className.any isBlankText) tables).map fun entry =>
    .emptyClassName entry.1

/-- The first setting that is not allowed. -/
def invalidSetting? (settings : Settings) : Option InvalidSetting :=
  if settings.output.concurrency = 0 then some .noConcurrency
  else if isBlankText settings.output.runtimeModule then some .emptyRuntimeModule
  else emptyClassName? settings.tables

/-- The address of the server, with its references to the environment replaced. -/
def resolvedUrl (settings : Settings) (environment : Environment) :
    Except SettingsError (Option String) :=
  match settings.connection.url with
  | none => .ok none
  | some url =>
    match expand environment url with
    | .ok url => .ok (some url)
    | .error name => .error (.missingVariable name)

/-- The convention that the settings ask for. -/
def naming (settings : Settings) : Naming.Convention :=
  let style (name : Option String) := name.bind Naming.CaseStyle.ofName?
  { namespaces := style settings.names.namespaces
    classes := style settings.names.classes
    methods := style settings.names.methods
    properties := style settings.names.properties }

/-- What the settings say about members. -/
def options (settings : Settings) : Members.Options :=
  { comments := settings.output.comments
    family := settings.output.family
    allDefaultCount := settings.output.allDefaultCount
    sqlStyle :=
      { dialect := settings.output.dialect
        quoteIdentifiers := settings.output.quoteIdentifiers } }

/-- What makes classes under the settings. -/
def assembler (settings : Settings) : Members.Assembler :=
  { options := settings.options, naming := settings.naming }

/-- How the files of generated classes are written. -/
def printing (settings : Settings) : TypeScript.Printing :=
  { runtimeModule := settings.output.runtimeModule }

/-- What the settings say about a single table. -/
def overrides (settings : Settings) (table : String) : TableOverrides :=
  (settings.tables.find? table).getD {}

/-- The names and switches of the class of a table. -/
def classTarget (settings : Settings) (table : String) : Members.ClassTarget :=
  let overrides := settings.overrides table
  { namespaceName := overrides.namespaceName.or settings.output.namespaceName
    className := overrides.className
    mutators :=
      { add := overrides.add, update := overrides.update, delete := overrides.delete } }

/-- The directory that the file of a table goes to. -/
def outDir (settings : Settings) (table : String) : String :=
  (settings.overrides table).outDir.getD settings.output.outDir

end Settings

end DataAccess
