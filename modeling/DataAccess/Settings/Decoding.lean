import DataAccess.Settings.Basic
import DataAccess.Toml.Reader

/-!
# Settings from a configuration

Groups of settings are tables with named fields; other fields are ignored. A group may also be
given as an array of its fields in their declared order: the last ones may be left out, and items
behind them are ignored.
-/

namespace DataAccess.Settings

/-- The value of a field under one of its names, at most one of which may be there. -/
def fieldOf? (entries : Entries Toml) (names : List String) : Option (Option Toml) :=
  match names.filterMap fun name => entries.find? name with
  | [] => some none
  | [value] => some (some value)
  | _ => none

/-- The values of the fields of a group, each under one of its names. A date has no fields. -/
def groupFields? (fields : List (List String)) : Toml → Option (List (Option Toml))
  | .table entries => fields.mapM (fieldOf? entries)
  | .array items => some (fields.mapIdx fun position _ => items[position]?)
  | .dateTime => some (fields.map fun _ => none)
  | _ => none

/-- The value of a field, or its default where the field is left out. -/
def orDefault {α : Type} (default : α) (decode : Toml → Option α) : Option Toml → Option α
  | none => some default
  | some value => decode value

/-- A value that may be left out. -/
def maybe {α : Type} (decode : Toml → Option α) : Option Toml → Option (Option α)
  | none => some none
  | some value => (decode value).map some

/-- One of several words: as text, or as the only key of a table with an empty value. -/
def word? : Toml → Option String
  | .text value => some value
  | .table [(name, .table [])] => some name
  | .table [(name, .array [])] => some name
  | _ => none

/-- The dialect of a name. -/
def dialect? (value : Toml) : Option Sql.Dialect :=
  match word? value with
  | some "mysql" => some .mysql
  | some "ansi" => some .ansi
  | _ => none

/-- The family of a name. -/
def family? (value : Toml) : Option Members.Family :=
  (word? value).bind Members.Family.ofName?

def uint32? (value : Toml) : Option UInt32 :=
  (value.natBelow? (Numeral.twoTo 32)).map UInt32.ofNat

def uint64? (value : Toml) : Option UInt64 :=
  (value.natBelow? (Numeral.twoTo 64)).map UInt64.ofNat

/-- The settings of the connection in a document. -/
def Connection.ofToml? (toml : Toml) : Option Connection := do
  match ← groupFields? [["url"], ["schema"]] toml with
  | [url, schema] => some { url := ← maybe Toml.text? url, schema := ← maybe Toml.text? schema }
  | _ => none

/-- The settings of the output in a document; what is left out has its default. -/
def Output.ofToml? (toml : Toml) : Option Output := do
  let start : Output := {}
  match ← groupFields?
      [ ["comments"], ["namespace"], ["out_dir"], ["all_default_count"], ["family"],
        ["quote_identifiers"], ["dialect"], ["runtime_module"], ["concurrency"] ] toml with
  | [ comments, namespaceName, outDir, allDefaultCount, family, quoteIdentifiers, dialect,
      runtimeModule, concurrency ] =>
    some
      { comments := ← orDefault start.comments Toml.bool? comments
        namespaceName := ← maybe Toml.text? namespaceName
        outDir := ← orDefault start.outDir Toml.text? outDir
        allDefaultCount := ← orDefault start.allDefaultCount uint32? allDefaultCount
        family := ← orDefault start.family family? family
        quoteIdentifiers := ← orDefault start.quoteIdentifiers Toml.bool? quoteIdentifiers
        dialect := ← orDefault start.dialect dialect? dialect
        runtimeModule := ← orDefault start.runtimeModule Toml.text? runtimeModule
        concurrency := ← orDefault start.concurrency uint64? concurrency }
  | _ => none

/-- The settings of names in a document. -/
def Names.ofToml? (toml : Toml) : Option Names := do
  match ← groupFields?
      [["namespace", "database"], ["class", "table"], ["method"], ["property", "column"]]
      toml with
  | [namespaces, classes, methods, properties] =>
    some
      { namespaces := ← maybe Toml.text? namespaces
        classes := ← maybe Toml.text? classes
        methods := ← maybe Toml.text? methods
        properties := ← maybe Toml.text? properties }
  | _ => none

/-- The settings of a single table in a document. -/
def TableOverrides.ofToml? (toml : Toml) : Option TableOverrides := do
  match ← groupFields?
      [["class_name"], ["namespace"], ["out_dir"], ["add"], ["update"], ["delete"]] toml with
  | [className, namespaceName, outDir, add, update, delete] =>
    some
      { className := ← maybe Toml.text? className
        namespaceName := ← maybe Toml.text? namespaceName
        outDir := ← maybe Toml.text? outDir
        add := ← orDefault true Toml.bool? add
        update := ← orDefault true Toml.bool? update
        delete := ← orDefault true Toml.bool? delete }
  | _ => none

/-- The overrides of tables, by the names of the tables. -/
def overridesOf? : Toml → Option (Entries TableOverrides)
  | .table entries =>
    entries.mapM fun (name, value) => (TableOverrides.ofToml? value).map fun value => (name, value)
  | _ => none

/-- The settings in a document. -/
def ofToml? (toml : Toml) : Option Settings := do
  match ← groupFields? [["connection"], ["output"], ["names"], ["tables"]] toml with
  | [connection, output, names, tables] =>
    some
      { connection := ← orDefault {} Connection.ofToml? connection
        output := ← orDefault {} Output.ofToml? output
        names := ← orDefault {} Names.ofToml? names
        tables := ← orDefault [] overridesOf? tables }
  | _ => none

/-- The settings, unless one of them is not allowed. -/
def validated (settings : Settings) : Except SettingsError Settings :=
  match settings.invalidSetting? with
  | some setting => .error (.invalid setting)
  | none => .ok settings

/-- The settings in a text. -/
def parse (text : String) : Except SettingsError Settings :=
  match (Toml.read? text).bind ofToml? with
  | some settings => settings.validated
  | none => .error .malformed

end DataAccess.Settings
