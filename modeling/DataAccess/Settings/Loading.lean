import DataAccess.Files.FileSystem
import DataAccess.Settings.Decoding

/-!
# Loading settings

Settings come from a file that is named, or else from the first of the usual places that has one.
-/

namespace DataAccess.Settings

open Files

variable {m : Type → Type} [Monad m]

/-- Loads the settings of a file. -/
def fromFile (files : FileSystem m) (path : String) : m (Except SettingsError Settings) := do
  if ← files.isPresent path then
    match ← files.readText path with
    | .ok text => pure (parse text)
    | .error failure => pure (.error (.unreadable failure))
  else pure (.error (.fileNotFound path))

/-- The settings of the first file that is there; otherwise nothing is set. -/
def fromFirst (files : FileSystem m) : List String → m (Except SettingsError Settings)
  | [] => pure (.ok {})
  | path :: rest => do
    if ← files.isPresent path then fromFile files path else fromFirst files rest

/-- The variable that names a file of settings. -/
def fileVariable : String := "DALGEN_CONFIG"

/-- The variable that names the directory of the settings of all programs. -/
def directoryVariable : String := "XDG_CONFIG_HOME"

/-- The variable that names the directory of a user. -/
def homeVariable : String := "HOME"

/-- The variables that decide where settings are looked for. -/
def loadingVariables : List String :=
  [fileVariable, directoryVariable, homeVariable]

/-- The directory of the settings of a user. -/
def userDirectory? (environment : Environment) : Option String :=
  match (environment directoryVariable).filter Path.isAbsolute with
  | some directory => some directory
  | none =>
    ((environment homeVariable).filter fun home => !home.isEmpty).map fun home =>
      Path.join home ".config"

/-- The places that settings are looked for in, the working directory first. -/
def usualPlaces (environment : Environment) : List String :=
  "dalgen.toml" ::
    ((userDirectory? environment).map fun directory =>
      Path.join directory "dalgen/config.toml").toList

/-- The settings of the file named by the environment, or else of the usual places. -/
def load (files : FileSystem m) (environment : Environment) :
    m (Except SettingsError Settings) :=
  match environment fileVariable with
  | some path => fromFile files path
  | none => fromFirst files (usualPlaces environment)

end DataAccess.Settings
