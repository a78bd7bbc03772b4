import Highlight.Files
import Highlight.Settings

/-!
# Where settings are kept

The directories of the program follow from three variables of the environment (`Environment`).
`Environment.provideSettings` and `Environment.provideLogs` make the files and directories that are
missing and leave the others as they are.
-/

namespace Highlight

/-- The variables of the environment that say where files are kept. -/
structure Environment where
  home : Option String := none
  dataHome : Option String := none
  configHome : Option String := none
  deriving Repr, DecidableEq, Inhabited

/-- Why a directory or file cannot be provided. -/
inductive LocationError where
  | noLogDirectory
  | noSettingsDirectory
  | file (cause : FileError)
  deriving Repr, DecidableEq, Inhabited

/-- The error in words. -/
def LocationError.message : LocationError → String
  | noLogDirectory => "Cannot determine log directory"
  | noSettingsDirectory => "Cannot determine settings directory"
  | file _ => "No such file or directory"

/-- Whether the error is that something is not there. -/
def LocationError.isMissing : LocationError → Bool
  | noLogDirectory | noSettingsDirectory => true
  | file cause => cause == .notFound

/-- The settings in a file. -/
def Settings.load {m : Type → Type} [Monad m] [FileAccess m] (path : String) : m Settings := do
  return .ofFile (← FileAccess.read path).toOption

/-- Writes the usual settings to a file, unless there is something at its path. -/
def Settings.provide (files : Files) (path : String) : Except FileError Files := do
  let files ←
    match Path.parent? path with
    | none => pure files
    | some parent => if files.pathExists parent then pure files else files.createDirectories parent
  if files.pathExists path then return files
  else files.write path (Settings.toJson {}).renderPretty.toUTF8

namespace Environment

/-- The name of the program's directories. -/
def appName : String := "blackboard"

/-- The directory of the logs. -/
def logDirectory? (env : Environment) : Option String :=
  let base := match env.dataHome with
    | some dir => some dir
    | none => env.home.map fun home => Path.join home ".local/share"
  base.map fun dir => Path.join (Path.join dir appName) "logs"

/-- The file of the settings. -/
def settingsPath? (env : Environment) : Option String :=
  let base := match env.configHome with
    | some dir => some dir
    | none => env.home.map fun home => Path.join home ".config"
  base.map fun dir => Path.join (Path.join dir appName) "settings.json"

/-- The settings of the user. -/
def loadSettings {m : Type → Type} [Monad m] [FileAccess m] (env : Environment) : m Settings :=
  match env.settingsPath? with
  | none => return {}
  | some path => Settings.load path

/-- Makes the directory of the logs if it is missing. -/
def provideLogs (env : Environment) (files : Files) : Except LocationError (String × Files) :=
  match env.logDirectory? with
  | none => .error .noLogDirectory
  | some dir =>
    if files.pathExists dir then .ok (dir, files)
    else match files.createDirectories dir with
      | .ok files => .ok (dir, files)
      | .error cause => .error (.file cause)

/-- Writes the usual settings if there are none. -/
def provideSettings (env : Environment) (files : Files) : Except LocationError (String × Files) :=
  match env.settingsPath? with
  | none => .error .noSettingsDirectory
  | some path =>
    match Settings.provide files path with
    | .ok files => .ok (path, files)
    | .error cause => .error (.file cause)

end Environment

end Highlight
