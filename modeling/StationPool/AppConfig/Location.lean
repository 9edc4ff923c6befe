/-!
# Where the configuration is

The path of the configuration file from the environment: a path that is set for it, else a fixed
place below the user's configuration directory. That directory is the one that is set, if the
setting is an absolute path, else `.config` in the home directory, else the current directory. An
empty home directory counts as none.
-/

namespace StationPool.AppConfig

/-- The settings of the environment that matter. -/
structure Environment where
  /-- The configuration file itself. -/
  configFile : Option String := none
  /-- The user's configuration directory. -/
  configHome : Option String := none
  /-- The user's home directory. -/
  home : Option String := none
  deriving DecidableEq, Repr

/-- A path below a directory: an absolute path stands for itself, and a slash is put between the
two unless the directory ends with one or is empty. -/
def join (directory path : String) : String :=
  if path.startsWith "/" then path
  else if directory.isEmpty || directory.endsWith "/" then directory ++ path
  else directory ++ "/" ++ path

/-- The user's configuration directory. -/
def Environment.configDirectory (e : Environment) : String :=
  match e.configHome.filter (·.startsWith "/") with
  | some directory => directory
  | none => ((e.home.filter (!·.isEmpty)).map (join · ".config")).getD "."

/-- The place of the configuration file, if no other is set. -/
def Environment.defaultPath (e : Environment) : String :=
  join (join e.configDirectory "texnouz-emulator") "config.toml"

/-- The place of the configuration file. -/
def Environment.path (e : Environment) : String := e.configFile.getD e.defaultPath

end StationPool.AppConfig
