import AsmExplorer.Config.Data

/-!
# Finding and loading configurations

A configuration is loaded from a file that is named, or else from the first of two places that holds
one: the working directory and the directory of the user's settings.  The files that it names are
meant relative to the directory of the configuration file.
-/

namespace AsmExplorer

/-- Why a configuration cannot be loaded. -/
inductive ConfigError where
  /-- The file cannot be read. -/
  | unreadable (path : Path) (fault : IoFault)
  /-- The text is no configuration. -/
  | malformed (origin : String)
deriving DecidableEq, Inhabited

/-- The wording of an error. -/
def ConfigError.message : ConfigError → String
  | unreadable path fault => "I/O error reading " ++ path.display ++ ": " ++ fault.message
  | malformed origin => "failed to parse " ++ origin ++ ": TOML parse error"

/-- A configuration with the file that it comes from and the warnings about it. -/
structure LoadedConfig where
  /-- The configuration. -/
  config : Config := {}
  /-- The file. -/
  path : Option Path := none
  /-- The warnings, which speak about files as they are written in the configuration. -/
  warnings : List ConfigWarning := []
deriving Inhabited

namespace LoadedConfig

/-- The name of the configuration in a working directory. -/
def localName : Path := .ofText "asmlens.toml"

/-- The name of the configuration among the user's settings. -/
def userName : Path := .ofText "config.toml"

/-- The directory of the program among the settings of all programs. -/
def directoryName : Path := .ofText "asmlens"

/-- Reads a configuration from a text. -/
def ofText (origin text : String) : Except ConfigError LoadedConfig :=
  match Config.ofToml? text with
  | some config => .ok { config, warnings := config.warnings }
  | none => .error (.malformed origin)

/-- Loads a configuration from a file. -/
def load (files : FileTree) (cwd : Names) (path : Path) : Except ConfigError LoadedConfig :=
  match files.readText cwd path with
  | .error fault => .error (.unreadable path fault)
  | .ok text => do
    let loaded ← ofText path.display (String.ofList text)
    let config :=
      match path.parent? with
      | some directory => loaded.config.anchor directory
      | none => loaded.config
    return { loaded with config, path := some path }

/-- Loads the configuration that is named, or else the first one found in a working directory and a
directory of settings, or else an empty one. -/
def discoverIn (files : FileTree) (cwd : Names) (explicit directory userDirectory : Option Path) :
    Except ConfigError LoadedConfig :=
  match explicit with
  | some path => load files cwd path
  | none =>
    let places := (directory.map (·.join localName)).toList ++
      (userDirectory.map (·.join userName)).toList
    match places.find? (files.isFile cwd) with
    | some path => load files cwd path
    | none => .ok {}

/-- The directory of the user's settings: that of the environment if it is an absolute path, or else
one in the home directory. -/
def settingsDirectory? (env : List (String × String)) : Option Path :=
  match env.lookup "XDG_CONFIG_HOME" with
  | some given =>
    let path := Path.ofText given
    if path.isAbsolute then some path else home?
  | none => home?
where
  /-- The directory in the home directory. -/
  home? : Option Path :=
    (env.lookup "HOME").bind fun home =>
      if home = "" then none else some ((Path.ofText home).join (.ofText ".config"))

/-- Loads the configuration that is named, or else the one found on a machine. -/
def discover (m : Machine) (explicit : Option Path) : Except ConfigError LoadedConfig :=
  discoverIn m.files m.cwd explicit (some (FileTree.pathOf m.cwd))
    ((settingsDirectory? m.env).map (·.join directoryName))

end LoadedConfig

end AsmExplorer
