import CodeSearch.Config.Finalize
import CodeSearch.Files.Directories
import CodeSearch.Text.Digits

/-!
# Finding the configuration

Where the configuration and the working copies are looked for: at the path on the command line, where the
environment says, in the user's directories, or in the current one.
-/

namespace CodeSearch

open Files

abbrev Environment := String → Option String

structure UserDirs where
  config : String
  data : String

namespace UserDirs

/-- The home directory; an empty setting counts as none. -/
def home (env : Environment) : String :=
  match (env "HOME").filter (!·.isEmpty) with
  | some dir => dir
  | none => "/root"

def ofEnv (env : Environment) : UserDirs where
  config :=
    match env "FATHOM_CONFIG_DIR", env "XDG_CONFIG_HOME" with
    | some dir, _ => dir
    | none, some dir => Path.join dir "fathom"
    | none, none => Path.join (Path.join (home env) ".config") "fathom"
  data :=
    match env "FATHOM_DATA_DIR", env "XDG_DATA_HOME" with
    | some dir, _ => dir
    | none, some dir => Path.join dir "fathom"
    | none, none => Path.join (Path.join (Path.join (home env) ".local") "share") "fathom"

def configFile (dirs : UserDirs) : String := Path.join dirs.config "config.toml"

def reposDir (dirs : UserDirs) : String := Path.join dirs.data "repos"

def create (dirs : UserDirs) (disk : Disk) : Except FileError Disk :=
  disk.createDirAll dirs.reposDir

end UserDirs

namespace Config

/-- Reads a file: JSON by its extension, else TOML. A relative directory of working copies is meant from
where the file is. -/
def ofFile (disk : Disk) (path : String) : Except Failure Config := do
  match disk.readText path with
  | .error e =>
    .error (.config ("Failed to read config file " ++ Text.quotedPath path ++ ": " ++ e.message))
  | .ok text =>
    let config ← parse (Path.extension? path == some "json") text
    if config.dbpath.isEmpty || Path.isAbsolute config.dbpath then return config
    else
      return { config with dbpath := Path.join ((Path.parent? path).getD ".") config.dbpath }

/-- A 16-bit decimal number, with or without a plus sign. -/
def portNumber? (text : String) : Option Nat :=
  match text.toList with
  | '+' :: digits => Text.decimalOfBits? 16 digits
  | digits => Text.decimalOfBits? 16 digits

/-- Settings in the environment win over those in the file. -/
def withEnv (env : Environment) (config : Config) : Config :=
  { config with
    host := (env "FATHOM_HOST").getD config.host
    port := ((env "FATHOM_PORT").bind portNumber?).getD config.port
    dbpath :=
      match env "FATHOM_DATA_DIR" with
      | some dir => Path.join dir "repos"
      | none => config.dbpath }

def places (env : Environment) (explicit : Option String) : List String :=
  explicit.toList ++ (env "FATHOM_CONFIG").toList ++ [(UserDirs.ofEnv env).configFile, "fathom.toml"]

/-- The configuration before the environment: from the first place that has one, or the defaults. -/
def find (env : Environment) (disk : Disk) (explicit : Option String) : Except Failure Config :=
  let dirs := UserDirs.ofEnv env
  match explicit, env "FATHOM_CONFIG" with
  | some path, _ => ofFile disk path
  | none, some path => ofFile disk path
  | none, none =>
    if disk.pathExists dirs.configFile then ofFile disk dirs.configFile
    else if disk.pathExists "fathom.toml" then ofFile disk "fathom.toml"
    else .ok default

def load (env : Environment) (disk : Disk) (explicit : Option String) : Except Failure Config := do
  let config ← find env disk explicit
  let config :=
    if config.dbpath.isEmpty then { config with dbpath := (UserDirs.ofEnv env).reposDir } else config
  let (config, checked) := (config.withEnv env).finalize
  checked
  return config

end Config

end CodeSearch
