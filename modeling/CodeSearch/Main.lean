import CodeSearch.Cli.Run

/-!
# The command line program

Reads the environment and the files that a configuration may be in, runs, and prints what the run leaves.
Nothing outside is reached from here: a tool that a run calls does not start, and no address is opened.
-/

namespace CodeSearch.Cli

open Files

def envNames : List String :=
  ["HOME", "XDG_CONFIG_HOME", "XDG_DATA_HOME", "FATHOM_CONFIG_DIR", "FATHOM_DATA_DIR", "FATHOM_CONFIG",
    "FATHOM_HOST", "FATHOM_PORT", "CLICOLOR_FORCE", "CLICOLOR", "NO_COLOR"]

def readEnv : IO Environment := do
  let found ← envNames.filterMapM fun name => do
    return (← IO.getEnv name).map fun value => (name, value)
  return fun name => found.lookup name

/-- Puts a file, or an empty directory, where a path leads. -/
def addEntry (disk : Disk) (path : String) (content : Option Bytes) : Disk :=
  let disk := ((Path.parent? path).bind fun dir => (disk.createDirAll dir).toOption).getD disk
  let after :=
    match content with
    | some content => disk.create (Utf8.encode path) content 0o644
    | none => disk.mkdir (Utf8.encode path)
  after.toOption.getD disk

def readEntry (disk : Disk) (path : String) : IO Disk := do
  match ← (IO.FS.readBinFile path).toBaseIO with
  | .ok content => return addEntry disk path (some content.toList)
  | .error (.noFileOrDirectory ..) => return disk
  | .error _ => return addEntry disk path none

def readDisk (paths : List String) : IO Disk := do
  paths.foldlM readEntry (Disk.ofDir (← IO.currentDir).toString)

def noTool : Tool := fun _ _ disk => (.notStarted "Function not implemented (os error 38)", disk)

/-- A listing that gets no answer has one page at most. -/
def noProjects (source : SourceConfig) : Except Failure (List Project) :=
  ((source.listing 1 .offline).result).getD (.ok [])

def print (o : Outcome) : IO UInt32 := do
  IO.print (Outcome.text o.stdout)
  IO.eprint (Outcome.text o.stderr)
  return o.exit.toUInt32

def main (args : List String) : IO UInt32 := do
  let env ← readEnv
  let dirs := UserDirs.ofEnv env
  let explicit := (parse args).toOption.bind (·.config)
  let disk ← readDisk (dirs.data :: Config.places env explicit)
  let terminal ← (← IO.getStdout).isTty
  let world : World := ⟨env, terminal, noTool, noProjects, 0⟩
  let (next, site) := world.run args ⟨disk, []⟩
  if site.disk.isDir dirs.reposDir then IO.FS.createDirAll dirs.reposDir
  match next with
  | .finished o => print o
  | .listen .. => print (world.notListening "Function not implemented (os error 38)")

end CodeSearch.Cli

def main (args : List String) : IO UInt32 := CodeSearch.Cli.main args
