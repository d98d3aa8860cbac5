import CodeSearch.Config.Basic
import CodeSearch.Files.Path
import CodeSearch.Text.Blank

/-!
# Finished configurations

Defaults are filled in, shared driver settings distributed, and the whole checked. Doing so twice changes
nothing more.
-/

namespace CodeSearch

def apiPath : String := "/api/v1"

def isPlainNameChar (c : Char) : Bool := c.isAlphanum || c == '-' || c == '_' || c == '.'

/-- A name made fit for a directory: every other character becomes an underscore. -/
def plainName (name : String) : String :=
  String.ofList (name.toList.map fun c => if isPlainNameChar c then c else '_')

namespace Config

def workingName (name : String) : String := "vcs-" ++ plainName name

def workingDir (config : Config) (name : String) : String :=
  Path.join config.dbpath (workingName name)

/-- The path of the health check has to be outside the service calls and without wildcards. -/
def healthCheckCollides (uri : String) : Bool :=
  uri == apiPath || (apiPath ++ "/").toList.isPrefixOf uri.toList ||
    uri.toList.any fun c => c == ':' || c == '*'

/-- Checks repositories in order of their names. `dirs` tells the last repository of each directory
name. -/
def validateRepos (dirs : NameMap String) : List (String × RepoConfig) → Except Failure Unit
  | [] => .ok ()
  | (name, repo) :: rest =>
    if (Text.trim repo.url).isEmpty then
      .error (.config ("Repository " ++ name ++ " has no url"))
    else
      match dirs.get? (plainName name) with
      | some other =>
        .error (.config
          ("Repositories " ++ other ++ " and " ++ name ++ " map to the same working directory"))
      | none => validateRepos (dirs.insert (plainName name) name) rest

def validate (config : Config) : Except Failure Unit :=
  if config.maxConcurrentIndexers = 0 then
    .error (.config "max-concurrent-indexers must be non-zero")
  else if config.port = 0 then .error (.config "Server port must be non-zero")
  else if config.healthCheckUri.toList.head? != some '/' then
    .error (.config "health-check-uri must start with '/'")
  else if healthCheckCollides config.healthCheckUri then
    .error (.config ("health-check-uri " ++ config.healthCheckUri ++ " collides with an API route"))
  else validateRepos ∅ config.repos.toList

/-- The configuration with defaults and shared settings in every repository. -/
def complete (config : Config) : Config :=
  { config with
    repos := shareSettings config.vcsConfig (config.repos.map fun _ r => r.withDefaults) }

/-- Completes and checks a configuration. The completed one is there even if the check fails. -/
def finalize (config : Config) : Config × Except Failure Unit :=
  (config.complete, config.complete.validate)

/-- Adds the projects of each source, in order of the sources' names, and counts those that are new. The
first source that cannot be listed ends it. -/
def addSources (list : String → SourceConfig → Except Failure (List Project)) :
    List (String × SourceConfig) → NameMap RepoConfig × Nat → Except Failure (NameMap RepoConfig × Nat)
  | [], found => .ok found
  | (name, source) :: rest, (repos, added) =>
    match list name source with
    | .error e => .error e
    | .ok projects =>
      let (repos, more) := countProjects source.repoOptions projects repos
      addSources list rest (repos, added + more)

/-- Adds what the sources list to the repositories and tells how many are new. What is new is completed and
checked. -/
def discoverBy (list : String → SourceConfig → Except Failure (List Project)) (config : Config) :
    Except Failure (Config × Nat) := do
  let (repos, added) ← addSources list config.gitlabSync.toList (config.repos, 0)
  let config := { config with repos := repos }
  if added = 0 then return (config, added)
  let (config, checked) := config.finalize
  checked
  return (config, added)

/-- `discoverBy` where sources with the same settings list the same. -/
def discover (list : SourceConfig → Except Failure (List Project)) (config : Config) :
    Except Failure (Config × Nat) :=
  config.discoverBy fun _ => list

end Config

end CodeSearch
