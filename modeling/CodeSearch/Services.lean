import CodeSearch.Access
import CodeSearch.Auth.Provider
import CodeSearch.Search.WorkingCopy
import CodeSearch.Sync.Coordinator

/-!
# Services

Everything that serving needs, built from a configuration: projects are discovered, every repository is
synchronized, and those for which that succeeded are served. One that fails does not touch the others. Too
large numbers in the configuration end the program in a panic.
-/

namespace CodeSearch

open Files

/-- Why the program does not go on: it reports a failure, or it panics. -/
inductive Halt where
  | failed (e : Failure)
  | panicked
  deriving DecidableEq, Repr

structure Services (S : Type) where
  config : Config
  registry : Registry S
  coordinator : Coordinator VcsDriver
  provider : Option Provider

namespace Services

def ofParts {S : Type} (config : Config) (registry : Registry S) (coordinator : Coordinator VcsDriver) :
    Except Failure (Services S) := do
  let provider ← config.gitlabOauth.mapM Provider.ofConfig
  return ⟨config, registry, coordinator, provider⟩

def sizeLimit (config : Config) : Nat := config.maxFileSizeMb * 1024 * 1024

/-- Whether the size limit can be computed in 64 bits. -/
def LimitFits (config : Config) : Prop := sizeLimit config < Nat.pow 2 64

instance (config : Config) : Decidable (LimitFits config) := inferInstanceAs (Decidable (_ < _))

def repository? (config : Config) (coordinator : Coordinator VcsDriver) (name revision : String) :
    Option (Repository WorkingCopy) := do
  let repo ← config.repos.get? name
  let target ← coordinator.targets.get? name
  return {
    config := repo
    searcher := {
      root := target.workingDir
      special := target.driver.special
      excludeDotFiles := repo.excludeDotFiles
      maxFileSize := sizeLimit config
      revision := revision } }

/-- The repositories whose synchronization succeeded. -/
def served (config : Config) (coordinator : Coordinator VcsDriver)
    (results : NameMap (Except Failure String)) : Registry WorkingCopy :=
  results.filterMap fun name result =>
    match result with
    | .ok revision => repository? config coordinator name revision
    | .error _ => none

/-- Services from what all synchronizations led to. The size limit is computed for each searcher, which
panics if it does not fit. -/
def assemble (config : Config) (coordinator : Coordinator VcsDriver)
    (results : NameMap (Except Failure String)) : Except Halt (Services WorkingCopy) :=
  let registry := served config coordinator results
  if registry.keys = [] ∨ LimitFits config then (ofParts config registry coordinator).mapError .failed
  else .error .panicked

def bootstrap (tool : Tool) (list : SourceConfig → Except Failure (List Project)) (config : Config)
    (site : Site) : Except Halt (Services WorkingCopy) × Site :=
  match config.discover list with
  | .error e => (.error (.failed e), site)
  | .ok (config, _) =>
    match site.disk.makeDirs config.dbpath with
    | (.error e, disk) => (.error (.failed (.io e.message)), { site with disk := disk })
    | (.ok (), disk) =>
      let site := { site with disk := disk }
      let coordinator := Coordinator.ofConfig config
      if coordinator.Fits then
        let (results, site) := coordinator.syncAll.run tool site
        (assemble config coordinator results, site)
      else (.error .panicked, site)

def refresh (s : Services WorkingCopy) (name revision : String) : Services WorkingCopy :=
  { s with registry := s.registry.refresh name revision }

/-- Synchronizes a repository. If that fails it is served as before. -/
def update (tool : Tool) (s : Services WorkingCopy) (name : String) (site : Site) :
    Services WorkingCopy × Site :=
  match (s.coordinator.sync name).run tool site with
  | (.ok revision, site) => (s.refresh name revision, site)
  | (.error _, site) => (s, site)

end Services

end CodeSearch
