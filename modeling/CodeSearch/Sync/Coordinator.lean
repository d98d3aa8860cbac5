import CodeSearch.Config.Finalize
import CodeSearch.Vcs.Kinds

/-!
# Synchronizing repositories

A repository without a working copy is cloned, one with a working copy is pulled. Here each
synchronization is a script of its own; how several at once share locks and permits is the subject of
`CodeSearch.Sync.Machine`.
-/

namespace CodeSearch

/-- What synchronization has to know of a repository. `D` is what its driver is. -/
structure SyncTarget (D : Type) where
  url : String
  workingDir : String
  /-- Milliseconds between polls; nothing if polling is off. -/
  pollInterval : Option Nat
  pushEnabled : Bool
  driver : D

/-- The repositories that can be synchronized, and how many may be at once. -/
structure Coordinator (D : Type) where
  targets : NameMap (SyncTarget D)
  permits : Nat

namespace Coordinator

variable {D : Type}

/-- The most permits that there can be. -/
def maxPermits : Nat := Nat.pow 2 61 - 1

/-- Whether a coordinator can be made. With more permits than there can be, the program panics instead. -/
def Fits (c : Coordinator D) : Prop := c.permits ≤ maxPermits

instance (c : Coordinator D) : Decidable c.Fits := inferInstanceAs (Decidable (_ ≤ _))

/-- At least one synchronization may run at any time. Of a repeated name the last target counts. -/
def ofTargets (targets : List (String × SyncTarget D)) (maxConcurrent : Nat) : Coordinator D :=
  ⟨NameMap.ofList targets, max maxConcurrent 1⟩

def names (c : Coordinator D) : List String := c.targets.keys

def contains (c : Coordinator D) (name : String) : Bool := c.targets.contains name

def find (c : Coordinator D) (name : String) : Except Failure (SyncTarget D) :=
  match c.targets.get? name with
  | some target => .ok target
  | none => .error (.repositoryNotFound name)

def accepts (c : Coordinator D) (name : String) : Except Failure Bool :=
  (c.find name).map (·.pushEnabled)

/-- What synchronization has to know of a configured repository; nothing if it has no driver. -/
def target? (config : Config) (name : String) (repo : RepoConfig) : Option (SyncTarget VcsDriver) :=
  match VcsDriver.ofKind repo.vcs repo.vcsConfig with
  | .error _ => none
  | .ok driver =>
    some {
      url := repo.url
      workingDir := config.workingDir name
      pollInterval := if repo.pollEnabled then some repo.pollInterval else none
      pushEnabled := repo.pushEnabled
      driver := driver }

def ofConfig (config : Config) : Coordinator VcsDriver :=
  ⟨config.repos.filterMap (target? config), max config.maxConcurrentIndexers 1⟩

/-- Clones or pulls a repository and answers its revision. -/
def syncTarget (target : SyncTarget VcsDriver) : Script (Except Failure String) :=
  .test target.workingDir fun found =>
    if found then target.driver.pull target.workingDir
    else target.driver.clone target.workingDir target.url

def sync (c : Coordinator VcsDriver) (name : String) : Script (Except Failure String) :=
  match c.find name with
  | .error e => .done (.error e)
  | .ok target => syncTarget target

/-- Synchronizes several repositories, one after another. -/
def syncMany (c : Coordinator VcsDriver) (names : List String) :
    Script (NameMap (Except Failure String)) :=
  names.foldlM (fun results name => do
    return results.insert name (← c.sync name)) ∅

def syncAll (c : Coordinator VcsDriver) : Script (NameMap (Except Failure String)) :=
  c.syncMany c.names

end Coordinator

end CodeSearch
