import CodeSearch.Config.Repo
import CodeSearch.Error
import CodeSearch.Json.Printer
import CodeSearch.Json.Reader

/-!
# Building the set of repositories

What a repository sets itself wins over the settings for its kind, and what is configured wins over what is
discovered.
-/

namespace CodeSearch

structure Project where
  name : String
  url : String
  deriving DecidableEq, Repr

namespace VcsSettings

def ofBytes (bs : Bytes) : Except Failure VcsSettings :=
  match (Json.node? bs).bind (Decoder.object Decoding.json) with
  | some settings => .ok settings
  | none => .error (.json "not an object")

def toBytes (settings : VcsSettings) : Bytes :=
  Utf8.encode (Json.ofNameMap settings).compact

/-- Fills in what the repository does not set; a value of null is set. -/
def merge (repo : Option VcsSettings) (shared : VcsSettings) : VcsSettings :=
  (repo.getD ∅).union shared

/-- `merge` on texts, where an empty text for the repository sets nothing. -/
def mergeBytes (repo shared : Bytes) : Except Failure Bytes := do
  let shared ← ofBytes shared
  let repo ← if repo.isEmpty then pure none else some <$> ofBytes repo
  return (merge repo shared).toBytes

end VcsSettings

/-- Gives every repository the settings shared by its kind. -/
def shareSettings (shared : NameMap VcsSettings) (repos : NameMap RepoConfig) : NameMap RepoConfig :=
  repos.map fun _ r =>
    match shared.get? r.vcs with
    | none => r
    | some settings => { r with vcsConfig := some (VcsSettings.merge r.vcsConfig settings) }

/-- Adds a project, made from the template, if its name is still free, and counts it. -/
def addProject (template : Option RepoConfig) (found : NameMap RepoConfig × Nat) (p : Project) :
    NameMap RepoConfig × Nat :=
  if found.1.contains p.name then found
  else (found.1.insert p.name { template.getD .empty with url := p.url }, found.2 + 1)

def countProjects (template : Option RepoConfig) (projects : List Project) (repos : NameMap RepoConfig) :
    NameMap RepoConfig × Nat :=
  projects.foldl (addProject template) (repos, 0)

def addProjects (template : Option RepoConfig) (projects : List Project) (repos : NameMap RepoConfig) :
    NameMap RepoConfig :=
  (countProjects template projects repos).1

end CodeSearch
