import CodeSearch.Config.Repo
import CodeSearch.Text.Blank

/-!
# Access

Which repositories a caller may act on. A repository that is denied is not reported: it is left out, just as
if it did not exist.
-/

namespace CodeSearch

inductive RepoSelection where
  | all
  | names (names : List String)
  deriving DecidableEq, Repr

/-- A star is every repository; else names stand between commas. Only the whole text is trimmed, so names
keep their blanks. -/
def RepoSelection.parse (text : String) : RepoSelection :=
  let body := Text.trimChars text.toList
  if body = ['*'] then .all
  else .names (((body.splitOnP (· == ',')).filter (!·.isEmpty)).map String.ofList)

/-- What a caller presents: an access key, and the URLs that a session has authorized. -/
structure Caller where
  accessKey : String
  authorizedUrls : List String

def Caller.anonymous : Caller := ⟨"", []⟩

/-- A list of keys decides alone where there is one. Else a marker of any value asks for the URL among the
authorized ones. All other repositories are open. -/
def Caller.mayUse (caller : Caller) (repo : RepoConfig) : Bool :=
  match repo.accessKeys with
  | some keys => keys.contains caller.accessKey
  | none =>
    match repo.oauthAuthorization with
    | some _ => caller.authorizedUrls.contains repo.url
    | none => true

/-- Served repositories by name. `S` is what can be done with one. -/
structure Repository (S : Type) where
  config : RepoConfig
  searcher : S

abbrev Registry (S : Type) := NameMap (Repository S)

/-- The names of a selection that are served and that the caller may use, in order and without
repetition. -/
def Registry.resolve {S : Type} (registry : Registry S) (caller : Caller) :
    RepoSelection → List String
  | .all => (registry.filter fun _ r => caller.mayUse r.config).keys
  | .names names =>
    (NameMap.ofList ((names.filter fun name =>
      (registry.get? name).any fun r => caller.mayUse r.config).map fun name => (name, ()))).keys

end CodeSearch
