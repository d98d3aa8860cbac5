import CodeSearch.Git.Driver

/-!
# Kinds of version control

The drivers by the names that the configuration has for them.
-/

namespace CodeSearch.VcsDriver

def kinds : List (String × (Option VcsSettings → Except Failure VcsDriver)) :=
  [("git", fun settings => (Git.Settings.ofVcs settings).map fun s => Git.driver s Git.remoteHead)]

def kindNames : List String := kinds.map (·.1)

def ofKind (kind : String) (settings : Option VcsSettings) : Except Failure VcsDriver :=
  match kinds.lookup kind with
  | some build => build settings
  | none => .error (.unknownVcs kind)

end CodeSearch.VcsDriver
