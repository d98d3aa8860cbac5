import CodeSearch.Config.Merge
import CodeSearch.Git.Credentials
import CodeSearch.Git.HeadBranch
import CodeSearch.Json.Reader
import CodeSearch.Vcs.Driver

/-!
# The git driver

Working copies are shallow and follow one ref: the configured one, else the default branch of the remote
where it is to be detected, else `master`. A pull fetches that ref and resets the working copy to it. If
either fails the old state stays, and the answer is the revision that is then checked out.
-/

namespace CodeSearch.Git

structure Settings where
  detectRef : Bool
  ref : String
  username : String
  password : String
  deriving DecidableEq

namespace Settings

def default : Settings := ⟨false, "", "", ""⟩

def decode : Decoder Settings := fun d node => do
  match ← Decoder.fields ["detect-ref", "ref", "username", "password"] d node with
  | [detectRef, ref, username, password] =>
    let detectRef ← Decoder.absentAs false Decoder.bool d detectRef
    let ref ← Decoder.absentAs "" Decoder.string d ref
    let username ← Decoder.absentAs "" Decoder.string d username
    let password ← Decoder.absentAs "" Decoder.string d password
    return ⟨detectRef, ref, username, password⟩
  | _ => none

def ofNode (node : Option Node) : Except Failure Settings :=
  match node.bind (decode Decoding.json) with
  | some settings => .ok settings
  | none => .error (.json "not settings of git")

def ofBytes (bs : Bytes) : Except Failure Settings := ofNode (Json.node? bs)

/-- The settings of a repository, handed over as a JSON text; without any, all are defaults. -/
def ofVcs : Option VcsSettings → Except Failure Settings
  | none => .ok default
  | some settings => ofBytes settings.toBytes

/-- Credentials count only when they are complete. -/
def hasCredentials (s : Settings) : Bool := !s.username.isEmpty && !s.password.isEmpty

/-- The settings in a diagnostic text, without the credentials. -/
def describe (s : Settings) : String :=
  Describe.record "GitDriver"
    [("detect_ref", Describe.bool s.detectRef), ("ref", Text.quoted s.ref),
      ("credentials", Describe.bool s.hasCredentials)] false

end Settings

/-- Finds the default branch of the remote of a working copy. -/
abbrev RefDetector := (dir : String) → Script (Option String)

def remoteHead : RefDetector := fun dir => do
  match ← Script.call "git remote show" dir ["remote", "show", "origin"] with
  | .ok output => return headBranch? output
  | .error _ => return none

def defaultRef : String := "master"

def targetRef (settings : Settings) (detect : RefDetector) (dir : String) : Script String :=
  if !settings.ref.isEmpty then pure settings.ref
  else if settings.detectRef then do
    return (← detect dir).getD defaultRef
  else pure defaultRef

def headRev (dir : String) : Script (Except Failure String) := do
  let output ← Script.call "git rev-parse" dir ["rev-parse", "HEAD"]
  return output.map Text.trim

def fetchArgs (ref : String) : List String :=
  ["fetch", "--prune", "--no-tags", "--depth", "1", "origin", "+" ++ ref ++ ":remotes/origin/" ++ ref]

/-- Follows a ref. Only the last call decides on success. -/
def follow (ref dir : String) : Script (Except Failure String) := do
  let _ ← Script.call "git fetch" dir (fetchArgs ref)
  let _ ← Script.call "git reset" dir ["reset", "--hard", "origin/" ++ ref]
  headRev dir

def pull (settings : Settings) (detect : RefDetector) (dir : String) :
    Script (Except Failure String) := do
  follow (← targetRef settings detect dir) dir

/-- Arguments that point git to the credentials; none if there are none or they cannot be kept. -/
def credentialArgs (settings : Settings) (parent dirName url : String) : Script (List String) :=
  if settings.hasCredentials then do
    match ← Script.keepSecret (credentialPath parent dirName)
        (credentialLine url settings.username settings.password) with
    | .ok path => return ["--config", "credential.helper=store --file " ++ path]
    | .error _ => return []
  else pure []

/-- The directory above a working copy and the name in it. -/
def splitDir (dir : String) : Except Failure (String × String) :=
  match Path.fileName? dir with
  | some name => .ok ((Path.parent? dir).getD ".", name)
  | none => .error (.config ("Invalid working directory " ++ Text.quotedPath dir))

def clone (settings : Settings) (detect : RefDetector) (dir url : String) :
    Script (Except Failure String) :=
  match splitDir dir with
  | .error e => pure (.error e)
  | .ok (parent, name) => do
    match ← Script.makeDirs parent with
    | .error e => return .error e
    | .ok _ =>
      let more ← credentialArgs settings parent name url
      match ← Script.call "git clone" parent (["clone", "--depth", "1", url, name] ++ more) with
      | .error e => return .error e
      | .ok _ => pull settings detect dir

def special : List String := [".git"]

def driver (settings : Settings) (detect : RefDetector) : VcsDriver where
  clone := clone settings detect
  pull := pull settings detect
  headRev := headRev
  special := special

end CodeSearch.Git
