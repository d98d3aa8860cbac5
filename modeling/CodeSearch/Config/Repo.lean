import CodeSearch.Json.Decode
import CodeSearch.Text.Quoted

/-!
# Repositories in the configuration

The settings of one repository, their defaults, and the part of them that callers may see.
-/

namespace CodeSearch

/-- Where a match can be looked at: a page and the anchor of a line in it, with places to fill in. -/
structure UrlPattern where
  baseUrl : String
  anchor : String
  deriving DecidableEq, Repr, Inhabited

/-- Settings that only a version control driver understands. They may hold credentials. -/
abbrev VcsSettings := NameMap Json

structure RepoConfig where
  url : String
  /-- Time between polls; 0 stands for the default. -/
  msBetweenPoll : Nat
  vcs : String
  vcsConfig : Option VcsSettings
  /-- If given, only callers with one of these keys may use the repository. -/
  accessKeys : Option (List String)
  /-- If given, whatever its value, callers need the URL among those authorized for them. -/
  oauthAuthorization : Option Bool
  urlPattern : Option UrlPattern
  excludeDotFiles : Bool
  enablePollUpdates : Option Bool
  enablePushUpdates : Option Bool
  deriving Inhabited

def defaultMsBetweenPoll : Nat := 30000

def defaultVcs : String := "git"

def defaultPattern : UrlPattern :=
  ⟨"\x7burl\x7d/blob/\x7brev\x7d/\x7bpath\x7d\x7banchor\x7d", "#L\x7bline\x7d"⟩

namespace UrlPattern

def decode : Decoder UrlPattern := fun d node => do
  match ← Decoder.fields ["base-url", "anchor"] d node with
  | [baseUrl, anchor] =>
    let baseUrl ← Decoder.absentAs "" Decoder.string d baseUrl
    let anchor ← Decoder.absentAs "" Decoder.string d anchor
    return ⟨baseUrl, anchor⟩
  | _ => none

/-- Each part that is empty takes its default. -/
def withDefaults (p : UrlPattern) : UrlPattern :=
  ⟨if p.baseUrl.isEmpty then defaultPattern.baseUrl else p.baseUrl,
    if p.anchor.isEmpty then defaultPattern.anchor else p.anchor⟩

def toJson (p : UrlPattern) : Json :=
  .record [("base-url", .string p.baseUrl), ("anchor", .string p.anchor)]

end UrlPattern

namespace RepoConfig

def empty : RepoConfig := ⟨"", 0, "", none, none, none, none, false, none, none⟩

def decode : Decoder RepoConfig := fun d node => do
  match ← Decoder.fields ["url", "ms-between-poll", "vcs", "vcs-config", "access-keys",
      "oauth-authorization", "url-pattern", "exclude-dot-files", "enable-poll-updates",
      "enable-push-updates"] d node with
  | [url, msBetweenPoll, vcs, vcsConfig, accessKeys, oauth, urlPattern, dotFiles, poll, push] =>
    let url ← Decoder.absentAs "" Decoder.string d url
    let msBetweenPoll ← Decoder.absentAs 0 (Decoder.nat 64) d msBetweenPoll
    let vcs ← Decoder.absentAs "" Decoder.string d vcs
    let vcsConfig ← Decoder.absentAs none (Decoder.option Decoder.object) d vcsConfig
    let accessKeys ←
      Decoder.absentAs none (Decoder.option (Decoder.list Decoder.string)) d accessKeys
    let oauth ← Decoder.absentAs none (Decoder.option Decoder.bool) d oauth
    let urlPattern ← Decoder.absentAs none (Decoder.option UrlPattern.decode) d urlPattern
    let dotFiles ← Decoder.absentAs false Decoder.bool d dotFiles
    let poll ← Decoder.absentAs none (Decoder.option Decoder.bool) d poll
    let push ← Decoder.absentAs none (Decoder.option Decoder.bool) d push
    return ⟨url, msBetweenPoll, vcs, vcsConfig, accessKeys, oauth, urlPattern, dotFiles, poll, push⟩
  | _ => none

def withDefaults (r : RepoConfig) : RepoConfig :=
  { r with
    msBetweenPoll := if r.msBetweenPoll = 0 then defaultMsBetweenPoll else r.msBetweenPoll
    vcs := if r.vcs.isEmpty then defaultVcs else r.vcs
    urlPattern := some (r.urlPattern.getD ⟨"", ""⟩).withDefaults }

def ofUrl (url : String) : RepoConfig := { empty with url := url }.withDefaults

def pollEnabled (r : RepoConfig) : Bool := r.enablePollUpdates.getD true

def pushEnabled (r : RepoConfig) : Bool := r.enablePushUpdates.getD false

/-- Milliseconds between polls, never none. -/
def pollInterval (r : RepoConfig) : Nat := max r.msBetweenPoll 1

/-- What callers may see: nothing of keys, markers and driver settings. -/
def publicView (r : RepoConfig) : Json :=
  .record [("url", .string r.url), ("ms-between-poll", .nat r.msBetweenPoll),
    ("vcs", .string r.vcs), ("url-pattern", .ofOption UrlPattern.toJson r.urlPattern),
    ("exclude-dot-files", .bool r.excludeDotFiles),
    ("enable-poll-updates", .ofOption .bool r.enablePollUpdates),
    ("enable-push-updates", .ofOption .bool r.enablePushUpdates)]

end RepoConfig

namespace Describe

def option {α : Type} (f : α → String) : Option α → String
  | none => "None"
  | some a => "Some(" ++ f a ++ ")"

def bool (b : Bool) : String := if b then "true" else "false"

/-- A record in a diagnostic text; `hidden` says that some fields are not shown. -/
def record (name : String) (fields : List (String × String)) (hidden : Bool) : String :=
  let parts := fields.map (fun f => f.1 ++ ": " ++ f.2) ++ if hidden then [".."] else []
  name ++ " \x7b " ++ String.intercalate ", " parts ++ " \x7d"

end Describe

/-- Driver settings in a diagnostic text: only how many there are. -/
def VcsSettings.describe (settings : VcsSettings) : String :=
  "VcsConfigBlob(<" ++ toString settings.size ++ " redacted fields>)"

def RepoConfig.describe (r : RepoConfig) : String :=
  Describe.record "RepoConfig"
    [("url", Text.quoted r.url), ("ms_between_poll", toString r.msBetweenPoll),
      ("vcs", Text.quoted r.vcs), ("vcs_config", Describe.option VcsSettings.describe r.vcsConfig),
      ("access_keys", Describe.option (fun keys => toString keys.length) r.accessKeys),
      ("oauth_authorization", Describe.option Describe.bool r.oauthAuthorization),
      ("exclude_dot_files", Describe.bool r.excludeDotFiles)] true

end CodeSearch
