import CodeSearch.Config.Merge
import CodeSearch.Toml.Document

/-!
# The configuration

All settings of the service with their defaults, read from TOML or JSON.
-/

namespace CodeSearch

/-- A place that lists projects to serve. -/
structure SourceConfig where
  key : String
  url : String
  membershipRequired : Bool
  ownershipRequired : Bool
  /-- More projects than this are refused; 0 for any number. -/
  maximumProjects : Nat
  repoOptions : Option RepoConfig

/-- How callers prove which projects they may see. -/
structure OAuthConfig where
  clientId : String
  clientSecret : String
  tokenUrl : String
  authUrl : String
  redirectHost : String
  deriving DecidableEq

structure Config where
  /-- The directory of the working copies. -/
  dbpath : String
  title : String
  maxConcurrentIndexers : Nat
  healthCheckUri : String
  host : String
  port : Nat
  maxFileSizeMb : Nat
  /-- Driver settings shared by all repositories of a kind. -/
  vcsConfig : NameMap VcsSettings
  repos : NameMap RepoConfig
  gitlabSync : NameMap SourceConfig
  gitlabOauth : Option OAuthConfig

namespace SourceConfig

def decode : Decoder SourceConfig := fun d node => do
  match ← Decoder.fields ["key", "url", "membership-required", "ownership-required",
      "maximum-projects", "repo-options"] d node with
  | [key, url, membership, ownership, maximum, options] =>
    let key ← Decoder.absentAs "" Decoder.string d key
    let url ← Decoder.absentAs "https://gitlab.com" Decoder.string d url
    let membership ← Decoder.absentAs true Decoder.bool d membership
    let ownership ← Decoder.absentAs false Decoder.bool d ownership
    let maximum ← Decoder.absentAs 1000 (Decoder.nat 64) d maximum
    let options ← Decoder.absentAs none (Decoder.option RepoConfig.decode) d options
    return ⟨key, url, membership, ownership, maximum, options⟩
  | _ => none

/-- The source of the projects that the owner of a token is a member of. -/
def ofToken (url token : String) : SourceConfig := ⟨token, url, true, false, 0, none⟩

/-- A source in a diagnostic text, without its key. -/
def describe (s : SourceConfig) : String :=
  Describe.record "GitlabSyncConfig"
    [("url", Text.quoted s.url), ("membership_required", Describe.bool s.membershipRequired),
      ("ownership_required", Describe.bool s.ownershipRequired),
      ("maximum_projects", toString s.maximumProjects)] true

end SourceConfig

namespace OAuthConfig

def decode : Decoder OAuthConfig := fun d node => do
  match ← Decoder.fields ["client-id", "client-secret", "token-url", "auth-url", "redirect-host"]
      d node with
  | [clientId, clientSecret, tokenUrl, authUrl, redirectHost] =>
    let clientId ← Decoder.present Decoder.string d clientId
    let clientSecret ← Decoder.present Decoder.string d clientSecret
    let tokenUrl ← Decoder.present Decoder.string d tokenUrl
    let authUrl ← Decoder.present Decoder.string d authUrl
    let redirectHost ← Decoder.present Decoder.string d redirectHost
    return ⟨clientId, clientSecret, tokenUrl, authUrl, redirectHost⟩
  | _ => none

/-- The provider in a diagnostic text, without the client's secret. -/
def describe (o : OAuthConfig) : String :=
  Describe.record "OAuthConfig"
    [("client_id", Text.quoted o.clientId), ("token_url", Text.quoted o.tokenUrl),
      ("auth_url", Text.quoted o.authUrl), ("redirect_host", Text.quoted o.redirectHost)] true

end OAuthConfig

namespace Config

def default : Config where
  dbpath := ""
  title := "Fathom"
  maxConcurrentIndexers := 2
  healthCheckUri := "/healthz"
  host := "127.0.0.1"
  port := 6080
  maxFileSizeMb := 5
  vcsConfig := ∅
  repos := ∅
  gitlabSync := ∅
  gitlabOauth := none

instance : Inhabited Config := ⟨default⟩

def decodeServer : Decoder (String × Nat) := fun d node => do
  match ← Decoder.fields ["host", "port"] d node with
  | [host, port] =>
    let host ← Decoder.absentAs default.host Decoder.string d host
    let port ← Decoder.absentAs default.port (Decoder.nat 16) d port
    return (host, port)
  | _ => none

def decodeSearch : Decoder Nat := fun d node => do
  match ← Decoder.fields ["max-file-size-mb"] d node with
  | [size] => Decoder.absentAs default.maxFileSizeMb (Decoder.nat 64) d size
  | _ => none

def decode : Decoder Config := fun d node => do
  match ← Decoder.fields ["dbpath", "title", "max-concurrent-indexers", "health-check-uri", "server",
      "search", "vcs-config", "repos", "gitlab-sync", "gitlab-oauth"] d node with
  | [dbpath, title, indexers, health, server, search, vcsConfig, repos, sources, oauth] =>
    let dbpath ← Decoder.absentAs default.dbpath Decoder.string d dbpath
    let title ← Decoder.absentAs default.title Decoder.string d title
    let indexers ← Decoder.absentAs default.maxConcurrentIndexers (Decoder.nat 64) d indexers
    let health ← Decoder.absentAs default.healthCheckUri Decoder.string d health
    let (host, port) ← Decoder.absentAs (default.host, default.port) decodeServer d server
    let size ← Decoder.absentAs default.maxFileSizeMb decodeSearch d search
    let vcsConfig ← Decoder.absentAs ∅ (Decoder.nameMap Decoder.object) d vcsConfig
    let repos ← Decoder.absentAs ∅ (Decoder.nameMap RepoConfig.decode) d repos
    let sources ← Decoder.absentAs ∅ (Decoder.nameMap SourceConfig.decode) d sources
    let oauth ← Decoder.absentAs none (Decoder.option OAuthConfig.decode) d oauth
    return ⟨dbpath, title, indexers, health, host, port, size, vcsConfig, repos, sources, oauth⟩
  | _ => none

def parse (isJson : Bool) (text : String) : Except Failure Config :=
  if isJson then
    match (Json.node? (Utf8.encode text)).bind (decode Decoding.json) with
    | some config => .ok config
    | none => .error (.json "not a configuration")
  else
    match (Toml.node? text.toList).bind (decode Decoding.toml) with
    | some config => .ok config
    | none => .error (.toml "not a configuration")

end Config

end CodeSearch
