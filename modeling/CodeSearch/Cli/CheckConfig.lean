import CodeSearch.Cli.Args
import CodeSearch.Cli.Outcome
import CodeSearch.Config.Finalize
import CodeSearch.Json.Printer

/-!
# Checking the configuration

The configuration with its discovered projects is checked and summed up. The summary shows no secrets.
-/

namespace CodeSearch.Cli

structure ConfigSummary where
  title : String
  dbpath : String
  listen : String
  oauth : Bool
  /-- How many projects were discovered that the configuration does not name. -/
  discovered : Nat
  repos : NameMap RepoConfig

/-- The address that is listened on unless another is asked for. -/
def listenAddress (config : Config) : String := config.host ++ ":" ++ toString config.port

namespace ConfigSummary

def ofConfig (config : Config) (discovered : Nat) : ConfigSummary where
  title := config.title
  dbpath := config.dbpath
  listen := listenAddress config
  oauth := config.gitlabOauth.isSome
  discovered := discovered
  repos := config.repos

def toJson (s : ConfigSummary) : Json :=
  .record [("title", .string s.title), ("dbpath", .string s.dbpath), ("listen", .string s.listen),
    ("oauth", .bool s.oauth), ("discovered", .nat s.discovered),
    ("repos", .ofNameMap (s.repos.map fun _ r => r.publicView))]

def repoLines (color : Bool) (name : String) (repo : RepoConfig) : List String :=
  let dim := Style.dim.paint color
  let poll := if repo.pollEnabled then toString repo.msBetweenPoll ++ "ms" else onOff color false
  [Style.repoName.paint color name ++ " " ++ Style.url.paint color repo.url,
    "  " ++ dim "vcs" ++ " " ++ repo.vcs ++ "  " ++ dim "push" ++ " " ++ onOff color repo.pushEnabled ++
      "  " ++ dim "poll" ++ " " ++ poll]

def headLines (color : Bool) (s : ConfigSummary) : List String :=
  let field (name value : String) := "  " ++ Style.label.paint color name ++ ": " ++ value
  [Style.label.paint color s.title, field "dbpath" (Style.url.paint color s.dbpath),
    field "listen" s.listen, field "oauth" (onOff color s.oauth)] ++
    if s.discovered = 0 then []
    else [field "discovered" (Style.number.paint color (toString s.discovered))]

/-- What is printed for reading. A configuration without repositories is fit for use, but warned of. -/
def human (color : Bool) (s : ConfigSummary) : Outcome :=
  let lines := s.headLines color ++ [""] ++
    (s.repos.toList.flatMap fun (name, repo) => repoLines color name repo) ++ [""]
  if s.repos.isEmpty then
    ⟨lines, [Style.warning.paint color "Warning" ++ ": No repositories configured"], 0⟩
  else
    .success (lines ++ [Style.success.paint color
      ("Configuration OK (" ++ toString s.repos.size ++ " repositories)")])

def outcome (color : Bool) (format : Format) (s : ConfigSummary) : Outcome :=
  match format with
  | .human => s.human color
  | .json => .success [s.toJson.pretty]

end ConfigSummary

/-- Checks a configuration, with the projects that are discovered unless that is not wanted. -/
def checkConfig (list : SourceConfig → Except Failure (List Project)) (noDiscovery : Bool)
    (config : Config) : Except Failure ConfigSummary := do
  let (config, discovered) ← if noDiscovery then pure (config, 0) else config.discover list
  config.validate
  return .ofConfig config discovered

end CodeSearch.Cli
