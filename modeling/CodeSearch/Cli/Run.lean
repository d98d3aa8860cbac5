import CodeSearch.Cli.CheckConfig
import CodeSearch.Cli.Sync
import CodeSearch.Config.Load
import CodeSearch.Program
import CodeSearch.Services

/-!
# Running the program

From the arguments and the environment to what is printed, or to an address to listen on with the services
for it.
-/

namespace CodeSearch.Cli

structure World where
  env : Environment
  /-- Whether what is printed goes to a terminal. -/
  terminal : Bool
  tool : Tool
  list : SourceConfig → Except Failure (List Project)
  /-- How long synchronizing takes. -/
  elapsed : Nat

/-- Whether to use colours: when they are forced, or else on a terminal unless they are turned off. -/
def World.color (w : World) : Bool :=
  if (w.env "CLICOLOR_FORCE").any (· != "0") then true
  else w.terminal && (w.env "NO_COLOR").isNone && (w.env "CLICOLOR").all (· != "0")

inductive Next where
  | finished (outcome : Outcome)
  /-- Serves requests at an address, if it can be listened on. -/
  | listen (address : String) (services : Services WorkingCopy)

def World.notListening (w : World) (reason : String) : Outcome :=
  .failure w.color [] (.failure (.io reason))

def versionLine (command : Option String) : String :=
  Program.name ++ ((command.map ("-" ++ ·)).getD "") ++ " " ++ Program.version

def usageLines : List String :=
  ["Usage: " ++ Program.name ++ " [OPTIONS] <COMMAND>",
    "",
    "Commands:",
    "  serve [--addr <HOST:PORT>] [--log-json]  Sync all repositories and serve the search API",
    "  check-config [--no-discovery]            Load, merge and validate the configuration",
    "  sync [REPOS]...                          Clone or pull repositories once",
    "",
    "Options:",
    "  -c, --config <CONFIG>  Configuration file (TOML, or JSON with a .json extension)",
    "      --format <FORMAT>  Output format: human or json",
    "  -h, --help             Print help",
    "  -V, --version          Print version"]

def Stop.outcome : Stop → Outcome
  | .help => .success usageLines
  | .version command => .success [versionLine command]
  | .usage => ⟨[], usageLines, 2⟩

def World.fail (w : World) (e : RunError) : Next := .finished (.failure w.color [] e)

def World.command (w : World) (a : Arguments) (config : Config) (site : Site) : Next × Site :=
  match a.command with
  | .checkConfig noDiscovery =>
    match Cli.checkConfig w.list noDiscovery config with
    | .ok summary => (.finished (summary.outcome w.color a.format), site)
    | .error e => (w.fail (.failure e), site)
  | .sync repos =>
    match Cli.sync w.tool w.list repos config site with
    | (.ok report, site) => (.finished (report.outcome w.color a.format w.elapsed), site)
    | (.error e, site) => (w.fail e, site)
  | .serve address _ =>
    match Services.bootstrap w.tool w.list config site with
    | (.ok services, site) => (.listen (address.getD (listenAddress config)) services, site)
    | (.error (.failed e), site) => (w.fail (.failure e), site)
    | (.error .panicked, site) => (w.fail .panicked, site)

/-- Makes the user's directories, loads the configuration and runs the command. -/
def World.run (w : World) (args : List String) (site : Site) : Next × Site :=
  match parse args with
  | .error stop => (.finished stop.outcome, site)
  | .ok a =>
    match (UserDirs.ofEnv w.env).create site.disk with
    | .error e => (w.fail (.directory e), site)
    | .ok disk =>
      let site := { site with disk := disk }
      match Config.load w.env site.disk a.config with
      | .error e => (w.fail (.failure e), site)
      | .ok config => w.command a config site

end CodeSearch.Cli
