import CodeSearch.Cli.Args
import CodeSearch.Cli.Duration
import CodeSearch.Cli.Outcome
import CodeSearch.Json.Printer
import CodeSearch.Sync.Coordinator

/-!
# Synchronizing on command

The repositories that are asked for are synchronized once and reported. All names are looked up before
anything is done.
-/

namespace CodeSearch.Cli

/-- The repositories to synchronize: those asked for, or all. A name that is not known ends it. -/
def syncNames {D : Type} (c : Coordinator D) (asked : List String) : Except Failure (List String) :=
  let names := if asked.isEmpty then c.names else asked
  match names.find? fun name => !c.contains name with
  | some unknown => .error (.repositoryNotFound unknown)
  | none => .ok names

/-- What became of each repository: its revision, or why it could not be synchronized. -/
abbrev SyncReport := NameMap (Except Failure String)

namespace SyncReport

def failed (r : SyncReport) : Nat := (r.values.filter fun result => !result.toBool).length

def resultJson : Except Failure String → Json
  | .ok revision => .record [("ok", .record [("revision", .string revision)])]
  | .error e => .record [("failed", .record [("error", .string e.message)])]

def toJson (elapsed : Nat) (r : SyncReport) : Json :=
  .record [("repos", .ofNameMap (NameMap.map (fun _ result => resultJson result) r)),
    ("duration_ms", .nat elapsed)]

def resultLine (color : Bool) (name : String) (result : Except Failure String) : String :=
  Style.repoName.paint color name ++ " " ++
    match result with
    | .ok revision => Style.revision.paint color (shortRev revision)
    | .error e => Style.error.paint color e.message

def human (color : Bool) (elapsed : Nat) (r : SyncReport) : List String :=
  (NameMap.toList r).map (fun (name, result) => resultLine color name result) ++
    if r.failed = 0 then
      [Style.success.paint color
        ("Synced " ++ toString r.size ++ " repositories in " ++ formatDuration elapsed)]
    else []

def outcome (color : Bool) (format : Format) (elapsed : Nat) (r : SyncReport) : Outcome :=
  let lines :=
    match format with
    | .human => r.human color elapsed
    | .json => [(r.toJson elapsed).pretty]
  if r.failed = 0 then .success lines else .failure color lines (.unsynced r.failed r.size)

end SyncReport

def sync (tool : Tool) (list : SourceConfig → Except Failure (List Project)) (asked : List String)
    (config : Config) (site : Site) : Except RunError SyncReport × Site :=
  match config.discover list with
  | .error e => (.error (.failure e), site)
  | .ok (config, _) =>
    match site.disk.makeDirs config.dbpath with
    | (.error e, disk) => (.error (.directory e), { site with disk := disk })
    | (.ok (), disk) =>
      let site := { site with disk := disk }
      let coordinator := Coordinator.ofConfig config
      if coordinator.Fits then
        match syncNames coordinator asked with
        | .error e => (.error (.failure e), site)
        | .ok names =>
          let (results, site) := (coordinator.syncMany names).run tool site
          (.ok results, site)
      else (.error .panicked, site)

end CodeSearch.Cli
