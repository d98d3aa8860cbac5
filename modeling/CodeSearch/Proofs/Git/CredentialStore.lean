import CodeSearch.Proofs.Config.DataDirs
import CodeSearch.Proofs.Files.Elsewhere
import CodeSearch.Proofs.Git.CredentialLines
import CodeSearch.Proofs.Git.Protocol
import CodeSearch.Proofs.Sync.Places
import CodeSearch.Proofs.Vcs.Secrets

/-!
# Where git looks for credentials

The file with the credentials of a working copy is put in the directory above it, at a path that the service
reads in its own current directory. Git is given that path to read it in the directory above the working
copy. From an absolute path both come to the same file; from a relative one git goes on below that directory.
-/

namespace CodeSearch

open Files

/-! ## The file -/

/-- A secret stands at a place: something was there before, or a file was made for it. -/
inductive Kept (before after : Disk) (path : String) (text : Except Failure String) (place : List Name) (t : Tree) :
    Prop
  | found (there : before.find true (Utf8.encode path) = .ok ⟨place, some t⟩) (same : after = before)
  | made {secret : String} (free : before.find false (Utf8.encode path) = .ok ⟨place, none⟩) (known : text = .ok secret)
      (file : t = .file (Utf8.encode secret) Site.ownerOnly)

theorem kept_of_keepSecret {path answer : String} {text : Except Failure String} {s after : Site}
    (busy : ∀ last ∈ (splitPath (Utf8.encode path)).getLast?, isIdle last = false)
    (h : s.keepSecret path text = (.ok answer, after)) :
    answer = path ∧ ∃ place t, after.disk.find true (Utf8.encode path) = .ok ⟨place, some t⟩ ∧
      Kept s.disk after.disk path text place t := by
  by_cases there : s.disk.pathExists path = true
  · rw [Site.keepSecret_there there] at h
    cases h
    refine ⟨rfl, ?_⟩
    unfold Disk.pathExists Disk.look at there
    cases hfound : s.disk.find true (Utf8.encode path) with
    | error e => simp [hfound, bind, Except.bind, Except.toBool] at there
    | ok found =>
      obtain ⟨place, tree⟩ := found
      cases tree with
      | none => simp [hfound, bind, Except.bind, Except.toBool] at there
      | some t => exact ⟨place, t, rfl, .found hfound rfl⟩
  · cases text with
    | error e =>
      rw [Site.keepSecret_refused there] at h
      cases h
    | ok secret =>
      cases hcreate : s.disk.create (Utf8.encode path) (Utf8.encode secret) Site.ownerOnly with
      | error e =>
        rw [Site.keepSecret_failed there hcreate] at h
        cases h
      | ok disk =>
        obtain ⟨place, hfree, hfound⟩ := Disk.find_create hcreate busy
        rw [Site.keepSecret_made there hcreate] at h
        cases h
        exact ⟨rfl, place, _, hfound, .made hfree rfl rfl⟩

namespace Git

open CodeSearch.Path (isAbsolute join tidy Entry)

variable {settings : Settings} {base n url path : String} {tool : Tool} {site : Site} {q : Query}

/-- What becomes of the file with the credentials when a working copy is cloned. -/
def keptFile (settings : Settings) (parent name url : String) (site : Site) : Except Failure String × Site :=
  Site.keepSecret (credentialPath parent name) (credentialLine url settings.username settings.password)
    { site with disk := (site.disk.makeDirs parent).2 }

/-- A call to clone that is given a path to the credentials, and where the service and git find them. -/
structure Pointed (settings : Settings) (base n url : String) (site : Site) (q : Query) (path : String) : Prop where
  args : q.call.args = ["clone", "--depth", "1", url, n, "--config", "credential.helper=store --file " ++ path]
  file : ∃ place t, q.disk.find true (Utf8.encode path) = .ok ⟨place, some t⟩ ∧
    Kept (site.disk.makeDirs (tidy base)).2 q.disk path (credentialLine url settings.username settings.password) place t
  absolute : isAbsolute base = true →
    (q.disk.startedIn q.call.place).find true (Utf8.encode path) = q.disk.find true (Utf8.encode path)
  /-- Git looks for another path than the service, if it does not run out of links before. -/
  relative : isAbsolute base = false → q.disk.find true (Utf8.encode (join (tidy base) path)) ≠ .error .tooManyLinks →
    (q.disk.startedIn q.call.place).find true (Utf8.encode path) =
      q.disk.find true (Utf8.encode (join (tidy base) path))

theorem asked_credentialArgs (settings : Settings) (parent name url : String) (tool : Tool) (site : Site) :
    (credentialArgs settings parent name url).asked tool site = [] := by
  unfold credentialArgs
  split
  · refine (Script.asked_bind ..).trans ?_
    cases ((Script.keepSecret (credentialPath parent name)
      (credentialLine url settings.username settings.password)).run tool site).1 <;> rfl
  · rfl

theorem relative_secret (name : String) : isAbsolute ("." ++ name ++ "-credentials") = false := by
  simp [isAbsolute]

theorem isAbsolute_credentialPath (base name : String) : isAbsolute (credentialPath (tidy base) name) = isAbsolute base :=
  (Path.isAbsolute_join (relative_secret name)).trans (Path.isAbsolute_tidy base)

theorem credentialPath_ne_empty (parent name : String) : credentialPath parent name ≠ "" :=
  Path.join_ne_empty (by simp)

theorem not_cloning_of_pull (settings : Settings) (dir : String) {s : Site}
    (h : q ∈ (pull settings remoteHead dir).asked tool s) : q.call.args.head? ≠ some "clone" := by
  have hruns : RunsIn dir fun action => ∀ label dir args, action = .call label dir args → args.head? ≠ some "clone" := by
    intro label args other label' dir' args' heq
    cases heq
    exact other
  have huses : (pull settings remoteHead dir).Uses (fun _ => True) _ := uses_pull hruns
  obtain ⟨label, hcall⟩ := huses.asked h
  exact hcall _ _ _ rfl

/-- Whatever a clone asks git to clone, it asks with the arguments that it was given. -/
theorem mem_asked_cloneCall {dir parent : String} {args : List String} {s : Site}
    (asked : q ∈ (cloneCall settings dir parent args).asked tool s) (cloning : q.call.args.head? = some "clone") :
    q ∈ Query.ofCall parent args s := by
  rw [cloneCall, Script.asked_bind, Script.asked_call, List.mem_append] at asked
  rcases asked with asked | asked
  · exact asked
  · split at asked
    · cases asked
    · exact absurd cloning (not_cloning_of_pull settings dir asked)

/-- The question to clone is asked after the file has been kept. -/
theorem mem_asked_clone (entry : Entry n) (complete : settings.hasCredentials = true)
    (asked : q ∈ (clone settings remoteHead (join base n) url).asked tool site)
    (cloning : q.call.args.head? = some "clone") :
    q ∈ Query.ofCall (tidy base)
      (["clone", "--depth", "1", url, n] ++ keptArgs (keptFile settings (tidy base) n url site).1)
      (keptFile settings (tidy base) n url site).2 := by
  rw [clone_eq (Path.fileName?_join entry) (Path.parent?_join entry), Script.asked_bind, Script.run_makeDirs] at asked
  rw [Script.asked_makeDirs, List.nil_append] at asked
  cases hmade : site.disk.makeDirs (tidy base) with
  | mk answer disk =>
    have hkept : keptFile settings (tidy base) n url site = Site.keepSecret (credentialPath (tidy base) n)
        (credentialLine url settings.username settings.password) { site with disk := disk } := by
      rw [keptFile, hmade]
    cases answer with
    | error e =>
      simp only [Site.makeDirs, hmade] at asked
      cases asked
    | ok =>
      simp only [Site.makeDirs, hmade] at asked
      rw [Script.asked_bind, asked_credentialArgs, List.nil_append, run_credentialArgs complete, ← hkept] at asked
      generalize keptFile settings (tidy base) n url site = kept at asked ⊢
      exact mem_asked_cloneCall asked cloning

theorem pointed_of_asked (entry : Entry n) (complete : settings.hasCredentials = true)
    (kept : (keptFile settings (tidy base) n url site).1 = .ok path)
    (asked : q ∈ (clone settings remoteHead (join base n) url).asked tool site)
    (cloning : q.call.args.head? = some "clone") : Pointed settings base n url site q path := by
  have hquery := mem_asked_clone entry complete asked cloning
  cases hkept : keptFile settings (tidy base) n url site with
  | mk answer after =>
    rw [hkept] at kept hquery
    obtain rfl : answer = .ok path := kept
    obtain ⟨place, hplace, rfl⟩ := Query.mem_ofCall hquery
    obtain ⟨front, hfront⟩ := credentialPath_eq_append (tidy base) n
    obtain ⟨rfl, hfile⟩ := kept_of_keepSecret (hfront ▸ busy_of_append (by decide) (by decide)) hkept
    dsimp only at hfile
    obtain ⟨dir, hdir, isDir⟩ := Site.found_of_startPlace hplace
    have habsolute := isAbsolute_credentialPath base n
    refine ⟨rfl, hfile, fun absolute => ?_, fun relative enough => ?_⟩
    · exact Disk.find_startedIn_of_absolute (habsolute.trans absolute) place
    · have hleads := Disk.leadsTo_of_find hdir isDir
      exact Disk.find_startedIn hleads (habsolute.trans relative) (credentialPath_ne_empty (tidy base) n) enough

end Git

/-! ## Loaded configurations -/

namespace Config

open CodeSearch.Path (isAbsolute tidy)

/-- Where git looks for credentials under a configuration that was loaded: at the path of the service, which is
absolute or not by where it comes from. -/
structure PointsGit (env : Environment) (disk : Disk) (explicit : Option String) (config : Config) : Prop where
  rooted : isAbsolute config.dbpath = true ↔ Rooted env disk explicit
  pointed : ∀ (settings : Git.Settings) (name url path : String) (tool : Tool) (site : Site),
    settings.hasCredentials = true →
    (Git.keptFile settings (tidy config.dbpath) (workingName name) url site).1 = .ok path →
    ∀ q ∈ (Git.clone settings Git.remoteHead (config.workingDir name) url).asked tool site,
      q.call.args.head? = some "clone" → Git.Pointed settings config.dbpath (workingName name) url site q path

theorem pointsGit_of_load {env : Environment} {disk : Disk} {explicit : Option String} {config : Config}
    (loaded : load env disk explicit = .ok config) : PointsGit env disk explicit config where
  rooted := isAbsolute_dbpath_iff loaded
  pointed _ name _ _ _ _ complete kept _ asked cloning :=
    Git.pointed_of_asked (entry_workingName name) complete kept asked cloning

theorem exists_of_dbpath {result : Except Failure Config} {dir : String}
    (h : result.toOption.map (·.dbpath) = some dir) : ∃ config, result = .ok config ∧ config.dbpath = dir := by
  cases result with
  | error e => cases h
  | ok config => exact ⟨config, rfl, Option.some.inj h⟩

def dataIn (dir : String) : Environment := fun key => if key = "FATHOM_DATA_DIR" then some dir else none

def botUser : Git.Settings := ⟨false, "", "bot", "pw"⟩

theorem pointsGit_dataIn : ∃ config, load (dataIn "/srv/data") (.ofDir "/srv") none = .ok config ∧
    isAbsolute config.dbpath = true ∧ PointsGit (dataIn "/srv/data") (.ofDir "/srv") none config ∧
    ∃ q ∈ (Git.clone botUser Git.remoteHead (config.workingDir "a") "https://example.com/x").asked
        Git.idleTool Git.emptySite,
      Git.Pointed botUser config.dbpath (workingName "a") "https://example.com/x" Git.emptySite q
        "/srv/data/repos/.vcs-a-credentials" := by
  have hloads : (load (dataIn "/srv/data") (.ofDir "/srv") none).toOption.map (·.dbpath) = some "/srv/data/repos" := by
    decide +kernel
  obtain ⟨config, loaded, hdbpath⟩ := exists_of_dbpath hloads
  have hset : dataIn "/srv/data" "FATHOM_DATA_DIR" = some "/srv/data" := rfl
  have hpoints := pointsGit_of_load loaded
  have hkept : (Git.keptFile botUser (tidy config.dbpath) (workingName "a") "https://example.com/x"
      Git.emptySite).1 = .ok "/srv/data/repos/.vcs-a-credentials" := by
    rw [hdbpath]
    decide +kernel
  obtain ⟨q, asked, cloning⟩ : ∃ q ∈ (Git.clone botUser Git.remoteHead (config.workingDir "a")
      "https://example.com/x").asked Git.idleTool Git.emptySite, q.call.args.head? = some "clone" := by
    rw [workingDir, hdbpath]
    decide +kernel
  have hrooted : Rooted (dataIn "/srv/data") (.ofDir "/srv") none := .environment hset (by decide)
  exact ⟨config, loaded, hpoints.rooted.2 hrooted, hpoints, q, asked,
    hpoints.pointed _ _ _ _ _ _ rfl hkept q asked cloning⟩

/-- A file in the current directory that names a directory beside it. -/
def besideSite : Site :=
  ⟨⟨.dir [(Utf8.encode "srv", .dir [(Utf8.encode "fathom.json",
    .file (Utf8.encode "\x7b\"dbpath\": \"data\"\x7d") 0o644)])], [Utf8.encode "srv"]⟩, []⟩

/-- Git does not find the file that was made for it. -/
theorem credentials_missed : ∃ config, load (fun _ => none) besideSite.disk (some "./fathom.json") = .ok config ∧
    ∃ q ∈ (Git.clone botUser Git.remoteHead (config.workingDir "a") "https://example.com/x").asked
        Git.idleTool besideSite,
      q.call.args = ["clone", "--depth", "1", "https://example.com/x", "vcs-a", "--config",
        "credential.helper=store --file ./data/.vcs-a-credentials"] ∧
      q.disk.pathExists "./data/.vcs-a-credentials" = true ∧
      (q.disk.startedIn q.call.place).pathExists "./data/.vcs-a-credentials" = false := by
  have hloads : (load (fun _ => none) besideSite.disk (some "./fathom.json")).toOption.map (·.dbpath) =
      some "./data" := by decide +kernel
  obtain ⟨config, loaded, hdbpath⟩ := exists_of_dbpath hloads
  refine ⟨config, loaded, ?_⟩
  rw [workingDir, hdbpath]
  decide +kernel

end Config

end CodeSearch
