import CodeSearch.Proofs.Config.Discovery
import CodeSearch.Proofs.Search.Exclusions
import CodeSearch.Proofs.Sync.Collecting
import CodeSearch.Proofs.Sync.Confluence
import CodeSearch.Proofs.Text.Encoding
import CodeSearch.Services

/-!
# What is served

When services are built from a configuration, exactly those repositories are served that have a driver and
whose synchronization succeeded, each from its own working copy and at the revision that it was synchronized
to. What becomes of the others does not matter to any of them.
-/

namespace CodeSearch

open Files

theorem Site.makeDirs_snd (path : String) (site : Site) :
    (site.makeDirs path).2 = { site with disk := (site.disk.makeDirs path).2 } := by
  unfold Site.makeDirs
  split <;> rename_i h <;> rw [h]

/-! ## What a searcher looks at -/

structure WorkingCopy.Stands (disk : Disk) (root : String) (t : Tree) : Prop where
  look : disk.look (Utf8.encode root) = .ok t
  isDir : t.isDir = true
  proper : t.Proper

/-- A place at or below an entry at the top that has one of some names. -/
def InSpecial (special : List String) (path : List Name) : Prop :=
  ∃ name ∈ special, path.head? = some (Utf8.encode name)

/-- A searcher looks below one directory, passes over some entries at its top, and reports one revision. -/
structure WorkingCopy.Covers (w : WorkingCopy) (root : String) (special : List String) (revision : String) :
    Prop where
  /-- All that it answers is decided by what else stands below the directory. -/
  decided : ∀ {disk disk' t t'}, Stands disk root t → Stands disk' root t' →
    (∀ path, ¬InSpecial special path → t.node? path = t'.node? path) → ∀ query options,
      w.search disk query options = w.search disk' query options ∧ w.excludedFiles disk = w.excludedFiles disk'
  /-- The files that it reports are among those. -/
  reported : ∀ {disk t query options response}, Stands disk root t → w.search disk query options = .ok response →
    ∀ filename ∈ response.matched.map (·.filename), ∃ path content mode,
      t.at? path = some (.file content mode) ∧ ¬InSpecial special path ∧ slashJoined path = filename
  revision : ∀ {disk query options response}, w.search disk query options = .ok response →
    response.revision = revision

namespace WorkingCopy

variable {w : WorkingCopy} {disk : Disk} {t : Tree} {path : List Name}

theorem Stands.tree? (stands : Stands disk w.root t) : w.tree? disk = .ok t := by
  obtain ⟨entries, rfl⟩ := Tree.isDir_iff.1 stands.isDir
  rw [WorkingCopy.tree?, stands.look]

theorem Reached.not_inSpecial (reached : w.Reached path) : ¬InSpecial w.special path := by
  rintro ⟨text, htext, hhead⟩
  have hspecial := reached.not_special _ hhead
  rw [Utf8.decodeLossy_of_decode? (Utf8.decode?_encode text)] at hspecial
  exact hspecial htext

theorem covers (w : WorkingCopy) : w.Covers w.root w.special w.revision where
  decided {disk disk' t t'} stands stands' same query options := by
    have hwalk : walkTree w.rules true t = walkTree w.rules true t' :=
      walkTree_congr stands.proper stands'.proper stands.isDir stands'.isDir fun path names spelled allows =>
        same path ((reached_iff spelled).2 allows).not_inSpecial
    have hsearch : ∀ m, w.searchTree m options t = w.searchTree m options t' := fun m => by
      rw [searchTree, searchTree, hwalk]
    have hexcluded : w.excludedTree t = w.excludedTree t' := by rw [excludedTree, excludedTree, hwalk]
    rw [search, search, excludedFiles, excludedFiles, stands.tree?, stands'.tree?]
    simp [hsearch, hexcluded, bind, Except.bind]
  reported {disk t query options response} stands h filename hfilename := by
    obtain ⟨m, compiled, rfl⟩ := exists_of_search stands.tree? h
    obtain ⟨f, hf, rfl⟩ := List.mem_map.1 (filenames_sublist.mem hfilename)
    obtain ⟨mode, hfile, spelled, allows⟩ := exists_spelled stands.proper stands.isDir (reported_sublist.mem hf)
    exact ⟨f.key, f.content, mode, hfile, ((reached_iff spelled).2 allows).not_inSpecial, spelled.path_eq.symm⟩
  revision {disk query options response} h := by
    cases hcompile : Matcher.compile query options with
    | error e => simp [search, hcompile, bind, Except.bind] at h
    | ok m =>
      cases htree : w.tree? disk with
      | error e => simp [search, hcompile, htree, bind, Except.bind] at h
      | ok t =>
        rw [search_eq hcompile htree] at h
        cases h
        exact congrArg SearchResponse.revision (searchTree_eq w m options t)

end WorkingCopy

/-! ## Which repositories have a driver -/

/-- A repository of a configuration, and the driver that can be built for it. -/
structure Config.Drives (config : Config) (name : String) (repo : RepoConfig) (driver : VcsDriver) : Prop where
  there : config.repos.get? name = some repo
  built : VcsDriver.ofKind repo.vcs repo.vcsConfig = .ok driver

namespace Coordinator

variable {config : Config} {name : String} {target : SyncTarget VcsDriver}

theorem get?_targets_iff : (ofConfig config).targets.get? name = some target ↔
    ∃ repo driver, config.Drives name repo driver ∧ target = {
      url := repo.url
      workingDir := config.workingDir name
      pollInterval := if repo.pollEnabled then some repo.pollInterval else none
      pushEnabled := repo.pushEnabled
      driver := driver } := by
  rw [ofConfig, NameMap.get?_filterMap, Option.bind_eq_some_iff]
  constructor
  · rintro ⟨repo, hrepo, htarget⟩
    unfold target? at htarget
    split at htarget
    · cases htarget
    · rename_i driver hdriver
      exact ⟨repo, driver, ⟨hrepo, hdriver⟩, (Option.some.inj htarget).symm⟩
  · rintro ⟨repo, driver, ⟨hrepo, hdriver⟩, rfl⟩
    exact ⟨repo, hrepo, by rw [target?, hdriver]⟩

theorem mem_names_ofConfig : name ∈ (ofConfig config).names ↔ ∃ repo driver, config.Drives name repo driver := by
  rw [names, NameMap.mem_keys, NameMap.contains_iff]
  constructor
  · rintro ⟨target, htarget⟩
    obtain ⟨repo, driver, drives, -⟩ := get?_targets_iff.1 htarget
    exact ⟨repo, driver, drives⟩
  · rintro ⟨repo, driver, drives⟩
    exact ⟨_, get?_targets_iff.2 ⟨repo, driver, drives, rfl⟩⟩

end Coordinator

namespace Services

open Sync Config

variable {config original : Config} {tool : Tool} {site after : Site} {services : Services WorkingCopy}
  {list : String → SourceConfig → Except Failure (List Project)} {ends : String → Except Failure String → Prop}
  {name revision : String} {repo : RepoConfig} {driver : VcsDriver}

def servedAt (config : Config) (name : String) (repo : RepoConfig) (driver : VcsDriver) (revision : String) :
    Repository WorkingCopy :=
  ⟨repo, ⟨config.workingDir name, driver.special, repo.excludeDotFiles, sizeLimit config, revision⟩⟩

theorem repository?_eq_some_iff {served : Repository WorkingCopy} :
    repository? config (.ofConfig config) name revision = some served ↔
      ∃ repo driver, config.Drives name repo driver ∧ served = servedAt config name repo driver revision := by
  simp only [repository?, Option.bind_eq_bind, Option.bind_eq_some_iff, Coordinator.get?_targets_iff]
  constructor
  · rintro ⟨repo, hrepo, target, ⟨repo', driver, drives, rfl⟩, hserved⟩
    cases hrepo.symm.trans drives.there
    exact ⟨repo, driver, drives, (Option.some.inj hserved).symm⟩
  · rintro ⟨repo, driver, drives, rfl⟩
    exact ⟨repo, drives.there, _, ⟨repo, driver, drives, rfl⟩, rfl⟩

theorem get?_served_iff {results : NameMap (Except Failure String)} {served : Repository WorkingCopy} :
    (Services.served config (.ofConfig config) results).get? name = some served ↔
      ∃ repo driver revision, config.Drives name repo driver ∧ results.get? name = some (.ok revision) ∧
        served = servedAt config name repo driver revision := by
  rw [Services.served, NameMap.get?_filterMap, Option.bind_eq_some_iff]
  constructor
  · rintro ⟨result, hresult, hserved⟩
    cases result with
    | error e => cases hserved
    | ok revision =>
      obtain ⟨repo, driver, drives, rfl⟩ := repository?_eq_some_iff.1 hserved
      exact ⟨repo, driver, revision, drives, hresult, rfl⟩
  · rintro ⟨repo, driver, revision, drives, hresult, rfl⟩
    exact ⟨.ok revision, hresult, repository?_eq_some_iff.2 ⟨repo, driver, drives, rfl⟩⟩

/-! ## How services are built -/

theorem ofParts_eq_ok_iff {registry : Registry WorkingCopy} {coordinator : Coordinator VcsDriver} :
    ofParts config registry coordinator = .ok services ↔
      ∃ provider, config.gitlabOauth.mapM Provider.ofConfig = .ok provider ∧
        services = ⟨config, registry, coordinator, provider⟩ := by
  unfold ofParts
  cases config.gitlabOauth.mapM Provider.ofConfig with
  | error e => simp [bind, Except.bind]
  | ok provider => simp [bind, Except.bind, pure, Except.pure, eq_comm]

section

variable {coordinator : Coordinator VcsDriver} {results : NameMap (Except Failure String)}

theorem assemble_eq (config : Config) (coordinator : Coordinator VcsDriver)
    (results : NameMap (Except Failure String)) : assemble config coordinator results =
      if (served config coordinator results).keys = [] ∨ LimitFits config then
        (ofParts config (served config coordinator results) coordinator).mapError .failed
      else .error .panicked := rfl

theorem assemble_eq_ok_iff : assemble config coordinator results = .ok services ↔
    ((served config coordinator results).keys = [] ∨ LimitFits config) ∧
      ∃ provider, config.gitlabOauth.mapM Provider.ofConfig = .ok provider ∧
        services = ⟨config, served config coordinator results, coordinator, provider⟩ := by
  rw [← ofParts_eq_ok_iff, assemble_eq]
  split
  · rename_i hfits
    cases ofParts config (served config coordinator results) coordinator <;>
      simp [Except.mapError, hfits]
  · rename_i hfits
    simp [hfits]

/-- The size limit is a matter of the searchers: without any it may be as it likes. -/
theorem assemble_eq_panicked_iff : assemble config coordinator results = .error .panicked ↔
    (served config coordinator results).keys ≠ [] ∧ ¬LimitFits config := by
  rw [← not_or, assemble_eq]
  split
  · rename_i hfits
    cases ofParts config (served config coordinator results) coordinator <;>
      simp [Except.mapError, hfits]
  · rename_i hfits
    simp [hfits]

end

/-- Services are built: what the sources list is added, the directory of all working copies is made, every
repository is synchronized, one after another or all at once, and those for which that succeeded are served.
The last index tells with which result each synchronization ended. -/
inductive Boots (config : Config) (tool : Tool) (site : Site) :
    (String → SourceConfig → Except Failure (List Project)) → Services WorkingCopy →
      (String → Except Failure String → Prop) → Prop
  | inTurn {list : SourceConfig → Except Failure (List Project)} {services : Services WorkingCopy} {after : Site}
      (run : bootstrap tool list config site = (.ok services, after)) :
      Boots config tool site (fun _ => list) services
        (services.coordinator.EndsInTurn tool (site.makeDirs services.config.dbpath).2 services.coordinator.names)
  | atOnce {list : String → SourceConfig → Except Failure (List Project)} {found : Config} {added : Nat}
      {moves : List BatchMove} {b : Batch} {services : Services WorkingCopy}
      (discovered : config.discoverBy list = .ok (found, added))
      (made : (site.disk.makeDirs found.dbpath).1 = .ok ())
      (fits : (Coordinator.ofConfig found).Fits)
      (run : runMoves (Batch.step (.ofConfig found) tool)
        (Batch.start (.ofConfig found) (Coordinator.ofConfig found).names (site.makeDirs found.dbpath).2) moves =
          some b)
      (finished : b.Over)
      (built : assemble found (.ofConfig found) b.results = .ok services) :
      Boots config tool site list services b.Ends

/-- The parts that services are built from. -/
structure Parts (config : Config) (site : Site) (list : String → SourceConfig → Except Failure (List Project))
    (services : Services WorkingCopy) (ends : String → Except Failure String → Prop) : Prop where
  discovered : ∃ added, config.discoverBy list = .ok (services.config, added)
  made : (site.disk.makeDirs services.config.dbpath).1 = .ok ()
  coordinator : services.coordinator = .ofConfig services.config
  fits : (Coordinator.ofConfig services.config).Fits
  registry : ∃ results, Collects services.coordinator.names ends results ∧
    services.registry = served services.config services.coordinator results
  limit : services.registry.keys = [] ∨ LimitFits services.config
  provider : services.config.gitlabOauth.mapM Provider.ofConfig = .ok services.provider

/-- Where repositories are discovered and the directory of all working copies can be made, only the numbers in
the configuration and the synchronizations decide. -/
theorem bootstrap_eq (tool : Tool) {list : SourceConfig → Except Failure (List Project)} {found : Config} {added : Nat}
    (discovered : config.discoverBy (fun _ => list) = .ok (found, added))
    (made : (site.disk.makeDirs found.dbpath).1 = .ok ()) :
    bootstrap tool list config site =
      let run := (Coordinator.ofConfig found).syncAll.run tool (site.makeDirs found.dbpath).2
      if (Coordinator.ofConfig found).Fits then (assemble found (.ofConfig found) run.1, run.2)
      else (.error .panicked, (site.makeDirs found.dbpath).2) := by
  unfold bootstrap discover
  rw [discovered, Site.makeDirs_snd]
  rcases hmade : site.disk.makeDirs found.dbpath with ⟨_, disk⟩
  rw [hmade] at made
  cases made
  simp only [hmade]

theorem bootstrap_eq_ok {list : SourceConfig → Except Failure (List Project)}
    (h : bootstrap tool list config site = (.ok services, after)) :
    ∃ found added, config.discoverBy (fun _ => list) = .ok (found, added) ∧
      (site.disk.makeDirs found.dbpath).1 = .ok () ∧ (Coordinator.ofConfig found).Fits ∧
      assemble found (.ofConfig found)
        ((Coordinator.ofConfig found).syncAll.run tool (site.makeDirs found.dbpath).2).1 = .ok services := by
  rcases hdiscover : config.discoverBy fun _ => list with e | ⟨found, added⟩
  · rw [bootstrap, discover, hdiscover] at h
    cases h
  · rcases hmade : site.disk.makeDirs found.dbpath with ⟨e | _, disk⟩
    · rw [bootstrap, discover, hdiscover] at h
      simp only [hmade] at h
      cases h
    · have made : (site.disk.makeDirs found.dbpath).1 = .ok () := by rw [hmade]
      rw [bootstrap_eq tool hdiscover made] at h
      dsimp only at h
      split at h
      · rename_i fits
        exact ⟨found, added, rfl, made, fits, congrArg Prod.fst h⟩
      · cases h

theorem Boots.parts (boots : Boots config tool site list services ends) : Parts config site list services ends := by
  cases boots with
  | inTurn run =>
    obtain ⟨found, added, hdiscover, hmade, hfits, hbuilt⟩ := bootstrap_eq_ok run
    obtain ⟨hlimit, provider, hprovider, rfl⟩ := assemble_eq_ok_iff.1 hbuilt
    exact ⟨⟨added, hdiscover⟩, hmade, rfl, hfits,
      ⟨_, Coordinator.collects_run_syncMany (NameMap.keys_nodup _), rfl⟩, hlimit, hprovider⟩
  | atOnce discovered made fits run finished built =>
    obtain ⟨hlimit, provider, hprovider, rfl⟩ := assemble_eq_ok_iff.1 built
    exact ⟨⟨_, discovered⟩, made, rfl, fits,
      ⟨_, Batch.collects_of_over (NameMap.keys_nodup _) (fun _ => NameMap.mem_keys.1) run finished, rfl⟩, hlimit,
      hprovider⟩

namespace Parts

variable (parts : Parts config site list services ends)

include parts

theorem exists_ends_iff :
    (∃ result, ends name result) ↔ ∃ repo driver, services.config.Drives name repo driver := by
  obtain ⟨results, collects, -⟩ := parts.registry
  rw [collects.exists_iff, parts.coordinator, Coordinator.mem_names_ofConfig]

/-- Under each name stands what its synchronization led to. -/
theorem get?_registry_iff {served : Repository WorkingCopy} : services.registry.get? name = some served ↔
    ∃ repo driver revision, services.config.Drives name repo driver ∧ ends name (.ok revision) ∧
      served = servedAt services.config name repo driver revision := by
  obtain ⟨results, collects, hregistry⟩ := parts.registry
  rw [hregistry, parts.coordinator, get?_served_iff]
  simp only [collects.get?_iff]

theorem contains_registry_iff : services.registry.contains name = true ↔
    ∃ repo driver revision, services.config.Drives name repo driver ∧ ends name (.ok revision) := by
  rw [NameMap.contains_iff]
  simp only [parts.get?_registry_iff]
  constructor
  · rintro ⟨_, repo, driver, revision, drives, hends, -⟩
    exact ⟨repo, driver, revision, drives, hends⟩
  · rintro ⟨repo, driver, revision, drives, hends⟩
    exact ⟨_, repo, driver, revision, drives, hends, rfl⟩

theorem eq_of_ends {result result' : Except Failure String} (h : ends name result) (h' : ends name result') :
    result = result' := by
  obtain ⟨results, collects, -⟩ := parts.registry
  exact collects.eq_of_ends h h'

/-- A repository that is configured alike and ends alike is served alike. -/
theorem get?_registry_of_same {config' : Config} {site' : Site}
    {list' : String → SourceConfig → Except Failure (List Project)} {services' : Services WorkingCopy}
    {ends' : String → Except Failure String → Prop} (parts' : Parts config' site' list' services' ends')
    (repos : services'.config.repos.get? name = services.config.repos.get? name)
    (dir : services'.config.workingDir name = services.config.workingDir name)
    (limit : sizeLimit services'.config = sizeLimit services.config) {result : Except Failure String}
    (hends : ends name result) (hends' : ends' name result) {served : Repository WorkingCopy}
    (h : services.registry.get? name = some served) : services'.registry.get? name = some served := by
  obtain ⟨repo, driver, revision, drives, hrevision, rfl⟩ := parts.get?_registry_iff.1 h
  obtain rfl := parts.eq_of_ends hends hrevision
  refine parts'.get?_registry_iff.2 ⟨repo, driver, revision, ⟨repos.trans drives.there, drives.built⟩, hends', ?_⟩
  rw [servedAt, servedAt, dir, limit]

variable (limit : LimitFits services.config)

include limit

/-- Whatever the tool does, services can be built with it. -/
theorem exists_boots (tool' : Tool) {site' : Site} (made : (site'.disk.makeDirs services.config.dbpath).1 = .ok ()) :
    ∃ services' ends', Boots config tool' site' list services' ends' := by
  obtain ⟨added, hdiscover⟩ := parts.discovered
  obtain ⟨moves, b, run, finished⟩ := Batch.exists_over (.ofConfig services.config) tool'
    (Coordinator.ofConfig services.config).names (site'.makeDirs services.config.dbpath).2
    (Coordinator.permits_pos _) fun _ _ => Coordinator.within_syncTarget
  exact ⟨_, _, .atOnce hdiscover made parts.fits run finished
    (assemble_eq_ok_iff.2 ⟨.inr limit, _, parts.provider, rfl⟩)⟩

theorem exists_bootstrap {sources : SourceConfig → Except Failure (List Project)} (same : list = fun _ => sources)
    (tool' : Tool) {site' : Site} (made : (site'.disk.makeDirs services.config.dbpath).1 = .ok ()) :
    ∃ services' after, bootstrap tool' sources config site' = (.ok services', after) := by
  obtain ⟨added, hdiscover⟩ := parts.discovered
  let run := (Coordinator.ofConfig services.config).syncAll.run tool' (site'.makeDirs services.config.dbpath).2
  obtain ⟨services', hbuilt⟩ : ∃ services', assemble services.config (.ofConfig services.config) run.1 =
      .ok services' := ⟨_, assemble_eq_ok_iff.2 ⟨.inr limit, _, parts.provider, rfl⟩⟩
  refine ⟨services', run.2, ?_⟩
  rw [bootstrap_eq tool' (same ▸ hdiscover) made]
  dsimp only
  rw [if_pos parts.fits, hbuilt]

end Parts

/-- With a tool that keeps to the directory that a call is about, each synchronization ends as it does by
itself. -/
theorem Boots.ends_iff_answer (boots : Boots config tool site list services ends)
    (valid : services.config.validate = .ok ()) (tool_local : tool.Local)
    (prepared : Prepared services.config (· ∈ services.coordinator.names) site) {result : Except Failure String} :
    ends name result ↔ name ∈ services.coordinator.names ∧
      services.coordinator.answer tool (site.makeDirs services.config.dbpath).2 name = result := by
  have parts := boots.parts
  have distinct : services.coordinator.names.Nodup := NameMap.keys_nodup _
  have hknown : ∀ x, x ∈ services.coordinator.names ↔
      x ∈ services.coordinator.names ∧ services.coordinator.contains x = true := fun x =>
    ⟨fun h => ⟨h, NameMap.mem_keys.1 h⟩, And.left⟩
  obtain ⟨Sim, apart⟩ := exists_apart valid tool_local (prepared.makeDirs parts.made) fun x hx =>
    parts.coordinator ▸ ((hknown x).1 hx).2
  rw [← parts.coordinator] at apart
  have hcollects : Collects services.coordinator.names ends
      (services.coordinator.answers tool (site.makeDirs services.config.dbpath).2 ∅ services.coordinator.names) := by
    cases boots with
    | inTurn run =>
      rw [← (apart.run_syncMany hknown distinct).1]
      exact Coordinator.collects_run_syncMany distinct
    | atOnce discovered made fits run finished built =>
      obtain ⟨-, provider, -, rfl⟩ := assemble_eq_ok_iff.1 built
      rw [← ((Batch.follows_of_run apart hknown distinct run).of_over (Batch.sound_of_run run) finished).1]
      exact Batch.collects_of_over distinct (fun _ => NameMap.mem_keys.1) run finished
  rw [← hcollects.get?_iff, Coordinator.get?_answers]
  split
  · rename_i hname
    simp [hname]
  · rename_i hname
    simp [hname, NameMap.get?_empty]

/-! ## What is served of it -/

/-- What is served after services were built, and why. -/
structure Serves (config : Config) (tool : Tool) (site : Site)
    (list : String → SourceConfig → Except Failure (List Project)) (services : Services WorkingCopy)
    (ends : String → Except Failure String → Prop) : Prop where
  /-- The repositories are those that are configured, and under other names those that are mentioned first. -/
  repositories : ∀ name, services.config.repos.get? name = (config.repos.get? name).or
    ((firstMention (mentionsOf list config.gitlabSync.toList) name).map (·.repo.completed config.vcsConfig))
  /-- Those that have a driver are synchronized, each to one result. -/
  synchronized : ∀ name, (∃ result, ends name result) ↔ ∃ repo driver, services.config.Drives name repo driver
  once : ∀ {name result result'}, ends name result → ends name result' → result = result'
  /-- Those are served for which that succeeded. -/
  names : ∀ name, services.registry.contains name = true ↔
    ∃ repo driver revision, services.config.Drives name repo driver ∧ ends name (.ok revision)
  /-- An update of what is served is never answered as one of an unknown repository. -/
  known : ∀ name, services.registry.contains name = true →
    services.coordinator.contains name = true ∧ ∃ enabled, services.coordinator.accepts name = .ok enabled
  /-- Each is searched in its own working copy, but for what belongs to its driver. -/
  searched : ∀ {name served}, services.registry.get? name = some served → ∃ repo driver revision,
    services.config.Drives name repo driver ∧ ends name (.ok revision) ∧
      served = servedAt services.config name repo driver revision ∧
      served.searcher.Covers (services.config.workingDir name) driver.special revision
  own : ∀ {name name' served served'}, services.registry.get? name = some served →
    services.registry.get? name' = some served' → served.searcher.root = served'.searcher.root → name = name'
  /-- Nothing is served with a size limit that cannot be computed. -/
  limited : services.registry.keys ≠ [] → LimitFits services.config
  /-- Whatever becomes of them, services are built, at once and in turn, if the size limit can be computed. -/
  built : ∀ tool' site', (site'.disk.makeDirs services.config.dbpath).1 = .ok () → LimitFits services.config →
    (∃ services' ends', Boots config tool' site' list services' ends') ∧ ∀ sources, list = (fun _ => sources) →
      ∃ services' after, bootstrap tool' sources config site' = (.ok services', after)
  /-- Whatever the others are and what becomes of them, a repository that ends with the same result is served
  in the same way, if at all. -/
  alike : ∀ {config' tool' site' list' services' ends'}, Boots config' tool' site' list' services' ends' →
    ∀ {name result}, services'.config.repos.get? name = services.config.repos.get? name →
      services'.config.workingDir name = services.config.workingDir name →
      sizeLimit services'.config = sizeLimit services.config → ends name result → ends' name result →
        services'.registry.get? name = services.registry.get? name
  /-- With a tool that keeps to the directory that a call is about, each ends as it does by itself. -/
  alone : tool.Local → Prepared services.config (· ∈ services.coordinator.names) site → ∀ name result,
    ends name result ↔ name ∈ services.coordinator.names ∧
      services.coordinator.answer tool (site.makeDirs services.config.dbpath).2 name = result

theorem serves_of_boots (finalized : original.finalize = (config, .ok ()))
    (boots : Boots config tool site list services ends) : Serves config tool site list services ends := by
  have parts := boots.parts
  obtain ⟨added, hdiscover⟩ := parts.discovered
  obtain ⟨repos, hadd, hcompletes, hvalid⟩ := discoverBy_spec finalized hdiscover
  constructor
  case repositories =>
    intro name
    have hadds := (adds_addSources hadd).1.get? name
    have hconfigured : (config.repos.get? name).map (·.completed config.vcsConfig) = config.repos.get? name := by
      rw [← get?_complete, (complete_of_finalize finalized).1]
    rw [hcompletes, get?_complete, hadds, Option.map_or, hconfigured, Option.map_map]
    rfl
  case synchronized => exact fun name => parts.exists_ends_iff
  case once => exact parts.eq_of_ends
  case names => exact fun name => parts.contains_registry_iff
  case known =>
    intro name hserved
    obtain ⟨repo, driver, revision, drives, -⟩ := parts.contains_registry_iff.1 hserved
    have htarget := Coordinator.get?_targets_iff.2 ⟨repo, driver, drives, rfl⟩
    rw [parts.coordinator]
    have hfind := Coordinator.find_eq_ok_iff.2 htarget
    exact ⟨Coordinator.contains_of_find hfind, _, by rw [Coordinator.accepts, hfind]; rfl⟩
  case searched =>
    intro name served hserved
    obtain ⟨repo, driver, revision, drives, hends, rfl⟩ := parts.get?_registry_iff.1 hserved
    exact ⟨repo, driver, revision, drives, hends, rfl, WorkingCopy.covers _⟩
  case own =>
    intro name name' served served' hserved hserved' hroot
    obtain ⟨repo, driver, revision, drives, -, rfl⟩ := parts.get?_registry_iff.1 hserved
    obtain ⟨repo', driver', revision', drives', -, rfl⟩ := parts.get?_registry_iff.1 hserved'
    exact name_eq_of_workingDir_eq hvalid (NameMap.contains_iff.2 ⟨_, drives.there⟩)
      (NameMap.contains_iff.2 ⟨_, drives'.there⟩) hroot
  case limited => exact fun some_served => parts.limit.resolve_left some_served
  case built =>
    intro tool' site' made limit
    exact ⟨parts.exists_boots limit tool' made, fun sources same => parts.exists_bootstrap limit same tool' made⟩
  case alike =>
    intro config' tool' site' list' services' ends' boots' name result hrepo hdir hlimit hends hends'
    have parts' := boots'.parts
    refine Option.ext fun served => ⟨?_, ?_⟩
    · exact parts'.get?_registry_of_same parts hrepo.symm hdir.symm hlimit.symm hends' hends
    · exact parts.get?_registry_of_same parts' hrepo hdir hlimit hends hends'
  case alone => exact fun tool_local prepared name result => boots.ends_iff_answer hvalid tool_local prepared

/-- Remotes of which one cannot be cloned. -/
def someRemotes : Tool := fun past call disk =>
  if call.args.contains "https://x/b" then (.ended false [] [], disk)
  else (.ended true (Utf8.encode "1\n") [], (emptyRemotes past call disk).2)

theorem someRemotes_local : someRemotes.Local := by
  -- whether a call fails is told by its arguments alone
  constructor
  case answers =>
    intro call past past' d d' view
    unfold someRemotes
    split <;> rfl
  case effects =>
    intro call past past' d d' view
    unfold someRemotes
    split
    · exact view.files
    · exact emptyRemotes_local.effects view
  case inside =>
    intro call past d hplace q hq
    unfold someRemotes
    split
    · rfl
    · exact emptyRemotes_local.inside call past d hplace q hq
  case cwd =>
    intro call past d hplace
    unfold someRemotes
    split
    · rfl
    · exact emptyRemotes_local.cwd call past d hplace
  case plain =>
    intro call past d hplace hplain
    unfold someRemotes
    split
    · exact hplain
    · exact emptyRemotes_local.plain call past d hplace hplain

/-- Three repositories, one of them without a driver, and a source for more. -/
def someRepositories : Config :=
  { Config.default with
    dbpath := "/srv/db"
    repos := .ofList [("a", .ofUrl "https://x/a"), ("b", .ofUrl "https://x/b"),
      ("c", { RepoConfig.ofUrl "https://x/c" with vcs := "hg" })]
    gitlabSync := .ofList [("one", .ofToken "https://g" "key")] }

def oneProject (_ : SourceConfig) : Except Failure (List Project) := .ok [⟨"d", "https://g/d"⟩]

theorem serves_of_someRepositories : ∃ config services ends, someRepositories.finalize = (config, .ok ()) ∧
    Boots config someRemotes emptySite (fun _ => oneProject) services ends ∧
    services.coordinator.names = ["a", "b", "d"] ∧ services.registry.keys = ["a", "d"] ∧
    Serves config someRemotes emptySite (fun _ => oneProject) services ends := by
  have hfinalize : someRepositories.finalize = (someRepositories.complete, .ok ()) :=
    Prod.ext rfl (show someRepositories.complete.validate = .ok () by decide +kernel)
  have hnames : (bootstrap someRemotes oneProject someRepositories.complete emptySite).1.toOption.map
      (fun s => (s.coordinator.names, s.registry.keys)) = some (["a", "b", "d"], ["a", "d"]) := by decide +kernel
  rcases hrun : bootstrap someRemotes oneProject someRepositories.complete emptySite with ⟨result, after⟩
  rw [hrun] at hnames
  cases result with
  | error e => cases hnames
  | ok services =>
    obtain ⟨hnames, hserved⟩ := Prod.mk.inj (Option.some.inj hnames)
    exact ⟨_, services, _, hfinalize, .inTurn hrun, hnames, hserved, serves_of_boots hfinalize (.inTurn hrun)⟩

end Services

end CodeSearch
