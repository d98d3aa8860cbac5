import CodeSearch.Cli.Run
import CodeSearch.Proofs.Cli.Reports
import CodeSearch.Proofs.Services
import CodeSearch.Proofs.Sync.Bystanders

/-!
# The command to synchronize

Repositories are discovered, the directory of all working copies is made and all names are looked up before the
first synchronization. What is reported is the account of those that were made: without names, of all
repositories that have a driver; else of the named ones, and nothing else is touched, unless to make the directory
of all working copies makes one of them.
-/

namespace CodeSearch.Cli

open Sync Files

variable {tool : Tool} {list : String → SourceConfig → Except Failure (List Project)} {asked names : List String}
  {config found original : Config} {site begun finish : Site} {added : Nat} {answer : Except RunError SyncReport}
  {ends : String → Except Failure String → Prop} {name : String}

/-! ## How the command goes -/

def prepare (list : String → SourceConfig → Except Failure (List Project)) (asked : List String) (config : Config)
    (site : Site) : Except RunError (Config × List String) × Site :=
  match config.discoverBy list with
  | .error e => (.error (.failure e), site)
  | .ok (found, _) =>
    match site.disk.makeDirs found.dbpath with
    | (.error e, disk) => (.error (.directory e), { site with disk := disk })
    | (.ok (), disk) =>
      if (Coordinator.ofConfig found).Fits then
        match syncNames (.ofConfig found) asked with
        | .error e => (.error (.failure e), { site with disk := disk })
        | .ok names => (.ok (found, names), { site with disk := disk })
      else (.error .panicked, { site with disk := disk })

/-- A run of the command: it stops before the first synchronization, or its names are synchronized, one after
another or all at once. The last index tells with which result each synchronization ended. -/
inductive Runs (tool : Tool) (list : String → SourceConfig → Except Failure (List Project)) (asked : List String)
    (config : Config) (site : Site) :
    Except RunError SyncReport → Site → (String → Except Failure String → Prop) → Prop
  | stopped {e : RunError} {begun : Site} (refused : prepare list asked config site = (.error e, begun)) :
      Runs tool list asked config site (.error e) begun fun _ _ => False
  | inTurn {found : Config} {names : List String} {begun : Site}
      (prepared : prepare list asked config site = (.ok (found, names), begun)) :
      Runs tool list asked config site (.ok (((Coordinator.ofConfig found).syncMany names).run tool begun).1)
        (((Coordinator.ofConfig found).syncMany names).run tool begun).2
        ((Coordinator.ofConfig found).EndsInTurn tool begun names)
  | atOnce {found : Config} {names : List String} {begun : Site} {moves : List BatchMove} {b : Batch}
      (prepared : prepare list asked config site = (.ok (found, names), begun))
      (run : runMoves (Batch.step (.ofConfig found) tool) (Batch.start (.ofConfig found) names begun) moves = some b)
      (finished : b.Over) : Runs tool list asked config site (.ok b.results) b.site b.Ends

theorem sync_eq (tool : Tool) (list : SourceConfig → Except Failure (List Project)) (asked : List String)
    (config : Config) (site : Site) : sync tool list asked config site =
      match prepare (fun _ => list) asked config site with
      | (.error e, begun) => (.error e, begun)
      | (.ok (found, names), begun) =>
        (.ok (((Coordinator.ofConfig found).syncMany names).run tool begun).1,
          (((Coordinator.ofConfig found).syncMany names).run tool begun).2) := by
  unfold sync prepare Config.discover
  rcases config.discoverBy fun _ => list with e | ⟨found, added⟩
  · rfl
  · rcases hmade : site.disk.makeDirs found.dbpath with ⟨e | _, disk⟩
    · simp only [hmade]
    · simp only [hmade]
      split
      · cases syncNames (Coordinator.ofConfig found) asked <;> rfl
      · rfl

/-- The command itself is a run, one after another. -/
theorem runs_sync (tool : Tool) (list : SourceConfig → Except Failure (List Project)) (asked : List String)
    (config : Config) (site : Site) : ∃ ends, Runs tool (fun _ => list) asked config site
      (sync tool list asked config site).1 (sync tool list asked config site).2 ends := by
  rw [sync_eq]
  rcases hprepare : prepare (fun _ => list) asked config site with ⟨e | ⟨found, names⟩, begun⟩
  · exact ⟨_, .stopped hprepare⟩
  · exact ⟨_, .inTurn hprepare⟩

def conclude (color : Bool) (format : Format) (elapsed : Nat) : Except RunError SyncReport → Outcome
  | .ok report => report.outcome color format elapsed
  | .error e => .failure color [] e

theorem command_sync {w : World} {a : Arguments} (h : a.command = .sync asked) : w.command a config site =
    (.finished (conclude w.color a.format w.elapsed (sync w.tool w.list asked config site).1),
      (sync w.tool w.list asked config site).2) := by
  unfold World.command
  rw [h]
  rcases hsync : sync w.tool w.list asked config site with ⟨_ | _, _⟩ <;> simp only [hsync] <;> rfl

/-! ## Names -/

section

variable {D : Type} {c : Coordinator D}

theorem syncNames_nil : syncNames c [] = .ok c.names := by
  have hnone : c.names.find? (fun name => !c.contains name) = none :=
    List.find?_eq_none.2 fun name hname => by simp [Coordinator.contains, NameMap.mem_keys.1 hname]
  unfold syncNames
  simp only [List.isEmpty_nil, if_true, hnone]

theorem syncNames_of_known (named : asked ≠ []) (known : ∀ name ∈ asked, c.contains name = true) :
    syncNames c asked = .ok asked := by
  have hnone : asked.find? (fun name => !c.contains name) = none :=
    List.find?_eq_none.2 fun name hname => by simp [known name hname]
  unfold syncNames
  simp only [List.isEmpty_eq_false_iff.2 named, Bool.false_eq_true, if_false, hnone]

theorem syncNames_of_unknown (before after : List String)
    (known : ∀ other ∈ before, c.contains other = true) (unknown : c.contains name = false) :
    syncNames c (before ++ name :: after) = .error (.repositoryNotFound name) := by
  have hnone : before.find? (fun name => !c.contains name) = none :=
    List.find?_eq_none.2 fun name hname => by simp [known name hname]
  have hfirst : (before ++ name :: after).find? (fun name => !c.contains name) = some name := by
    simp [List.find?_append, hnone, unknown]
  have hnamed : (before ++ name :: after).isEmpty = false := by simp
  unfold syncNames
  simp only [hnamed, Bool.false_eq_true, if_false, hfirst]

end

/-- Where repositories are discovered, the directory of all working copies can be made and there are not too many
permits, only the names decide. -/
theorem prepare_eq (asked : List String) (discovered : config.discoverBy list = .ok (found, added))
    (made : (site.disk.makeDirs found.dbpath).1 = .ok ()) (fits : (Coordinator.ofConfig found).Fits) :
    prepare list asked config site =
      (match syncNames (.ofConfig found) asked with
      | .error e => .error (.failure e)
      | .ok names => .ok (found, names), (site.makeDirs found.dbpath).2) := by
  unfold prepare
  rw [discovered, Site.makeDirs_snd]
  rcases hmade : site.disk.makeDirs found.dbpath with ⟨_, disk⟩
  rw [hmade] at made
  cases made
  simp only [hmade, if_pos fits]
  cases syncNames (Coordinator.ofConfig found) asked <;> rfl

theorem prepare_eq_of_not_fits (asked : List String) (discovered : config.discoverBy list = .ok (found, added))
    (made : (site.disk.makeDirs found.dbpath).1 = .ok ()) (excess : ¬(Coordinator.ofConfig found).Fits) :
    prepare list asked config site = (.error .panicked, (site.makeDirs found.dbpath).2) := by
  unfold prepare
  rw [discovered, Site.makeDirs_snd]
  rcases hmade : site.disk.makeDirs found.dbpath with ⟨_, disk⟩
  rw [hmade] at made
  cases made
  simp only [hmade, if_neg excess]

/-! ## Runs that come to synchronizations -/

/-- A run that comes to synchronizations is one of the two ways to make them. -/
theorem Runs.of_prepared (runs : Runs tool list asked config site answer finish ends)
    (prepared : prepare list asked config site = (.ok (found, names), begun)) :
    (answer = .ok (((Coordinator.ofConfig found).syncMany names).run tool begun).1 ∧
        finish = (((Coordinator.ofConfig found).syncMany names).run tool begun).2 ∧
        ends = (Coordinator.ofConfig found).EndsInTurn tool begun names) ∨
      ∃ moves b, runMoves (Batch.step (.ofConfig found) tool) (Batch.start (.ofConfig found) names begun) moves =
        some b ∧ b.Over ∧ answer = .ok b.results ∧ finish = b.site ∧ ends = b.Ends := by
  cases runs with
  | stopped refused => cases prepared.symm.trans refused
  | inTurn prepared' =>
    cases prepared.symm.trans prepared'
    exact .inl ⟨rfl, rfl, rfl⟩
  | atOnce prepared' run finished =>
    cases prepared.symm.trans prepared'
    exact .inr ⟨_, _, run, finished, rfl, rfl, rfl⟩

theorem Runs.of_refused (runs : Runs tool list asked config site answer finish ends) {e : RunError}
    (refused : prepare list asked config site = (.error e, begun)) :
    answer = .error e ∧ finish = begun ∧ ∀ name result, ¬ends name result := by
  cases runs with
  | stopped refused' =>
    cases refused.symm.trans refused'
    exact ⟨rfl, rfl, fun _ _ => id⟩
  | inTurn prepared => cases refused.symm.trans prepared
  | atOnce prepared => cases refused.symm.trans prepared

namespace Runs

variable (runs : Runs tool list asked config site answer finish ends)
  (prepared : prepare list asked config site = (.ok (found, names), begun))
  (known : ∀ name ∈ names, (Coordinator.ofConfig found).contains name = true)

include runs prepared known

theorem gathers : ∃ report, answer = .ok report ∧ Gathers names ends report := by
  rcases runs.of_prepared prepared with ⟨rfl, -, rfl⟩ | ⟨moves, b, run, finished, rfl, -, rfl⟩
  · exact ⟨_, rfl, Coordinator.gathers_run_syncMany⟩
  · exact ⟨_, rfl, Batch.gathers_of_over known run finished⟩

theorem startsOnly : begun.StartsOnly (OwnedByNamed found.dbpath names) finish := by
  rcases runs.of_prepared prepared with ⟨-, rfl, -⟩ | ⟨moves, b, run, -, -, rfl, -⟩
  · exact (uses_syncMany_named known).startsOnly _
  · exact Batch.startsOnly_named known run

end Runs

/-- With a tool that keeps to the directory that a call is about, the other repositories stay as they are. -/
theorem Runs.leavesOthers (runs : Runs tool list asked config site answer finish ends)
    (prepared : prepare list asked config site = (.ok (found, names), (site.makeDirs found.dbpath).2))
    (known : ∀ name ∈ names, (Coordinator.ofConfig found).contains name = true) (valid : found.validate = .ok ())
    (tool_local : tool.Local) (ready : Prepared found (· ∈ names) site)
    (made : (site.disk.makeDirs found.dbpath).1 = .ok ()) :
    LeavesOthers found names (site.makeDirs found.dbpath).2 finish := by
  rcases runs.of_prepared prepared with ⟨-, rfl, -⟩ | ⟨moves, b, run, -, -, rfl, -⟩
  · exact leavesOthers_syncMany valid known tool_local ready made
  · exact leavesOthers_of_run valid known tool_local ready made run

/-! ## With names -/

/-- Nothing has happened but that the directory of all working copies was made. -/
structure OnlyMakes (config : Config) (s t : Site) : Prop where
  made : t = (s.makeDirs config.dbpath).2
  calls : t.calls = s.calls
  grows : s.disk.Grows t.disk
  there : config.dbpath = "" ∨ s.disk.isDir config.dbpath = true → t = s

theorem onlyMakes_makeDirs (config : Config) (site : Site) :
    OnlyMakes config site (site.makeDirs config.dbpath).2 := by
  rw [Site.makeDirs_snd]
  constructor
  case made => exact (Site.makeDirs_snd ..).symm
  case calls => rfl
  case grows => exact Disk.grows_makeDirs ..
  case there =>
    rintro (empty | there)
    · rw [empty, Disk.makeDirs, Disk.mkdirs_empty]
    · rw [Disk.makeDirs_of_isDir there]

/-- Where its path does not lead through them, to make the directory of all working copies makes none of these. -/
theorem isDir_workingDir_makeDirs {known : String → Prop} (prepared : Prepared config known site) (name : String) :
    (site.makeDirs config.dbpath).2.disk.isDir (config.workingDir name) =
      site.disk.isDir (config.workingDir name) := by
  rw [Site.makeDirs_snd]
  cases prepared with
  | there leads _ => rw [leads.makeDirs]
  | missing nonempty missing grounded =>
    have entry := Config.entry_workingName name
    have hjoin : ∀ disk : Disk, disk.isDir config.dbpath = false → disk.isDir (config.workingDir name) = false :=
      fun disk missing => Disk.isDir_join entry (mt Path.tidy_eq_empty nonempty) (Disk.isDir_tidy nonempty missing)
    rw [hjoin _ missing]
    rcases Disk.makeDirs_cases nonempty missing grounded with
      ⟨disk, place, hmakes, hnew⟩ | ⟨e, disk, hfails, -, hstays⟩
    · rw [hmakes]
      have hready : Ready (fun _ => True) config.dbpath place { site with disk := disk } := ready_of_new hnew
      have hclean := hready.clean name trivial
      refine Bool.eq_false_iff.2 fun h => ?_
      have hdir := hnew.leads.dir_of_isDir_join entry hclean.work h
      cases (hnew.empty _ (Config.below_of_owned (.inl (List.prefix_refl _)))).symm.trans hdir
    · rw [hfails]
      exact hjoin disk hstays

/-- A report is the account of the synchronizations of some names. -/
structure Accounts (names : List String) (ends : String → Except Failure String → Prop) (report : SyncReport) :
    Prop where
  /-- There is one entry for each distinct name. -/
  keys : report.keys.Perm names.dedup
  ended : ∀ name result, report.get? name = some result → ends name result
  /-- No other repository is synchronized. -/
  named : ∀ name result, ends name result → name ∈ names
  /-- Of a name that is given once it has the result of its synchronization, and that has no other. -/
  once : ∀ name result, names.count name = 1 → (report.get? name = some result ↔ ends name result)
  /-- The command fails if an entry is a failure, with the number of these and of the distinct names. -/
  tells : report.Tells names.dedup.length

theorem accounts_of_gathers {report : SyncReport} (gathers : Gathers names ends report) :
    Accounts names ends report where
  keys := gathers.keys_perm
  ended := gathers.ends_of_get?
  named := gathers.named
  once _ _ := gathers.get?_iff
  tells := by
    have hsize : report.size = names.dedup.length := by
      rw [← gathers.keys_perm.length_eq, NameMap.keys, List.length_map]
      rfl
    exact hsize ▸ report.tells

/-- How the command goes with names, in turn and at once. -/
structure SyncsNamed (tool : Tool) (list : String → SourceConfig → Except Failure (List Project))
    (asked : List String) (config : Config) (site : Site) (found : Config) : Prop where
  /-- The first name that is not known ends it before the first synchronization. -/
  refused : ∀ before name after, asked = before ++ name :: after →
    (∀ other ∈ before, (Coordinator.ofConfig found).contains other = true) →
    (Coordinator.ofConfig found).contains name = false →
    ∀ answer finish ends, Runs tool list asked config site answer finish ends →
      answer = .error (.failure (.repositoryNotFound name)) ∧ OnlyMakes found site finish
  accounts : (∀ name ∈ asked, (Coordinator.ofConfig found).contains name = true) →
    ∀ answer finish ends, Runs tool list asked config site answer finish ends →
      ∃ report, answer = .ok report ∧ Accounts asked ends report
  /-- Whatever the tool does, calls are started for the named repositories only. -/
  calls : (∀ name ∈ asked, (Coordinator.ofConfig found).contains name = true) →
    ∀ answer finish ends, Runs tool list asked config site answer finish ends →
      site.StartsOnly (OwnedByNamed found.dbpath asked) finish
  /-- At once it comes to an end: a run is short, and goes on until all is collected. -/
  settles : ∀ moves b, runMoves (Batch.step (.ofConfig found) tool)
      (Batch.start (.ofConfig found) asked (site.makeDirs found.dbpath).2) moves = some b →
    moves.length ≤ 25 * asked.length ∧ (¬b.Over → ∃ move b', Batch.step (.ofConfig found) tool b move = some b')
  /-- The command of the program is such a run. -/
  command : ∀ w a, w.tool = tool → (fun _ => w.list) = list → a.command = .sync asked →
    ∃ answer finish ends, Runs tool list asked config site answer finish ends ∧
      World.command w a config site = (.finished (conclude w.color a.format w.elapsed answer), finish)

/-- What the command leaves as it was. -/
structure LeavesRest (tool : Tool) (list : String → SourceConfig → Except Failure (List Project))
    (asked : List String) (config : Config) (site : Site) (found : Config) : Prop where
  /-- If a name is not known, no working copy is made. -/
  refused : (∃ name ∈ asked, (Coordinator.ofConfig found).contains name = false) →
    ∀ answer finish ends, Runs tool list asked config site answer finish ends →
      ∀ name, finish.disk.isDir (found.workingDir name) = site.disk.isDir (found.workingDir name)
  /-- Else all that belongs to the others stays, before the first synchronization and from there on. -/
  others : (∀ name ∈ asked, (Coordinator.ofConfig found).contains name = true) →
    ∀ answer finish ends, Runs tool list asked config site answer finish ends →
      (∀ name, (site.makeDirs found.dbpath).2.disk.isDir (found.workingDir name) =
        site.disk.isDir (found.workingDir name)) ∧
      (tool.Local → LeavesOthers found asked (site.makeDirs found.dbpath).2 finish)

theorem runs_of_command {w : World} {a : Arguments} (h : a.command = .sync asked) :
    ∃ answer finish ends, Runs w.tool (fun _ => w.list) asked config site answer finish ends ∧
      w.command a config site = (.finished (conclude w.color a.format w.elapsed answer), finish) := by
  obtain ⟨ends, runs⟩ := runs_sync w.tool w.list asked config site
  exact ⟨_, _, ends, runs, command_sync h⟩

section

variable (discovered : config.discoverBy list = .ok (found, added))
  (made : (site.disk.makeDirs found.dbpath).1 = .ok ()) (fits : (Coordinator.ofConfig found).Fits)

include discovered made fits

theorem prepare_of_known (named : asked ≠ [])
    (known : ∀ name ∈ asked, (Coordinator.ofConfig found).contains name = true) :
    prepare list asked config site = (.ok (found, asked), (site.makeDirs found.dbpath).2) := by
  rw [prepare_eq asked discovered made fits, syncNames_of_known named known]

theorem Runs.of_unknown {before after : List String}
    (runs : Runs tool list (before ++ name :: after) config site answer finish ends)
    (known : ∀ other ∈ before, (Coordinator.ofConfig found).contains other = true)
    (unknown : (Coordinator.ofConfig found).contains name = false) :
    answer = .error (.failure (.repositoryNotFound name)) ∧ finish = (site.makeDirs found.dbpath).2 := by
  have hprepare := prepare_eq (before ++ name :: after) discovered made fits
  rw [syncNames_of_unknown before after known unknown] at hprepare
  obtain ⟨hanswer, hfinish, -⟩ := runs.of_refused hprepare
  exact ⟨hanswer, hfinish⟩

theorem leavesRest_of_prepared (named : asked ≠ []) (valid : found.validate = .ok ())
    (prepared : Prepared found (· ∈ asked) site) : LeavesRest tool list asked config site found where
  refused := by
    rintro ⟨name, hname, unknown⟩ answer finish ends runs other
    have hsome : (asked.find? fun name => !(Coordinator.ofConfig found).contains name).isSome = true :=
      List.find?_isSome.2 ⟨name, hname, by simp [unknown]⟩
    obtain ⟨first, hfirst⟩ := Option.isSome_iff_exists.1 hsome
    obtain ⟨hunknown, before, after, rfl, hknown⟩ := List.find?_eq_some_iff_append.1 hfirst
    obtain ⟨-, rfl⟩ := runs.of_unknown discovered made fits (by simpa using hknown) (by simpa using hunknown)
    exact isDir_workingDir_makeDirs prepared other
  others known answer finish ends runs :=
    ⟨isDir_workingDir_makeDirs prepared, fun tool_local =>
      runs.leavesOthers (prepare_of_known discovered made fits named known) known valid tool_local prepared made⟩

end

/-- With names the command checks them before it acts, and its account is exact. What they do not name is left alone
where the configuration has passed its checks and the directory of all working copies is not found through one of
these. -/
theorem syncsNamed (discovered : config.discoverBy list = .ok (found, added))
    (made : (site.disk.makeDirs found.dbpath).1 = .ok ()) (fits : (Coordinator.ofConfig found).Fits)
    (named : asked ≠ []) :
    SyncsNamed tool list asked config site found ∧
      (original.finalize = (config, .ok ()) → Prepared found (· ∈ asked) site →
        LeavesRest tool list asked config site found) := by
  have hknown (known : ∀ name ∈ asked, (Coordinator.ofConfig found).contains name = true) :
      prepare list asked config site = (.ok (found, asked), (site.makeDirs found.dbpath).2) :=
    prepare_of_known discovered made fits named known
  refine ⟨?_, ?_⟩
  · constructor
    case refused =>
      rintro before name after rfl known unknown answer finish ends runs
      obtain ⟨rfl, rfl⟩ := runs.of_unknown discovered made fits known unknown
      exact ⟨rfl, onlyMakes_makeDirs found site⟩
    case accounts =>
      intro known answer finish ends runs
      obtain ⟨report, rfl, gathers⟩ := runs.gathers (hknown known) known
      exact ⟨report, rfl, accounts_of_gathers gathers⟩
    case calls =>
      intro known answer finish ends runs
      have hstarts := runs.startsOnly (hknown known) known
      rwa [Site.makeDirs_snd] at hstarts
    case settles =>
      intro moves b run
      exact Batch.settles_of_run (Coordinator.permits_pos found) (fun _ _ => Coordinator.within_syncTarget) run
    case command =>
      rintro w a rfl rfl h
      exact runs_of_command h
  · intro finalized prepared
    obtain ⟨repos, -, -, valid⟩ := Config.discoverBy_spec finalized discovered
    exact leavesRest_of_prepared discovered made fits named valid prepared

/-- Two names of which one is given twice, and the other cannot be cloned. -/
theorem syncsNamed_twoCopies :
    ∃ config found added, (twoCopies "/srv/db").finalize = (config, .ok ()) ∧
      config.discoverBy (fun _ _ => .ok []) = .ok (found, added) ∧
      (emptySite.disk.makeDirs found.dbpath).1 = .ok () ∧ (Coordinator.ofConfig found).Fits ∧ ["a", "b", "a"] ≠ [] ∧
      (∀ name ∈ ["a", "b", "a"], (Coordinator.ofConfig found).contains name = true) ∧ Services.someRemotes.Local ∧
      Prepared found (· ∈ ["a", "b", "a"]) emptySite ∧
      SyncsNamed Services.someRemotes (fun _ _ => .ok []) ["a", "b", "a"] config emptySite found ∧
      LeavesRest Services.someRemotes (fun _ _ => .ok []) ["a", "b", "a"] config emptySite found := by
  have finalized : (twoCopies "/srv/db").finalize = ((twoCopies "/srv/db").complete, .ok ()) :=
    Prod.ext rfl (show (twoCopies "/srv/db").complete.validate = .ok () by decide +kernel)
  have discovered : (twoCopies "/srv/db").complete.discoverBy (fun _ _ => .ok []) =
      .ok ((twoCopies "/srv/db").complete, 0) := rfl
  have made : (emptySite.disk.makeDirs (twoCopies "/srv/db").complete.dbpath).1 = .ok () := by decide +kernel
  have fits : (Coordinator.ofConfig (twoCopies "/srv/db").complete).Fits := by decide +kernel
  have missing : emptySite.disk.isDir "/srv/db" = false := by decide +kernel
  have grounded : emptySite.disk.Grounded "/srv/db" := Disk.grounded_of_notMem (by decide +kernel)
  have prepared : Prepared (twoCopies "/srv/db").complete (· ∈ ["a", "b", "a"]) emptySite :=
    .missing (by decide) missing grounded
  obtain ⟨syncs, leaves⟩ := syncsNamed discovered made fits (show ["a", "b", "a"] ≠ [] by decide)
  exact ⟨_, _, 0, finalized, discovered, made, fits, by decide, by decide +kernel, Services.someRemotes_local,
    prepared, syncs, leaves finalized prepared⟩

/-- Where the path of the directory leads through a working copy, to make it makes that working copy, be it for
another repository or for none that is known. With too many permits the command answers nothing at all. -/
theorem sync_makes_unnamed :
    (twoCopies "/srv/db/vcs-a/..").finalize = ((twoCopies "/srv/db/vcs-a/..").complete, .ok ()) ∧
      (twoCopies "/srv/db/vcs-a/..").complete.discoverBy (fun _ _ => .ok []) =
        .ok ((twoCopies "/srv/db/vcs-a/..").complete, 0) ∧
      (emptySite.disk.makeDirs (twoCopies "/srv/db/vcs-a/..").complete.dbpath).1 = .ok () ∧ offline.Local ∧
      emptySite.disk.isDir ((twoCopies "/srv/db/vcs-a/..").complete.workingDir "a") = false ∧
      (∀ asked ∈ [["b"], ["c"]],
        (sync offline (fun _ => .ok []) asked (twoCopies "/srv/db/vcs-a/..").complete emptySite).2.disk.isDir
          ((twoCopies "/srv/db/vcs-a/..").complete.workingDir "a") = true) ∧
      ({ twoCopies "/srv/db" with maxConcurrentIndexers := Nat.pow 2 61 } : Config).complete.validate = .ok () ∧
      (sync offline (fun _ => .ok []) ["a"]
        ({ twoCopies "/srv/db" with maxConcurrentIndexers := Nat.pow 2 61 } : Config).complete emptySite).1 =
          .error .panicked := by
  have valid : (twoCopies "/srv/db/vcs-a/..").complete.validate = .ok () := by decide +kernel
  refine ⟨Prod.ext rfl valid, rfl, by decide +kernel, offline_local, by decide +kernel, by decide +kernel,
    by decide +kernel, ?_⟩
  rw [sync_eq, prepare_eq_of_not_fits ["a"] rfl (by decide +kernel) (by decide +kernel)]

/-! ## Without names -/

/-- How the command goes without names, in turn and at once: it succeeds exactly if it comes to synchronizations and
every repository that has a driver has been synchronized, and then it prints them all. -/
structure SyncsAll (tool : Tool) (list : String → SourceConfig → Except Failure (List Project)) (config : Config)
    (site : Site) : Prop where
  exit_iff : ∀ answer finish ends, Runs tool list [] config site answer finish ends → ∀ color format elapsed,
    (conclude color format elapsed answer).exit = 0 ↔ ∃ found added, config.discoverBy list = .ok (found, added) ∧
      (site.disk.makeDirs found.dbpath).1 = .ok () ∧ (Coordinator.ofConfig found).Fits ∧
      ∀ name repo driver, found.Drives name repo driver → ∃ revision, ends name (.ok revision)
  /-- A repository that has a driver is printed with the revision that it was synchronized to. -/
  shown : ∀ answer finish ends, Runs tool list [] config site answer finish ends → ∀ color format elapsed,
    (conclude color format elapsed answer).exit = 0 → ∀ found added, config.discoverBy list = .ok (found, added) →
      ∀ name repo driver, found.Drives name repo driver → ∃ revision, ends name (.ok revision) ∧
        (∀ result, ends name result → result = .ok revision) ∧
        SyncReport.Shows name revision color format (conclude color format elapsed answer).stdout
  /-- A repository without a driver is passed over: it is not synchronized, and nothing is said of it. -/
  passed : ∀ answer finish ends, Runs tool list [] config site answer finish ends →
    ∀ found added, config.discoverBy list = .ok (found, added) →
      ∀ name, (∀ repo driver, ¬found.Drives name repo driver) →
        (∀ result, ¬ends name result) ∧ ∀ report, answer = .ok report → report.get? name = none
  /-- The command of the program is such a run. -/
  command : ∀ w a, w.tool = tool → (fun _ => w.list) = list → a.command = .sync [] →
    ∃ answer finish ends, Runs tool list [] config site answer finish ends ∧
      World.command w a config site = (.finished (conclude w.color a.format w.elapsed answer), finish)

theorem Runs.all_or_stopped (runs : Runs tool list [] config site answer finish ends) :
    (∃ found added report, config.discoverBy list = .ok (found, added) ∧
        (site.disk.makeDirs found.dbpath).1 = .ok () ∧ (Coordinator.ofConfig found).Fits ∧ answer = .ok report ∧
        Collects (Coordinator.ofConfig found).names ends report) ∨
      (∃ e, answer = .error e) ∧ (∀ name result, ¬ends name result) ∧
        ∀ found added, config.discoverBy list = .ok (found, added) → (site.disk.makeDirs found.dbpath).1 = .ok () →
          ¬(Coordinator.ofConfig found).Fits := by
  rcases hdiscover : config.discoverBy list with e | ⟨found, added⟩
  · have hprepare : prepare list [] config site = (.error (.failure e), site) := by rw [prepare, hdiscover]
    obtain ⟨rfl, -, hnone⟩ := runs.of_refused hprepare
    exact .inr ⟨⟨_, rfl⟩, hnone, nofun⟩
  · cases hmade : (site.disk.makeDirs found.dbpath).1 with
    | error e =>
      have hprepare : ∃ begun, prepare list [] config site = (.error (.directory e), begun) := by
        unfold prepare
        rw [hdiscover]
        rcases hmakes : site.disk.makeDirs found.dbpath with ⟨_, disk⟩
        rw [hmakes] at hmade
        cases hmade
        exact ⟨_, by simp only [hmakes]; rfl⟩
      obtain ⟨begun, hprepare⟩ := hprepare
      obtain ⟨rfl, -, hnone⟩ := runs.of_refused hprepare
      refine .inr ⟨⟨_, rfl⟩, hnone, fun found' added' heq hok => ?_⟩
      cases heq
      cases hmade.symm.trans hok
    | ok =>
      by_cases fits : (Coordinator.ofConfig found).Fits
      · have hprepare : prepare list [] config site =
            (.ok (found, (Coordinator.ofConfig found).names), (site.makeDirs found.dbpath).2) := by
          rw [prepare_eq [] hdiscover hmade fits, syncNames_nil]
        obtain ⟨report, rfl, gathers⟩ := runs.gathers hprepare fun _ => NameMap.mem_keys.1
        exact .inl ⟨found, added, report, rfl, hmade, fits, rfl, gathers.collects (NameMap.keys_nodup _)⟩
      · obtain ⟨rfl, -, hnone⟩ := runs.of_refused (prepare_eq_of_not_fits [] hdiscover hmade fits)
        refine .inr ⟨⟨_, rfl⟩, hnone, fun found' added' heq _ => ?_⟩
        cases heq
        exact fits

theorem exit_error_ne_zero (color : Bool) (format : Format) (elapsed : Nat) (e : RunError) :
    (conclude color format elapsed (.error e)).exit ≠ 0 := by
  cases e <;> exact Nat.succ_ne_zero _

theorem exit_conclude_ok_iff {report : SyncReport} {color : Bool} {format : Format} {elapsed : Nat} :
    (conclude color format elapsed (.ok report)).exit = 0 ↔ ∀ name e, report.get? name ≠ some (.error e) := by
  have hexit := report.tells.exit_iff color format elapsed
  rw [conclude, ← not_iff_not, ← ne_eq, hexit]
  simp

/-- Collected from repositories that have a driver, results are all right if each of these has been synchronized. -/
theorem none_failed_iff {report : SyncReport} (collects : Collects (Coordinator.ofConfig found).names ends report) :
    (∀ name e, report.get? name ≠ some (.error e)) ↔
      ∀ name repo driver, found.Drives name repo driver → ∃ revision, ends name (.ok revision) := by
  constructor
  · intro fine name repo driver drives
    obtain ⟨result, hends⟩ := collects.exists_iff.2 (Coordinator.mem_names_ofConfig.2 ⟨repo, driver, drives⟩)
    cases result with
    | ok revision => exact ⟨revision, hends⟩
    | error e => exact absurd ((collects.get?_iff ..).2 hends) (fine name e)
  · intro all name e hget
    have hends := (collects.get?_iff ..).1 hget
    obtain ⟨repo, driver, drives⟩ := Coordinator.mem_names_ofConfig.1 (collects.exists_iff.1 ⟨_, hends⟩)
    obtain ⟨revision, hok⟩ := all name repo driver drives
    cases collects.eq_of_ends hends hok

theorem syncsAll (tool : Tool) (list : String → SourceConfig → Except Failure (List Project)) (config : Config)
    (site : Site) : SyncsAll tool list config site := by
  constructor
  case exit_iff =>
    intro answer finish ends runs color format elapsed
    rcases runs.all_or_stopped with
      ⟨found, added, report, discovered, made, fits, rfl, collects⟩ | ⟨⟨e, rfl⟩, -, stopped⟩
    · rw [exit_conclude_ok_iff, none_failed_iff collects]
      refine ⟨fun all => ⟨found, added, discovered, made, fits, all⟩, ?_⟩
      rintro ⟨found', added', discovered', -, -, all⟩
      cases discovered.symm.trans discovered'
      exact all
    · refine iff_of_false (exit_error_ne_zero color format elapsed e) ?_
      rintro ⟨found, added, discovered, made, fits, -⟩
      exact stopped found added discovered made fits
  case shown =>
    intro answer finish ends runs color format elapsed success found added discovered name repo driver drives
    rcases runs.all_or_stopped with ⟨found', added', report, discovered', made, -, rfl, collects⟩ | ⟨⟨e, rfl⟩, -⟩
    · cases discovered.symm.trans discovered'
      obtain ⟨revision, hends⟩ := (none_failed_iff collects).1 (exit_conclude_ok_iff.1 success) name repo driver drives
      exact ⟨revision, hends, fun result h => collects.eq_of_ends h hends,
        SyncReport.shows_of_get? ((collects.get?_iff ..).2 hends)⟩
    · exact absurd success (exit_error_ne_zero color format elapsed e)
  case passed =>
    intro answer finish ends runs found added discovered name undriven
    rcases runs.all_or_stopped with
      ⟨found', added', report, discovered', made, -, rfl, collects⟩ | ⟨⟨e, rfl⟩, hnone, -⟩
    · cases discovered.symm.trans discovered'
      have hends : ∀ result, ¬ends name result := fun result hends => by
        obtain ⟨repo, driver, drives⟩ := Coordinator.mem_names_ofConfig.1 (collects.exists_iff.1 ⟨result, hends⟩)
        exact undriven repo driver drives
      refine ⟨hends, fun report' heq => ?_⟩
      cases heq
      exact Option.eq_none_iff_forall_ne_some.2 fun result hget => hends result ((collects.get?_iff ..).1 hget)
    · exact ⟨hnone name, nofun⟩
  case command =>
    rintro w a rfl rfl h
    exact runs_of_command h

def noDriver : Config :=
  { Config.default with
    dbpath := "/srv/db"
    repos := .ofList [("a", { RepoConfig.ofUrl "https://x/a" with vcs := "svn" })] }

/-- The command succeeds, has printed that it synchronized nothing, and has called no git. By its name the repository
is not known. -/
theorem unsynced_noDriver : noDriver.finalize = (noDriver.complete, .ok ()) ∧
    noDriver.complete.repos.contains "a" = true ∧
    (∀ w : World, ∃ finish, w.command ⟨none, .human, .sync []⟩ noDriver.complete emptySite =
        (.finished (.success [Style.success.paint w.color ("Synced 0 repositories in " ++ formatDuration w.elapsed)]),
          finish) ∧ finish.calls = []) ∧
    ∀ w : World, ∃ finish, w.command ⟨none, .human, .sync ["a"]⟩ noDriver.complete emptySite =
      (w.fail (.failure (.repositoryNotFound "a")), finish) := by
  have finalized : noDriver.finalize = (noDriver.complete, .ok ()) :=
    Prod.ext rfl (show noDriver.complete.validate = .ok () by decide +kernel)
  have made : (emptySite.disk.makeDirs noDriver.complete.dbpath).1 = .ok () := by decide +kernel
  have fits : (Coordinator.ofConfig noDriver.complete).Fits := by decide +kernel
  have names : (Coordinator.ofConfig noDriver.complete).names = [] := by decide +kernel
  have discovered (list : SourceConfig → Except Failure (List Project)) :
      noDriver.complete.discoverBy (fun _ => list) = .ok (noDriver.complete, 0) := rfl
  refine ⟨finalized, by decide +kernel, fun w => ?_, fun w => ?_⟩
  · have hsync : sync w.tool w.list [] noDriver.complete emptySite = (.ok ∅, (emptySite.makeDirs "/srv/db").2) := by
      rw [sync_eq, prepare_eq [] (discovered w.list) made fits, syncNames_nil, names]
      rfl
    rw [command_sync rfl, hsync]
    exact ⟨_, rfl, by rw [Site.makeDirs_snd]; rfl⟩
  · have unknown : (Coordinator.ofConfig noDriver.complete).contains "a" = false := by decide +kernel
    have hrefused : syncNames (Coordinator.ofConfig noDriver.complete) ["a"] = .error (.repositoryNotFound "a") :=
      syncNames_of_unknown [] [] nofun unknown
    have hsync : sync w.tool w.list ["a"] noDriver.complete emptySite =
        (.error (.failure (.repositoryNotFound "a")), (emptySite.makeDirs "/srv/db").2) := by
      rw [sync_eq, prepare_eq ["a"] (discovered w.list) made fits, hrefused]
      rfl
    rw [command_sync rfl, hsync]
    exact ⟨_, rfl⟩

end CodeSearch.Cli
