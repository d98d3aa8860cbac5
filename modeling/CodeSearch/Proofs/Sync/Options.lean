import CodeSearch.Proofs.Git.Protocol
import CodeSearch.Proofs.Runs
import CodeSearch.Proofs.Sync.Batches
import CodeSearch.Proofs.Sync.Places

/-!
# Options of git

Git takes an argument for an option if it begins with a dash. The driver has options of its own; what comes
from outside, the name of a repository, a ref that is configured or detected, stands behind other text. Only
the URL of a repository is an argument as it is, so it is the one text that git can take for an option.
-/

namespace CodeSearch

variable {acts : Action → Prop} {looks : String → Prop} {tool : Tool}

/-! ## Synchronizations at once -/

namespace Sync

open Coordinator

variable {c : Coordinator VcsDriver} {b b' : Batch} {start site site' : Site} {old new : Phase} {task after : Task}
  {names : List String} {moves : List BatchMove}

theorem Advance.startsOnly (advance : Advance tool old task site new after site') (uses : task.script.Uses looks acts) :
    after.script.Uses looks acts ∧ site.StartsOnly acts site' := by
  cases advance with
  | lock | permit | operate | finish | giveBack | launch => exact ⟨uses, .refl _⟩
  | look | test =>
    cases uses with
    | test _ rest => exact ⟨rest _, .refl _⟩
  | act =>
    cases uses with
    | act kind rest => exact ⟨rest _, Site.startsOnly_perform kind⟩
  | @reply _ label _ _ _ _ _ =>
    cases uses with
    | act kind rest =>
      refine ⟨rest _, fun call h => ?_⟩
      rcases Site.mem_calls_work h with h | ⟨rfl, rfl⟩
      · exact .inl h
      · exact .inr ⟨label, kind⟩

namespace Batch

/-- What is still to be done and what was started is among some actions. -/
structure Confined (looks : String → Prop) (acts : Action → Prop) (start : Site) (b : Batch) : Prop where
  todo : ∀ i repo phase task, b.At i repo phase task → task.script.Uses looks acts
  started : start.StartsOnly acts b.site

theorem Confined.step {move : BatchMove} (confined : b.Confined looks acts start) (sound : b.Sound c)
    (uses : ∀ name ∈ b.waiting, ∀ target, c.find name = .ok target → (syncTarget target).Uses looks acts)
    (h : Batch.step c tool b move = some b') : b'.Confined looks acts start := by
  have htodo := confined.todo
  cases sound.change_of_step h with
  | refuse _ _ change | collect _ change => exact change ▸ ⟨htodo, confined.started⟩
  | begin waiting known change =>
    rw [change]
    refine ⟨fun i repo phase task place => ?_, confined.started⟩
    rcases (at_begin sound.length).1 place with place | ⟨-, -, -, rfl⟩
    · exact htodo i repo phase task place
    · exact uses _ (List.mem_of_getElem? waiting) _ known
  | advance place advance moves _ _ =>
    obtain ⟨hafter, hstarted⟩ := Advance.startsOnly advance (htodo _ _ _ _ place)
    refine ⟨fun i repo phase task here => ?_, confined.started.trans hstarted⟩
    rw [moves] at here
    split at here
    · rw [here.2.2]
      exact hafter
    · exact htodo i repo phase task here
  | unlock place moves _ site _ =>
    refine ⟨fun i repo phase task here => ?_, site ▸ confined.started⟩
    rw [moves] at here
    split at here
    · rw [here.2.2]
      exact htodo _ _ _ _ place
    · exact htodo i repo phase task here

theorem Change.waiting_subset (change : Change c tool b b') : b'.waiting ⊆ b.waiting := by
  cases change with
  | refuse _ _ change | begin _ _ change =>
    rw [change]
    exact (List.eraseIdx_sublist ..).subset
  | advance _ _ _ keeps _ | unlock _ _ keeps _ _ => rw [keeps.waiting]; exact List.Subset.refl _
  | collect _ change => rw [change]; exact List.Subset.refl _

/-- Synchronizations at once start no other calls than each of them by itself can. -/
theorem startsOnly_of_named
    (uses : ∀ name ∈ names, ∀ target, c.find name = .ok target → (syncTarget target).Uses looks acts)
    (run : runMoves (Batch.step c tool) (Batch.start c names site) moves = some b) : site.StartsOnly acts b.site := by
  have hconfined : (Batch.start c names site).Confined looks acts site :=
    ⟨fun i repo phase task place => by simp [At, Batch.start, Machine.start] at place, .refl site⟩
  have hkept : b.Sound c ∧ b.waiting ⊆ names ∧ b.Confined looks acts site := by
    refine runMoves_keeps (motive := fun b => b.Sound c ∧ b.waiting ⊆ names ∧ b.Confined looks acts site)
      ⟨sound_start .., List.Subset.refl _, hconfined⟩ ?_ run
    rintro b move b' ⟨sound, named, confined⟩ h
    exact ⟨sound.step h, List.Subset.trans (sound.change_of_step h).waiting_subset named,
      confined.step sound (fun name waiting => uses name (named waiting)) h⟩
  exact hkept.2.2.started

theorem startsOnly_of_run (uses : ∀ name target, c.find name = .ok target → (syncTarget target).Uses looks acts)
    (run : runMoves (Batch.step c tool) (Batch.start c names site) moves = some b) : site.StartsOnly acts b.site :=
  startsOnly_of_named (fun name _ => uses name) run

end Batch

end Sync

namespace Coordinator

variable {c : Coordinator VcsDriver}

theorem uses_sync (uses : ∀ name target, c.find name = .ok target → (syncTarget target).Uses looks acts)
    (name : String) : (c.sync name).Uses looks acts := by
  unfold sync
  cases hfind : c.find name with
  | error e => exact .done _
  | ok target => exact uses name target hfind

theorem uses_syncMany_of_named {names : List String} (uses : ∀ name ∈ names, (c.sync name).Uses looks acts) :
    (c.syncMany names).Uses looks acts := by
  suffices h : ∀ results, (c.syncAfter results names).Uses looks acts from h ∅
  induction names with
  | nil => exact fun results => .done results
  | cons name names ih =>
    obtain ⟨hname, hnames⟩ := List.forall_mem_cons.1 uses
    intro results
    rw [syncAfter, List.foldlM_cons]
    exact .bind (.bind hname fun _ => .done _) (ih hnames)

theorem uses_syncMany (uses : ∀ name target, c.find name = .ok target → (syncTarget target).Uses looks acts)
    (names : List String) : (c.syncMany names).Uses looks acts :=
  uses_syncMany_of_named fun name _ => uses_sync uses name

end Coordinator

/-! ## The arguments of the driver -/

namespace Git

open Script

/-- What git takes for an option. -/
def isOption (arg : String) : Bool := arg.toList.head? == some '-'

def ownOptions : List String := ["--depth", "--prune", "--no-tags", "--hard", "--config"]

/-- An argument that git takes for an option is one of the driver's own, or it is the URL that is cloned. -/
structure Guarded (url : String) (args : List String) : Prop where
  cloned : args.head? = some "clone" → args[3]? = some url
  options : ∀ i arg, args[i]? = some arg → isOption arg = true →
    arg ∈ ownOptions ∨ args.head? = some "clone" ∧ i = 3

def Guards (url : String) (action : Action) : Prop :=
  ∀ label dir args, action = .call label dir args → Guarded url args

variable {url dir parent name arg text rest : String} {settings : Settings} {args more : List String}

/-- Where no URL begins with a dash nothing does but the driver's own options. -/
theorem Guarded.own (guarded : Guarded url args) (plain : isOption url = false) (h : arg ∈ args)
    (option : isOption arg = true) : arg ∈ ownOptions := by
  obtain ⟨i, hi⟩ := List.mem_iff_getElem?.1 h
  rcases guarded.options i arg hi option with own | ⟨clone, rfl⟩
  · exact own
  · rw [guarded.cloned clone, Option.some.injEq] at hi
    rw [← hi, plain] at option
    cases option

theorem isOption_append (h : text ≠ "") : isOption (text ++ rest) = isOption text := by
  have hne : text.toList ≠ [] := fun hnil => h (String.toList_eq_nil_iff.1 hnil)
  rw [isOption, isOption, String.toList_append, List.head?_append_of_ne_nil _ hne]

theorem isOption_workingName (name : String) : isOption (Config.workingName name) = false :=
  (isOption_append (by decide)).trans (by decide)

theorem guarded_of_all (other : args.head? ≠ some "clone")
    (all : ∀ arg ∈ args, isOption arg = true → arg ∈ ownOptions) : Guarded url args where
  cloned h := absurd h other
  options _ arg h option := .inl (all arg (List.mem_of_getElem? h) option)

theorem guarded_clone (plain : isOption name = false)
    (all : ∀ arg ∈ more, isOption arg = true → arg ∈ ownOptions) :
    Guarded url (["clone", "--depth", "1", url, name] ++ more) where
  cloned _ := rfl
  options i arg h option := by
    match i with
    | 3 => exact .inr ⟨rfl, rfl⟩
    | 0 | 2 =>
      cases h
      exact absurd option (by decide)
    | 1 =>
      cases h
      exact .inl (by decide)
    | 4 =>
      cases h
      rw [plain] at option
      cases option
    | i + 5 => exact .inl (all arg (List.mem_of_getElem? (i := i) (by simpa using h)) option)

theorem guards_call (label : String) (guarded : Guarded url args) :
    (Script.call label dir args).Uses (fun _ => True) (Guards url) :=
  .act (fun _ _ _ h => by cases h; exact guarded) fun _ => .done _

theorem guards_remoteHead (dir : String) : (remoteHead dir).Uses (fun _ => True) (Guards url) := by
  refine .bind (guards_call _ (guarded_of_all (by decide) (by decide))) fun answer => ?_
  cases answer <;> exact .done _

theorem guards_headRev (dir : String) : (headRev dir).Uses (fun _ => True) (Guards url) :=
  .bind (guards_call _ (guarded_of_all (by decide) (by decide))) fun _ => .done _

/-- A ref follows a plus sign or the name of the remote. -/
theorem guards_follow (ref dir : String) : (follow ref dir).Uses (fun _ => True) (Guards url) := by
  have hfetched : isOption ("+" ++ ref ++ ":remotes/origin/" ++ ref) = false := by
    rw [String.append_assoc, String.append_assoc, isOption_append (by decide)]
    decide
  have hreset : isOption ("origin/" ++ ref) = false := (isOption_append (by decide)).trans (by decide)
  refine .bind (guards_call _ (guarded_of_all (by simp [fetchArgs]) ?_)) fun _ =>
    .bind (guards_call _ (guarded_of_all (by simp) ?_)) fun _ => guards_headRev dir
  · intro arg h option
    simp only [fetchArgs, List.mem_cons, List.not_mem_nil, or_false] at h
    rcases h with rfl | rfl | rfl | rfl | rfl | rfl | rfl
    · exact absurd option (by decide)
    · decide
    · decide
    · decide
    · exact absurd option (by decide)
    · exact absurd option (by decide)
    · rw [hfetched] at option
      cases option
  · intro arg h option
    simp only [List.mem_cons, List.not_mem_nil, or_false] at h
    rcases h with rfl | rfl | rfl
    · exact absurd option (by decide)
    · decide
    · rw [hreset] at option
      cases option

theorem guards_pull (settings : Settings) (dir : String) :
    (pull settings remoteHead dir).Uses (fun _ => True) (Guards url) := by
  refine .bind ?_ fun ref => guards_follow ref dir
  unfold targetRef
  split
  · exact .done _
  split
  · exact .bind (guards_remoteHead dir) fun _ => .done _
  · exact .done _

/-- The name of a working copy does not begin with a dash, and no more is said of the credentials than where
they are. -/
theorem guards_clone (settings : Settings) (named : Path.fileName? dir = some name)
    (above : Path.parent? dir = some parent) (plain : isOption name = false) :
    (clone settings remoteHead dir url).Uses (fun _ => True) (Guards url) := by
  have hcloning (more : List String) (all : ∀ arg ∈ more, isOption arg = true → arg ∈ ownOptions) :
      (cloneCall settings dir parent (["clone", "--depth", "1", url, name] ++ more)).Uses (fun _ => True)
        (Guards url) := by
    refine .bind (guards_call _ (guarded_clone plain all)) fun cloned => ?_
    cases cloned with
    | error e => exact .done _
    | ok output => exact guards_pull settings dir
  rw [clone_eq named above]
  refine .bind (.act nofun fun _ => .done _) fun made => ?_
  cases made with
  | error e => exact .done _
  | ok path =>
    unfold credentialArgs
    by_cases has : settings.hasCredentials = true
    · rw [if_pos has]
      refine Uses.act nofun fun kept => ?_
      cases kept with
      | error e => exact hcloning [] nofun
      | ok path =>
        have hhelper : isOption ("credential.helper=store --file " ++ path) = false :=
          (isOption_append (by decide)).trans (by decide)
        refine hcloning ["--config", "credential.helper=store --file " ++ path] fun arg h option => ?_
        rcases List.mem_pair.1 h with rfl | rfl
        · decide
        · rw [hhelper] at option
          cases option
    · rw [if_neg has]
      exact hcloning [] nofun

end Git

/-! ## Configured repositories -/

def SyncTarget.operations (target : SyncTarget VcsDriver) : List (Script (Except Failure String)) :=
  [target.driver.clone target.workingDir target.url, target.driver.pull target.workingDir,
    target.driver.headRev target.workingDir]

namespace Config

open Git (Guarded Guards isOption ownOptions)

/-- The calls among the actions are guarded for a configured repository. -/
def Guards (config : Config) (action : Action) : Prop :=
  ∃ name repo, config.repos.get? name = some repo ∧ Git.Guards repo.url action

/-- All calls that were started between two sites are guarded, each for a configured repository. -/
def GuardsCalls (config : Config) (s t : Site) : Prop :=
  ∀ call ∈ t.calls, call ∈ s.calls ∨ ∃ name repo, config.repos.get? name = some repo ∧ Guarded repo.url call.args

variable {config : Config} {name : String} {target : SyncTarget VcsDriver} {s t : Site}

theorem repo_of_find (h : (Coordinator.ofConfig config).find name = .ok target) :
    ∃ repo, config.repos.get? name = some repo ∧ target.url = repo.url := by
  rw [Coordinator.find_eq_ok_iff, Coordinator.ofConfig, NameMap.get?_filterMap, Option.bind_eq_some_iff] at h
  obtain ⟨repo, hrepo, htarget⟩ := h
  unfold Coordinator.target? at htarget
  split at htarget
  · cases htarget
  · cases htarget
    exact ⟨repo, hrepo, rfl⟩

theorem guards_operations (h : (Coordinator.ofConfig config).find name = .ok target) :
    ∀ operation ∈ target.operations, operation.Uses (fun _ => True) (Git.Guards target.url) := by
  obtain ⟨-, hdir, settings, hdriver⟩ := Coordinator.git_of_find h
  have entry := entry_workingName name
  have hclone : target.driver.clone = Git.clone settings Git.remoteHead := by rw [hdriver]; rfl
  have hpull : target.driver.pull = Git.pull settings Git.remoteHead := by rw [hdriver]; rfl
  have hheadRev : target.driver.headRev = Git.headRev := by rw [hdriver]; rfl
  rw [SyncTarget.operations, hclone, hpull, hheadRev, hdir, workingDir]
  refine List.forall_mem_cons.2 ⟨?_, List.forall_mem_cons.2 ⟨?_, List.forall_mem_singleton.2 ?_⟩⟩
  · exact Git.guards_clone settings (Path.fileName?_join entry) (Path.parent?_join entry) (Git.isOption_workingName name)
  · exact Git.guards_pull settings _
  · exact Git.guards_headRev _

theorem guards_syncTarget (name : String) (target : SyncTarget VcsDriver)
    (h : (Coordinator.ofConfig config).find name = .ok target) :
    (Coordinator.syncTarget target).Uses (fun _ => True) config.Guards := by
  obtain ⟨repo, hrepo, hurl⟩ := repo_of_find h
  have hguards := guards_operations h
  simp only [SyncTarget.operations, List.forall_mem_cons] at hguards
  have hmono : ∀ action, Git.Guards target.url action → config.Guards action :=
    fun action guards => ⟨name, repo, hrepo, hurl ▸ guards⟩
  refine .test trivial fun found => ?_
  cases found with
  | true => exact hguards.2.1.mono hmono
  | false => exact hguards.1.mono hmono

theorem guardsCalls_of_startsOnly (starts : s.StartsOnly config.Guards t) : config.GuardsCalls s t := by
  intro call h
  rcases starts call h with h | ⟨label, name, repo, hrepo, guards⟩
  · exact .inl h
  · exact .inr ⟨name, repo, hrepo, guards _ _ _ rfl⟩

/-- What git is given that it takes for options, whatever it answers. -/
structure GuardsOptions (config : Config) : Prop where
  each : ∀ name target, (Coordinator.ofConfig config).find name = .ok target →
    ∃ repo, config.repos.get? name = some repo ∧ target.url = repo.url ∧
      ∀ operation ∈ target.operations, ∀ tool site, ∀ call ∈ (operation.run tool site).2.calls,
        call ∈ site.calls ∨ Guarded repo.url call.args
  alone : ∀ name tool site, config.GuardsCalls site (((Coordinator.ofConfig config).sync name).run tool site).2
  inTurn : ∀ names tool site, config.GuardsCalls site (((Coordinator.ofConfig config).syncMany names).run tool site).2
  atOnce : ∀ names tool site moves b,
    runMoves (Sync.Batch.step (Coordinator.ofConfig config) tool)
        (Sync.Batch.start (Coordinator.ofConfig config) names site) moves = some b →
      config.GuardsCalls site b.site
  /-- When no URL begins with a dash there are only the driver's own options. -/
  plain : (∀ name repo, config.repos.get? name = some repo → isOption repo.url = false) →
    ∀ s t, config.GuardsCalls s t →
      ∀ call ∈ t.calls, call ∈ s.calls ∨ ∀ arg ∈ call.args, isOption arg = true → arg ∈ ownOptions

/-- This holds of every configuration, also of one with discovered projects, and before any check. -/
theorem guardsOptions (config : Config) : config.GuardsOptions where
  each name target h := by
    obtain ⟨repo, hrepo, hurl⟩ := repo_of_find h
    refine ⟨repo, hrepo, hurl, fun operation hmem tool site call started => ?_⟩
    rcases (guards_operations h operation hmem).startsOnly site call started with old | ⟨label, guards⟩
    · exact .inl old
    · exact .inr (hurl ▸ guards _ _ _ rfl)
  alone name _ site :=
    guardsCalls_of_startsOnly ((Coordinator.uses_sync guards_syncTarget name).startsOnly site)
  inTurn names _ site :=
    guardsCalls_of_startsOnly ((Coordinator.uses_syncMany guards_syncTarget names).startsOnly site)
  atOnce _ _ _ _ _ run := guardsCalls_of_startsOnly (Sync.Batch.startsOnly_of_run guards_syncTarget run)
  plain urls s t guarded call h := by
    rcases guarded call h with old | ⟨name, repo, hrepo, hargs⟩
    · exact .inl old
    · exact .inr fun arg hmem option => hargs.own (urls name repo hrepo) hmem option

/-- A configuration with an option for a URL. -/
def dashedUrl : Config :=
  { Config.default with
    dbpath := "/srv/db"
    repos := .ofList [("a", .ofUrl "--upload-pack=touch pwned")] }

/-- The check lets such a URL pass, and the call to clone takes it as it is. -/
theorem url_read_as_option : dashedUrl.validate = .ok () ∧
    ∃ call ∈ (((Coordinator.ofConfig dashedUrl).sync "a").run (fun _ _ disk => (.ended false [] [], disk))
        ⟨.ofDir "/srv", []⟩).2.calls,
      call.args = ["clone", "--depth", "1", "--upload-pack=touch pwned", "vcs-a"] ∧
        ∃ arg ∈ call.args, isOption arg = true ∧ arg ∉ ownOptions := by
  decide +kernel

end Config

end CodeSearch
