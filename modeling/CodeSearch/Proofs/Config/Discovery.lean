import Mathlib.Data.List.Perm.Subperm
import CodeSearch.Proofs.Config.Completion

/-!
# Discovered repositories

Sources are asked in the order of their names, and what they list is added in its order: the first mention of
a name counts, unless the name is configured. The map is completed afterwards, which leaves alone what was
complete before.
-/

namespace CodeSearch

theorem NameMap.eq_of_size_le {α : Type} {m n : NameMap α}
    (keeps : ∀ name value, m.get? name = some value → n.get? name = some value) (le : n.size ≤ m.size) : m = n := by
  have hsub : m.entries ⊆ n.entries := by
    intro e he
    exact get?_eq_some_iff.1 (keeps e.1 e.2 (get?_eq_some_iff.2 he))
  have hperm : m.entries.Perm n.entries := (List.subperm_of_subset m.entries_nodup hsub).perm_of_length_le le
  apply ext_get?
  intro name
  apply Option.ext
  intro value
  rw [get?_eq_some_iff, get?_eq_some_iff]
  exact hperm.mem_iff

/-- A project, with the source that lists it. -/
structure Mention where
  source : SourceConfig
  project : Project

/-- The repository that a project becomes: the template of its source with the URL of the project. -/
def Mention.repo (m : Mention) : RepoConfig := { m.source.repoOptions.getD .empty with url := m.project.url }

def firstMention (mentions : List Mention) (name : String) : Option Mention :=
  mentions.find? fun m => m.project.name == name

theorem firstMention_append (ms ns : List Mention) (name : String) :
    firstMention (ms ++ ns) name = (firstMention ms name).or (firstMention ns name) :=
  List.find?_append

/-- One map of repositories comes from another by adding what is mentioned, and the count grows with it. -/
structure Adds (mentions : List Mention) (before after : NameMap RepoConfig × Nat) : Prop where
  get? : ∀ name, after.1.get? name = (before.1.get? name).or ((firstMention mentions name).map Mention.repo)
  size : after.1.size + before.2 = before.1.size + after.2

namespace Adds

variable {ms ns : List Mention} {a b c : NameMap RepoConfig × Nat}

theorem refl (a : NameMap RepoConfig × Nat) : Adds [] a a where
  get? name := by simp [firstMention]
  size := rfl

theorem trans (h : Adds ms a b) (h' : Adds ns b c) : Adds (ms ++ ns) a c where
  get? name := by
    rw [h'.get?, h.get?, firstMention_append, Option.or_assoc]
    cases firstMention ms name <;> rfl
  size := by
    have hb := h.size
    have hc := h'.size
    omega

theorem shift (h : Adds ms (a.1, 0) b) : Adds ms a (b.1, a.2 + b.2) where
  get? := h.get?
  size := by
    have hb := h.size
    simp only at hb ⊢
    omega

theorem addProject (source : SourceConfig) (found : NameMap RepoConfig × Nat) (p : Project) :
    Adds [⟨source, p⟩] found (CodeSearch.addProject source.repoOptions found p) := by
  unfold CodeSearch.addProject
  have hfirst : ∀ name, firstMention [⟨source, p⟩] name = if p.name = name then some ⟨source, p⟩ else none := by
    intro name
    by_cases h : p.name = name <;> simp [firstMention, h]
  by_cases htaken : found.1.contains p.name = true
  · rw [if_pos htaken]
    refine ⟨fun name => ?_, rfl⟩
    rw [hfirst]
    by_cases hname : p.name = name
    · obtain ⟨old, hold⟩ := NameMap.contains_iff.1 htaken
      rw [← hname, hold]
      rfl
    · rw [if_neg hname]
      simp
  · rw [if_neg htaken]
    have hfree : found.1.contains p.name = false := Bool.not_eq_true _ ▸ htaken
    refine ⟨fun name => ?_, ?_⟩
    · rw [NameMap.get?_insert, hfirst]
      by_cases hname : p.name = name
      · have hnone : found.1.get? name = none := hname ▸ Option.not_isSome_iff_eq_none.1 htaken
        rw [if_pos hname.symm, if_pos hname, hnone]
        rfl
      · rw [if_neg (Ne.symm hname), if_neg hname]
        simp
    · rw [NameMap.size_insert hfree]
      omega

theorem foldl_addProject (source : SourceConfig) (projects : List Project) (found : NameMap RepoConfig × Nat) :
    Adds (projects.map (Mention.mk source)) found
      (projects.foldl (CodeSearch.addProject source.repoOptions) found) := by
  induction projects generalizing found with
  | nil => exact refl found
  | cons p projects ih =>
    have hhead := addProject source found p
    exact hhead.trans (ih _)

end Adds

namespace Config

variable {list : String → SourceConfig → Except Failure (List Project)} {config config' original : Config}
  {sources : List (String × SourceConfig)} {found found' : NameMap RepoConfig × Nat} {added : Nat}

/-- All that the sources mention: each source in its turn, with its projects in the order of its list. -/
def mentionsOf (list : String → SourceConfig → Except Failure (List Project)) (sources : List (String × SourceConfig)) :
    List Mention :=
  sources.flatMap fun (name, source) =>
    match list name source with
    | .ok projects => projects.map (Mention.mk source)
    | .error _ => []

theorem adds_addSources (h : addSources list sources found = .ok found') :
    Adds (mentionsOf list sources) found found' ∧ ∀ e ∈ sources, ∃ projects, list e.1 e.2 = .ok projects := by
  induction sources generalizing found with
  | nil =>
    cases h
    exact ⟨.refl _, by simp⟩
  | cons head rest ih =>
    obtain ⟨name, source⟩ := head
    obtain ⟨repos, count⟩ := found
    unfold addSources at h
    cases hlist : list name source with
    | error e => simp [hlist] at h
    | ok projects =>
      rw [hlist] at h
      obtain ⟨hrest, hlisted⟩ := ih h
      have hsource := (Adds.foldl_addProject source projects (repos, 0)).shift (a := (repos, count))
      have hmentions : mentionsOf list ((name, source) :: rest) =
          projects.map (Mention.mk source) ++ mentionsOf list rest := by
        simp [mentionsOf, hlist]
      refine ⟨hmentions ▸ hsource.trans hrest, fun e he => ?_⟩
      rcases List.mem_cons.1 he with rfl | he
      · exact ⟨projects, hlist⟩
      · exact hlisted e he

/-- A discovery that succeeds completes what the sources add, and the result passes the checks. Where nothing
is added, this is the configuration as it was. -/
theorem discoverBy_spec (finalized : original.finalize = (config, .ok ()))
    (h : config.discoverBy list = .ok (config', added)) :
    ∃ repos, addSources list config.gitlabSync.toList (config.repos, 0) = .ok (repos, added) ∧
      config' = { config with repos := repos }.complete ∧ config'.validate = .ok () := by
  obtain ⟨hcomplete, hvalid⟩ := complete_of_finalize finalized
  unfold discoverBy at h
  cases hadd : addSources list config.gitlabSync.toList (config.repos, 0) with
  | error e =>
    rw [hadd] at h
    cases h
  | ok found =>
    obtain ⟨repos, count⟩ := found
    rw [hadd] at h
    change (if count = 0 then _ else _) = _ at h
    by_cases hnone : count = 0
    · rw [if_pos hnone] at h
      cases h
      -- nothing is new, so the sources have added nothing
      have hadds := (adds_addSources hadd).1
      have hkeeps : ∀ name repo, config.repos.get? name = some repo → repos.get? name = some repo := by
        intro name repo hrepo
        rw [hadds.get?, hrepo]
        rfl
      have hsize : repos.size ≤ config.repos.size := by
        have hcount := hadds.size
        simp only at hcount
        omega
      rw [← NameMap.eq_of_size_le hkeeps hsize]
      exact ⟨config.repos, hnone ▸ rfl, hcomplete.symm, hvalid⟩
    · rw [if_neg hnone] at h
      change (({ config with repos := repos } : Config).complete.validate >>=
        fun _ => .ok (({ config with repos := repos } : Config).complete, count)) = _ at h
      cases hchecked : ({ config with repos := repos } : Config).complete.validate with
      | error e =>
        rw [hchecked] at h
        cases h
      | ok _ =>
        rw [hchecked] at h
        cases h
        exact ⟨repos, rfl, rfl, hchecked⟩

/-- What a discovery leaves: `list` tells what the sources list. -/
structure Discovered (list : String → SourceConfig → Except Failure (List Project)) (config config' : Config)
    (added : Nat) : Prop where
  /-- Every source has been listed. -/
  listed : ∀ name source, config.gitlabSync.get? name = some source → ∃ projects, list name source = .ok projects
  kept : ∀ name repo, config.repos.get? name = some repo → config'.repos.get? name = some repo
  names : ∀ name, config'.repos.contains name = true ↔ config.repos.contains name = true ∨
    ∃ m ∈ mentionsOf list config.gitlabSync.toList, m.project.name = name
  first : ∀ name, config.repos.contains name = false → ∀ before m after,
    mentionsOf list config.gitlabSync.toList = before ++ m :: after → m.project.name = name →
    (∀ earlier ∈ before, earlier.project.name ≠ name) →
      ∃ repo, config'.repos.get? name = some repo ∧ repo.url = m.project.url ∧
        repo = m.repo.completed config.vcsConfig
  count : config'.repos.size = config.repos.size + added
  /-- Nothing but the map of repositories is changed. -/
  frame : config' = { config with repos := config'.repos }
  valid : config'.validate = .ok ()
  /-- The result is complete, so that it may be discovered into again. -/
  finalized : config'.finalize = (config', .ok ())

theorem discovered_of_discoverBy (finalized : original.finalize = (config, .ok ()))
    (h : config.discoverBy list = .ok (config', added)) : Discovered list config config' added := by
  obtain ⟨repos, hadd, hresult, hvalid⟩ := discoverBy_spec finalized h
  obtain ⟨hadds, hlisted⟩ := adds_addSources hadd
  obtain ⟨hcomplete, -⟩ := complete_of_finalize finalized
  have hget : ∀ name, config'.repos.get? name = ((config.repos.get? name).or
      ((firstMention (mentionsOf list config.gitlabSync.toList) name).map Mention.repo)).map
        (·.completed config.vcsConfig) := by
    intro name
    rw [hresult, get?_complete, ← hadds.get?]
  have hkept : ∀ name repo, config.repos.get? name = some repo → config'.repos.get? name = some repo := by
    intro name repo hrepo
    rw [hget, hrepo, Option.some_or, ← hrepo, ← get?_complete, hcomplete]
  refine ⟨fun name source hsource => hlisted _ (NameMap.get?_eq_some_iff.1 hsource), hkept, ?_, ?_, ?_, ?_, hvalid, ?_⟩
  · intro name
    rw [NameMap.contains, hget, Option.isSome_map, Option.isSome_or, Option.isSome_map, Bool.or_eq_true,
      firstMention, List.find?_isSome]
    simp [NameMap.contains]
  · intro name hfree before m after hmentions hname hearlier
    have hfirst : firstMention (mentionsOf list config.gitlabSync.toList) name = some m := by
      rw [firstMention, List.find?_eq_some_iff_append]
      refine ⟨beq_iff_eq.2 hname, before, after, hmentions, fun earlier hmem => ?_⟩
      simpa using hearlier earlier hmem
    have hnone : config.repos.get? name = none := by simpa [NameMap.contains] using hfree
    refine ⟨_, by rw [hget, hnone, hfirst]; rfl, RepoConfig.url_completed config.vcsConfig m.repo, rfl⟩
  · have hcount := hadds.size
    rw [hresult, size_complete]
    exact hcount
  · rw [hresult]
    rfl
  · have hstays : config'.complete = config' := by rw [hresult, complete_complete]
    rw [finalize, hstays, hvalid]

/-- A configuration with a repository of its own and two sources, the first of which has a template. -/
def twoSources : Config :=
  { Config.default with
    vcsConfig := .ofList [("git", .ofList [("ref", .string "main")])]
    repos := .ofList [("x", .ofUrl "https://x/x")]
    gitlabSync := .ofList [
      ("two", .ofToken "https://h" "key"),
      ("one", { SourceConfig.ofToken "https://g" "key" with
        repoOptions := some { RepoConfig.empty with excludeDotFiles := true } })] }

/-- Both sources list the same name, and the first one lists it twice. -/
def overlapping (name : String) (_ : SourceConfig) : Except Failure (List Project) :=
  .ok (if name == "one" then [⟨"x", "https://g/x"⟩, ⟨"y", "https://g/y"⟩, ⟨"y", "https://g/y2"⟩]
    else [⟨"y", "https://h/y"⟩, ⟨"z", "https://h/z"⟩])

theorem discovered_of_twoSources : ∃ config config', twoSources.finalize = (config, .ok ()) ∧
    config.discoverBy overlapping = .ok (config', 2) ∧ Discovered overlapping config config' 2 := by
  have hfinalize : twoSources.finalize = (twoSources.complete, .ok ()) :=
    Prod.ext rfl (show twoSources.complete.validate = .ok () by decide +kernel)
  have hcount : ((twoSources.complete.discoverBy overlapping).map (·.2)).toOption = some 2 := by decide +kernel
  cases hresult : twoSources.complete.discoverBy overlapping with
  | error e =>
    rw [hresult] at hcount
    cases hcount
  | ok result =>
    obtain ⟨config', added⟩ := result
    rw [hresult] at hcount
    obtain rfl : added = 2 := Option.some.inj hcount
    exact ⟨_, config', hfinalize, hresult, discovered_of_discoverBy hfinalize hresult⟩

end Config

end CodeSearch
