import CodeSearch.Config.Finalize

/-!
# Completed repositories

A repository is completed by itself: with defaults, and with the shared settings of its kind where it sets
nothing. What is complete stays as it is.
-/

namespace CodeSearch

theorem VcsSettings.merge_merge (settings : Option VcsSettings) (shared : VcsSettings) :
    merge (some (merge settings shared)) shared = merge settings shared := by
  apply NameMap.ext_get?
  intro name
  simp only [merge, Option.getD_some, NameMap.get?_union, Option.or_assoc, Option.or_self]

theorem UrlPattern.withDefaults_withDefaults (p : UrlPattern) : p.withDefaults.withDefaults = p.withDefaults := by
  have hbase : defaultPattern.baseUrl.isEmpty = false := by decide
  have hanchor : defaultPattern.anchor.isEmpty = false := by decide
  unfold withDefaults
  by_cases hb : p.baseUrl.isEmpty <;> by_cases ha : p.anchor.isEmpty <;> simp [ha, hb, hbase, hanchor]

namespace RepoConfig

/-- A repository with defaults, and with the shared settings of its kind where it sets nothing. -/
def completed (shared : NameMap VcsSettings) (r : RepoConfig) : RepoConfig :=
  match shared.get? r.withDefaults.vcs with
  | none => r.withDefaults
  | some settings => { r.withDefaults with vcsConfig := some (VcsSettings.merge r.vcsConfig settings) }

variable {shared : NameMap VcsSettings} {r : RepoConfig}

theorem withDefaults_withDefaults (r : RepoConfig) : r.withDefaults.withDefaults = r.withDefaults := by
  have hvcs : defaultVcs.isEmpty = false := by decide
  have hpoll : defaultMsBetweenPoll ≠ 0 := by decide
  unfold withDefaults
  by_cases hv : r.vcs.isEmpty <;> by_cases hm : r.msBetweenPoll = 0 <;>
    simp [hv, hm, hvcs, hpoll, UrlPattern.withDefaults_withDefaults]

theorem vcs_completed (shared : NameMap VcsSettings) (r : RepoConfig) :
    (r.completed shared).vcs = if r.vcs.isEmpty then defaultVcs else r.vcs := by
  unfold completed
  split <;> rfl

theorem url_completed (shared : NameMap VcsSettings) (r : RepoConfig) : (r.completed shared).url = r.url := by
  unfold completed
  split <;> rfl

theorem withDefaults_completed (shared : NameMap VcsSettings) (r : RepoConfig) :
    (r.completed shared).withDefaults = r.completed shared := by
  unfold completed
  split
  · exact withDefaults_withDefaults r
  · rename_i settings _
    exact congrArg (fun d : RepoConfig => { d with vcsConfig := some (VcsSettings.merge r.vcsConfig settings) })
      (withDefaults_withDefaults r)

theorem completed_completed (shared : NameMap VcsSettings) (r : RepoConfig) :
    (r.completed shared).completed shared = r.completed shared := by
  have hvcs : (r.completed shared).vcs = r.withDefaults.vcs := vcs_completed shared r
  rw [completed, withDefaults_completed, hvcs]
  cases hshared : shared.get? r.withDefaults.vcs with
  | none => rfl
  | some settings =>
    have hr : r.completed shared =
        { r.withDefaults with vcsConfig := some (VcsSettings.merge r.vcsConfig settings) } := by
      rw [completed, hshared]
    rw [hr]
    simp only [VcsSettings.merge_merge]

end RepoConfig

namespace Config

theorem get?_complete (config : Config) (name : String) :
    config.complete.repos.get? name = (config.repos.get? name).map (·.completed config.vcsConfig) := by
  rw [complete, shareSettings, NameMap.get?_map, NameMap.get?_map, Option.map_map]
  rfl

theorem size_complete (config : Config) : config.complete.repos.size = config.repos.size := by
  simp [complete, shareSettings]

theorem complete_complete (config : Config) : config.complete.complete = config.complete := by
  have hrepos : config.complete.complete.repos = config.complete.repos := by
    apply NameMap.ext_get?
    intro name
    have hshared : config.complete.vcsConfig = config.vcsConfig := rfl
    rw [get?_complete, get?_complete, hshared]
    cases config.repos.get? name with
    | none => rfl
    | some r => exact congrArg some (RepoConfig.completed_completed config.vcsConfig r)
  exact congrArg (fun repos => { config with repos := repos }) hrepos

theorem complete_of_finalize {original config : Config} (h : original.finalize = (config, .ok ())) :
    config.complete = config ∧ config.validate = .ok () := by
  obtain ⟨hcomplete, hvalid⟩ := Prod.mk.inj h
  rw [← hcomplete]
  exact ⟨complete_complete original, hvalid⟩

end Config

end CodeSearch
