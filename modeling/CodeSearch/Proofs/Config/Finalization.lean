import CodeSearch.Proofs.Config.Effective

/-!
# Finishing a configuration

Finishing fills in what is missing and leaves what is set. So a configuration that was finished is finished:
doing so again changes no repository and finds the same fault, if there is one.
-/

namespace CodeSearch

theorem UrlPattern.parts_withDefaults (p : UrlPattern) :
    (p.baseUrl ≠ "" → p.withDefaults.baseUrl = p.baseUrl) ∧ (p.anchor ≠ "" → p.withDefaults.anchor = p.anchor) := by
  refine ⟨fun hset => ?_, fun hset => ?_⟩
  · have hempty : ¬p.baseUrl.isEmpty = true := by simpa using hset
    exact if_neg hempty
  · have hempty : ¬p.anchor.isEmpty = true := by simpa using hset
    exact if_neg hempty

namespace RepoConfig

variable {shared : NameMap VcsSettings} {r : RepoConfig}

theorem urlPattern_completed (shared : NameMap VcsSettings) (r : RepoConfig) :
    (r.completed shared).urlPattern = some (r.urlPattern.getD ⟨"", ""⟩).withDefaults := by
  unfold completed
  split <;> rfl

theorem msBetweenPoll_completed (shared : NameMap VcsSettings) (r : RepoConfig) :
    (r.completed shared).msBetweenPoll = if r.msBetweenPoll = 0 then defaultMsBetweenPoll else r.msBetweenPoll := by
  unfold completed
  split <;> rfl

/-- What a repository sets itself stands in another one as well. -/
structure KeptIn (r kept : RepoConfig) : Prop where
  msBetweenPoll : r.msBetweenPoll ≠ 0 → kept.msBetweenPoll = r.msBetweenPoll
  vcs : r.vcs ≠ "" → kept.vcs = r.vcs
  urlPattern : ∀ p, r.urlPattern = some p → ∃ filled, kept.urlPattern = some filled ∧
    (p.baseUrl ≠ "" → filled.baseUrl = p.baseUrl) ∧ (p.anchor ≠ "" → filled.anchor = p.anchor)
  /-- A value of null is set. -/
  vcsConfig : ∀ own key value, r.vcsConfig = some own → own.get? key = some value →
    ∃ filled, kept.vcsConfig = some filled ∧ filled.get? key = some value
  /-- All that has no default is kept, set or not. -/
  rest : kept.url = r.url ∧ kept.accessKeys = r.accessKeys ∧ kept.oauthAuthorization = r.oauthAuthorization ∧
    kept.excludeDotFiles = r.excludeDotFiles ∧ kept.enablePollUpdates = r.enablePollUpdates ∧
    kept.enablePushUpdates = r.enablePushUpdates

theorem keptIn_completed (shared : NameMap VcsSettings) (r : RepoConfig) : r.KeptIn (r.completed shared) where
  msBetweenPoll hset := by rw [msBetweenPoll_completed, if_neg hset]
  vcs hset := by
    have hempty : ¬r.vcs.isEmpty = true := by simpa using hset
    rw [vcs_completed, if_neg hempty]
  urlPattern p hp := by
    refine ⟨p.withDefaults, ?_, p.parts_withDefaults⟩
    rw [urlPattern_completed, hp, Option.getD_some]
  vcsConfig own key value hown hvalue := by
    have heffective : r.effective shared key = some value := by
      rw [effective, hown, Option.bind_some, hvalue]
    rw [← get?_completed] at heffective
    exact Option.bind_eq_some_iff.1 heffective
  rest := by
    unfold completed
    split <;> exact ⟨rfl, rfl, rfl, rfl, rfl, rfl⟩

end RepoConfig

namespace Config

theorem finalize_finalize (config : Config) : config.finalize.1.finalize = config.finalize := by
  change (config.complete.complete, config.complete.complete.validate) = _
  rw [complete_complete]
  rfl

/-- What finishing a configuration comes to, whether its checks pass or not. -/
structure Finalization (config : Config) : Prop where
  /-- The second time leaves all as it is and ends as the first. -/
  again : config.finalize.1.finalize = config.finalize
  names : config.finalize.1.repos.keys = config.repos.keys
  keeps : ∀ name r, config.repos.get? name = some r →
    ∃ kept, config.finalize.1.repos.get? name = some kept ∧ r.KeptIn kept

theorem finalization (config : Config) : Finalization config where
  again := finalize_finalize config
  names := by
    change config.complete.repos.keys = _
    simp [complete, shareSettings, NameMap.keys, NameMap.map]
  keeps name r found := by
    refine ⟨r.completed config.vcsConfig, ?_, r.keptIn_completed config.vcsConfig⟩
    change config.complete.repos.get? name = _
    rw [get?_complete, found, Option.map_some]

end Config

end CodeSearch
