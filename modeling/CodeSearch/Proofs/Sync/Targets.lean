import CodeSearch.Proofs.Vcs.Scripts
import CodeSearch.Sync.Coordinator

/-!
# What is synchronized

Every repository that a configuration has a driver for is synchronized by git, in its own working directory
and with few actions.
-/

namespace CodeSearch

theorem VcsDriver.git_of_ofKind {kind : String} {settings : Option VcsSettings} {driver : VcsDriver}
    (h : ofKind kind settings = .ok driver) : ∃ s, driver = Git.driver s Git.remoteHead := by
  unfold ofKind kinds at h
  rw [List.lookup_cons, List.lookup_nil] at h
  cases hkind : kind == "git" with
  | false =>
    rw [hkind] at h
    cases h
  | true =>
    rw [hkind] at h
    simp only at h
    cases hsettings : Git.Settings.ofVcs settings with
    | error e =>
      rw [hsettings] at h
      cases h
    | ok s =>
      rw [hsettings] at h
      cases h
      exact ⟨s, rfl⟩

namespace Coordinator

variable {D : Type} {c : Coordinator D} {config : Config} {name : String}

theorem find_eq_ok_iff {target : SyncTarget D} : c.find name = .ok target ↔ c.targets.get? name = some target := by
  unfold find
  cases c.targets.get? name <;> simp

theorem find_eq_error {e : Failure} (h : c.find name = .error e) :
    e = .repositoryNotFound name ∧ c.contains name = false := by
  unfold find at h
  cases hget : c.targets.get? name with
  | none =>
    rw [hget] at h
    cases h
    exact ⟨rfl, by simp [contains, NameMap.contains, hget]⟩
  | some target =>
    rw [hget] at h
    cases h

theorem contains_of_find {target : SyncTarget D} (h : c.find name = .ok target) : c.contains name = true := by
  rw [contains, NameMap.contains, find_eq_ok_iff.1 h]
  rfl

theorem exists_find (h : c.contains name = true) : ∃ target, c.find name = .ok target := by
  obtain ⟨target, htarget⟩ := NameMap.contains_iff.1 h
  exact ⟨target, find_eq_ok_iff.2 htarget⟩

theorem permits_pos (config : Config) : 0 < (ofConfig config).permits :=
  Nat.lt_of_lt_of_le Nat.zero_lt_one (Nat.le_max_right ..)

variable {target : SyncTarget VcsDriver}

/-- Every configured repository is synchronized by git in its working directory. -/
theorem git_of_find (h : (ofConfig config).find name = .ok target) :
    config.repos.contains name = true ∧ target.workingDir = config.workingDir name ∧
      ∃ settings, target.driver = Git.driver settings Git.remoteHead := by
  rw [find_eq_ok_iff, ofConfig, NameMap.get?_filterMap, Option.bind_eq_some_iff] at h
  obtain ⟨repo, hrepo, htarget⟩ := h
  unfold target? at htarget
  split at htarget
  · cases htarget
  · rename_i driver hdriver
    cases htarget
    exact ⟨NameMap.contains_iff.2 ⟨repo, hrepo⟩, rfl, VcsDriver.git_of_ofKind hdriver⟩

theorem within_syncTarget (h : (ofConfig config).find name = .ok target) : (syncTarget target).Within 8 := by
  obtain ⟨-, -, settings, hdriver⟩ := git_of_find h
  refine .test (n := 7) fun found => ?_
  rw [hdriver]
  split
  · exact Git.within_pull.mono (by decide)
  · exact Git.within_clone

end Coordinator

end CodeSearch
