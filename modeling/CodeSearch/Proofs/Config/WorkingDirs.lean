import CodeSearch.Config.Finalize

/-!
# Working directories

A configuration that passes its checks gives each of its repositories a working directory of its own.
-/

namespace CodeSearch

namespace Path

theorem join_cancel {base a b : String} (ha : isAbsolute a = false) (hb : isAbsolute b = false)
    (h : join base a = join base b) : a = b := by
  unfold join at h
  rw [ha, hb] at h
  split at h
  · exact h
  · split at h
    · exact String.append_right_inj base |>.1 h
    · exact String.append_right_inj (base ++ "/") |>.1 h

end Path

namespace Config

theorem workingName_relative (name : String) : Path.isAbsolute (workingName name) = false := by
  simp [Path.isAbsolute, workingName]

theorem plainName_eq_of_workingDir_eq {config : Config} {a b : String}
    (h : config.workingDir a = config.workingDir b) : plainName a = plainName b :=
  String.append_right_inj "vcs-" |>.1
    (Path.join_cancel (workingName_relative a) (workingName_relative b) h)

/-- Repositories that pass have names of directories that are new and differ from each other. -/
theorem validateRepos_ok {dirs : NameMap String} {entries : List (String × RepoConfig)}
    (h : validateRepos dirs entries = .ok ()) :
    (∀ e ∈ entries, dirs.get? (plainName e.1) = none) ∧
      entries.Pairwise fun a b => plainName a.1 ≠ plainName b.1 := by
  induction entries generalizing dirs with
  | nil => simp
  | cons head rest ih =>
    obtain ⟨name, repo⟩ := head
    unfold validateRepos at h
    split at h
    · cases h
    · split at h
      · cases h
      · rename_i hfree
        obtain ⟨hnew, hpairs⟩ := ih h
        have hhead : ∀ e ∈ rest, plainName e.1 ≠ plainName name := by
          intro e he heq
          have := hnew e he
          rw [heq, NameMap.get?_insert_self] at this
          cases this
        refine ⟨?_, List.pairwise_cons.2 ⟨fun e he => (hhead e he).symm, hpairs⟩⟩
        intro e he
        rcases List.mem_cons.1 he with rfl | he
        · exact hfree
        · have := hnew e he
          rwa [NameMap.get?_insert_of_ne dirs name (hhead e he)] at this

theorem validateRepos_of_validate {config : Config} (valid : config.validate = .ok ()) :
    validateRepos ∅ config.repos.toList = .ok () := by
  unfold validate at valid
  repeat' split at valid
  all_goals first | exact valid | cases valid

theorem name_eq_of_plainName_eq {config : Config} (valid : config.validate = .ok ()) {a b : String}
    (ha : config.repos.contains a = true) (hb : config.repos.contains b = true)
    (h : plainName a = plainName b) : a = b := by
  obtain ⟨ra, hra⟩ := NameMap.contains_iff.1 ha
  obtain ⟨rb, hrb⟩ := NameMap.contains_iff.1 hb
  rw [NameMap.get?_eq_some_iff] at hra hrb
  have hpairs := (validateRepos_ok (validateRepos_of_validate valid)).2
  have hall := List.Pairwise.forall_of_forall_of_flip
    (R := fun x y : String × RepoConfig => plainName x.1 = plainName y.1 → x.1 = y.1)
    (fun _ _ _ => rfl) (hpairs.imp fun hne heq => absurd heq hne)
    (hpairs.imp fun hne heq => absurd heq.symm hne)
  exact hall hra hrb h

theorem name_eq_of_workingDir_eq {config : Config} (valid : config.validate = .ok ()) {a b : String}
    (ha : config.repos.contains a = true) (hb : config.repos.contains b = true)
    (h : config.workingDir a = config.workingDir b) : a = b :=
  name_eq_of_plainName_eq valid ha hb (plainName_eq_of_workingDir_eq h)

end Config

end CodeSearch
