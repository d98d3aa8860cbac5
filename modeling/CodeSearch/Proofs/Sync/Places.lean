import CodeSearch.Proofs.Config.WorkingDirs
import CodeSearch.Proofs.Files.Entries
import CodeSearch.Proofs.Sync.Apart

/-!
# The places of a repository

Beside each other in one directory every repository has a working copy and a file with its credentials. A
configuration that passes its checks gives no place to two of them, and the actions of a synchronization are
about the two places of its repository and the directory above.
-/

namespace CodeSearch

open Files
open CodeSearch.Path (Entry join tidy)

namespace Site

variable {d d' : Disk} {path : String} {args : List String} {place : List Name}

theorem startPlace_congr (h : Disk.SeenAlike (d.find true (Utf8.encode path)) (d'.find true (Utf8.encode path)))
    (args : List String) :
    startPlace d path args = startPlace d' path args := by
  unfold startPlace
  split
  · rfl
  rcases h.cases with ⟨e, hd, hd'⟩ | ⟨q, hd, hd'⟩ | ⟨q, s, t, hd, hd', hnode⟩
  · rw [hd, hd']
  · rw [hd, hd']
  · rw [hd, hd']
    simp only [Disk.isDir_congr_node hnode]

theorem found_of_startPlace (h : startPlace d path args = .ok place) :
    ∃ t, d.find true (Utf8.encode path) = .ok ⟨place, some t⟩ ∧ t.isDir = true := by
  unfold startPlace at h
  split at h
  · cases h
  split at h
  · cases h
  rename_i found hfind
  split at h
  · cases h
  · rename_i t htree
    split at h <;> cases h
    exact ⟨t, htree ▸ hfind, ‹_›⟩

theorem dir_of_startPlace (h : startPlace d path args = .ok place) : d.root.node? place = some .dir := by
  obtain ⟨t, hfind, hdir⟩ := found_of_startPlace h
  obtain ⟨-, -, hwalk⟩ := Disk.walk_of_find hfind
  exact Tree.node?_of_isDir (at?_of_walk hwalk) hdir

end Site

namespace Config

def secretName (name : String) : String := "." ++ workingName name ++ "-credentials"

def workPlace (place : List Name) (name : String) : List Name := place ++ [Utf8.encode (workingName name)]

def secretPlace (place : List Name) (name : String) : List Name := place ++ [Utf8.encode (secretName name)]

/-- What belongs to a repository among the files in and below a directory. -/
def Owned (place : List Name) (name : String) (q : List Name) : Prop :=
  workPlace place name <+: q ∨ secretPlace place name <+: q

variable {config : Config} {place q : List Name} {a b name : String}

theorem ne_slash_of_mem_plainName {c : Char} (h : c ∈ (plainName name).toList) : c ≠ '/' := by
  rw [plainName, String.toList_ofList, List.mem_map] at h
  obtain ⟨d, -, rfl⟩ := h
  split
  · rename_i hplain
    rintro rfl
    revert hplain
    decide
  · decide

theorem entry_workingName (name : String) : Entry (workingName name) where
  no_slash h := by
    rw [workingName, String.toList_append, List.mem_append] at h
    rcases h with h | h
    · revert h
      decide
    · exact ne_slash_of_mem_plainName h rfl
  not_idle := by simp [workingName, Path.isIdle]
  not_up h := by
    have := congrArg String.toList h
    simp [workingName] at this

theorem entry_secretName (name : String) : Entry (secretName name) where
  no_slash h := by
    rw [secretName, String.toList_append, String.toList_append, List.mem_append, List.mem_append] at h
    rcases h with (h | h) | h
    · revert h
      decide
    · exact (entry_workingName name).no_slash h
    · revert h
      decide
  not_idle := by simp [secretName, workingName, Path.isIdle]
  not_up h := by
    have := congrArg String.toList h
    simp [secretName, workingName] at this

theorem workingName_ne_secretName : workingName a ≠ secretName b := by
  intro h
  have := congrArg String.toList h
  simp [workingName, secretName] at this

theorem secretName_inj (h : secretName a = secretName b) : plainName a = plainName b := by
  have := congrArg String.toList h
  simpa [workingName, secretName, String.toList_inj] using this

theorem prefix_inj {m n : Name} (hm : place ++ [m] <+: q) (hn : place ++ [n] <+: q) : m = n := by
  have h := (List.prefix_of_prefix_length_le hm hn (by simp)).eq_of_length (by simp)
  simpa using h

/-- What belongs to a repository belongs to no other. -/
theorem name_eq_of_owned (valid : config.validate = .ok ()) (ha : config.repos.contains a = true)
    (hb : config.repos.contains b = true) (h : Owned place a q) (h' : Owned place b q) : a = b := by
  refine name_eq_of_plainName_eq valid ha hb ?_
  rcases h with h | h
  · rcases h' with h' | h'
    · exact String.append_right_inj "vcs-" |>.1 (Utf8.encode_inj.1 (prefix_inj h h'))
    · exact absurd (Utf8.encode_inj.1 (prefix_inj h h')) workingName_ne_secretName
  · rcases h' with h' | h'
    · exact absurd (Utf8.encode_inj.1 (prefix_inj h' h)) workingName_ne_secretName
    · exact secretName_inj (Utf8.encode_inj.1 (prefix_inj h h'))

theorem not_owned_self (place : List Name) (name : String) : ¬Owned place name place := by
  rintro (h | h) <;> exact absurd h.length_le (by simp [workPlace, secretPlace])

theorem below_of_owned (h : Owned place name q) : Below place q := by
  refine ⟨?_, fun heq => not_owned_self place name (heq ▸ h)⟩
  rcases h with h | h <;> exact (List.prefix_append ..).trans h

end Config

/-! ## What a synchronization does -/

open Config

/-- The actions that a synchronization of a repository makes, with the directory of all working copies as
it is configured. -/
inductive Owns (base name : String) : Action → Prop
  | run (label : String) (args : List String) (other : args.head? ≠ some "clone") :
      Owns base name (.call label (join base (workingName name)) args)
  | clone (label url : String) (more : List String) :
      Owns base name (.call label (tidy base) (["clone", "--depth", "1", url, workingName name] ++ more))
  | make : Owns base name (.makeDirs (tidy base))
  | keep (text : Except Failure String) : Owns base name (.keepSecret (join (tidy base) (secretName name)) text)

abbrev Script.OwnedBy (script : Sync.SyncScript) (base name : String) : Prop :=
  script.Uses (· = join base (workingName name)) (Owns base name)

/-- A synchronization that has not made the directory of all working copies. When that fails it ends. -/
inductive Begins (base name : String) : Sync.SyncScript → Prop
  | make {next : Except Failure String → Sync.SyncScript} (refused : ∀ e, next (.error e) = .done (.error e))
      (made : ∀ path, (next (.ok path)).OwnedBy base name) : Begins base name (.act (.makeDirs (tidy base)) next)
  | look {next : Bool → Sync.SyncScript} (there : (next true).OwnedBy base name)
      (missing : Begins base name (next false)) : Begins base name (.test (join base (workingName name)) next)

variable {base name : String} {script : Sync.SyncScript} {config : Config}

theorem Begins.ownedBy (h : Begins base name script) : script.OwnedBy base name := by
  induction h with
  | @make next refused made =>
    refine .act .make fun answer => ?_
    cases answer with
    | error e => exact refused e ▸ .done _
    | ok path => exact made path
  | look there _ ih =>
    refine .test rfl fun found => ?_
    cases found with
    | true => exact there
    | false => exact ih

theorem splitDir_join (base : String) {n : String} (entry : Entry n) :
    Git.splitDir (join base n) = .ok (tidy base, n) := by
  rw [Git.splitDir, Path.fileName?_join entry, Path.parent?_join entry]
  rfl

theorem begins_clone (settings : Git.Settings) (base name url : String) :
    Begins base name (Git.clone settings Git.remoteHead (join base (workingName name)) url) := by
  have hsplit := splitDir_join base (entry_workingName name)
  have huses : (Git.clone settings Git.remoteHead (join base (workingName name)) url).OwnedBy base name :=
    Git.uses_clone hsplit (fun label args => .run label args) .make .keep fun label more => .clone label url more
  obtain ⟨next, hnext, hrefused⟩ : ∃ next,
      Git.clone settings Git.remoteHead (join base (workingName name)) url = .act (.makeDirs (tidy base)) next ∧
        ∀ e, next (.error e) = .done (.error e) := by
    unfold Git.clone
    rw [hsplit]
    exact ⟨_, rfl, fun _ => rfl⟩
  rw [hnext] at huses ⊢
  cases huses with
  | act _ rest => exact .make hrefused fun path => rest (.ok path)

/-- Every configured repository is synchronized in its own places. -/
theorem begins_sync (h : (Coordinator.ofConfig config).contains name = true) :
    config.repos.contains name = true ∧ Begins config.dbpath name ((Coordinator.ofConfig config).sync name) := by
  obtain ⟨target, htarget⟩ := Coordinator.exists_find h
  obtain ⟨hcontains, hdir, settings, hdriver⟩ := Coordinator.git_of_find htarget
  refine ⟨hcontains, ?_⟩
  rw [Coordinator.sync, htarget]
  change Begins config.dbpath name (Coordinator.syncTarget target)
  unfold Coordinator.syncTarget
  have hclone : target.driver.clone = Git.clone settings Git.remoteHead := by rw [hdriver]; rfl
  have hpull : target.driver.pull = Git.pull settings Git.remoteHead := by rw [hdriver]; rfl
  rw [hclone, hpull, hdir, workingDir]
  refine .look ?_ ?_
  · rw [if_pos rfl]
    exact Git.uses_pull fun label args => .run label args
  · rw [if_neg Bool.false_ne_true]
    exact begins_clone settings config.dbpath name target.url

end CodeSearch
