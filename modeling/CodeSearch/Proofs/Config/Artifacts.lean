import CodeSearch.Proofs.Sync.Places

/-!
# What repositories keep on disk

Every repository has a working copy and may have a file with its credentials. The directory of the service
holds both; under a configuration that passes its checks no two of them have one path, whatever the
repositories are called.
-/

namespace CodeSearch

namespace Path

variable {cs : List Char} {segs others : List (List Char)} {base n : String}

/-- A path as it is compared with others: where it begins, and the segments that count. -/
def components (path : String) : List Char × List (List Char) := ((front path.toList).1, named path.toList)

theorem intercalate_append_cons {other : List Char} (nonempty : segs ≠ []) :
    List.intercalate ['/'] (segs ++ other :: others) =
      List.intercalate ['/'] segs ++ '/' :: List.intercalate ['/'] (other :: others) := by
  induction segs with
  | nil => exact absurd rfl nonempty
  | cons first more ih =>
    cases more with
    | nil => simp
    | cons second more =>
      have hmore := ih (List.cons_ne_nil second more)
      rw [List.cons_append] at hmore
      simp [hmore]

/-- The first segments of a path, joined, are the path up to a slash or its end. -/
theorem exists_of_segments (h : segments cs = segs ++ others) (nonempty : segs ≠ []) :
    ∃ rest, cs = List.intercalate ['/'] segs ++ rest ∧ (rest = [] ∨ rest.head? = some '/') := by
  have hcs := intercalate_segments cs
  rw [h] at hcs
  cases others with
  | nil => exact ⟨[], by simpa using hcs.symm, .inl rfl⟩
  | cons other others =>
    rw [intercalate_append_cons nonempty] at hcs
    exact ⟨_, hcs.symm, .inr rfl⟩

/-- The first segments of a path begin where the path does. -/
theorem front_ofSegments (above : segs <+: segments (front cs).2) :
    (front (ofSegments (front cs).1 segs).toList).1 = (front cs).1 := by
  rw [toList_ofSegments]
  rcases front_cases cs with ⟨rest, rfl, h⟩ | ⟨rfl, h⟩ | ⟨rest, rfl, h⟩ | ⟨h, -⟩ <;> rw [h] at above ⊢
  · rfl
  · rcases List.prefix_cons_iff.1 (show segs <+: [[]] from above) with rfl | ⟨more, rfl, hmore⟩
    · rfl
    · rw [List.prefix_nil.1 hmore]
      rfl
  · rcases List.prefix_cons_iff.1 (segments_slash rest ▸ above) with rfl | ⟨more, rfl, -⟩
    · rfl
    · cases more <;> rfl
  · by_cases hsegs : segs = []
    · rw [hsegs]
      rfl
    obtain ⟨others, hothers⟩ := above
    obtain ⟨rest, hcs, hrest⟩ := exists_of_segments hothers.symm hsegs
    rw [List.nil_append]
    by_cases hnone : List.intercalate ['/'] segs = []
    · rw [hnone]
      rfl
    rcases hrest with rfl | hslash
    · rw [List.append_nil] at hcs
      rw [← hcs, h]
    · have hfront := front_append hnone fun _ => hslash
      rw [← hcs, h] at hfront
      exact (congrArg Prod.fst hfront).symm

/-- What is idle at the end of a path does not count. -/
theorem components_tidy (base : String) : components (tidy base) = components base := by
  have above : body (front base.toList).2 <+: segments (front base.toList).2 := isPrefix_dropIdleEnd _
  have hnamed : named (tidy base).toList = named base.toList := by
    have hfront : named (front base.toList).2 = named base.toList := named_front
    rw [tidy, named_ofSegments above, body, filter_dropIdleEnd, ← hfront]
    rfl
  rw [components, components, hnamed, tidy, front_ofSegments above]

theorem components_join (base : String) (entry : Entry n) :
    components (join base n) = ((components base).1, (components base).2 ++ [n.toList]) := by
  rw [components, (front_join base entry).1, named_join entry]
  rfl

/-- An entry of a directory whose name has nothing in it but letters and digits of ASCII and the characters
`-`, `_` and `.`, and that is neither the directory itself nor the one above. -/
structure PlainEntry (path base : String) : Prop where
  name : ∃ n, fileName? path = some n ∧ n ≠ "." ∧ n ≠ ".." ∧
    ∀ c ∈ n.toList, c.isAlphanum = true ∨ c = '-' ∨ c = '_' ∨ c = '.'
  parent : ∃ above, parent? path = some above ∧ components above = components base

end Path

open CodeSearch.Path (Entry PlainEntry components join tidy)

inductive Artifact
  | workingCopy
  | credentials
  deriving DecidableEq

namespace Artifact

def entryName (name : String) : Artifact → String
  | .workingCopy => Config.workingName name
  | .credentials => Config.secretName name

def path (config : Config) (name : String) : Artifact → Except Failure String
  | .workingCopy => .ok (config.workingDir name)
  | .credentials => Git.credentialFile (config.workingDir name)

variable {config : Config} {name a b : String} {artifact other : Artifact} {p q : String}

theorem entry_entryName (name : String) (artifact : Artifact) : Entry (artifact.entryName name) := by
  cases artifact with
  | workingCopy => exact Config.entry_workingName name
  | credentials => exact Config.entry_secretName name

theorem plain_of_mem_entryName {c : Char} (h : c ∈ (artifact.entryName name).toList) :
    isPlainNameChar c = true := by
  have hplain : ∀ c ∈ (Config.workingName name).toList, isPlainNameChar c = true := by
    intro c hc
    rw [Config.workingName, String.toList_append, List.mem_append] at hc
    rcases hc with hc | hc
    · exact List.all_eq_true.1 (by decide) c hc
    · rw [plainName, String.toList_ofList] at hc
      obtain ⟨d, -, rfl⟩ := List.mem_map.1 hc
      split
      · assumption
      · decide
  cases artifact with
  | workingCopy => exact hplain c h
  | credentials =>
    rw [entryName, Config.secretName, String.toList_append, String.toList_append, List.mem_append,
      List.mem_append] at h
    rcases h with (h | h) | h
    · exact List.all_eq_true.1 (by decide) c h
    · exact hplain c h
    · exact List.all_eq_true.1 (by decide) c h

/-- The working copy is found by the path as it is configured, its credentials by the path of the
directory above it. -/
theorem exists_path (config : Config) (name : String) (artifact : Artifact) :
    ∃ base, artifact.path config name = .ok (join base (artifact.entryName name)) ∧
      components base = components config.dbpath := by
  cases artifact with
  | workingCopy => exact ⟨config.dbpath, rfl, rfl⟩
  | credentials =>
    refine ⟨tidy config.dbpath, ?_, Path.components_tidy config.dbpath⟩
    rw [path, Git.credentialFile, Config.workingDir, splitDir_join _ (Config.entry_workingName name)]
    rfl

theorem plainEntry (h : artifact.path config name = .ok p) : PlainEntry p config.dbpath := by
  obtain ⟨base, hpath, hbase⟩ := exists_path config name artifact
  have hentry := entry_entryName name artifact
  obtain rfl : p = _ := Except.ok.inj (h.symm.trans hpath)
  refine ⟨⟨_, Path.fileName?_join hentry, ?_, hentry.not_up, fun c hc => ?_⟩, tidy base, Path.parent?_join hentry, ?_⟩
  · intro hdot
    have hidle := hentry.not_idle
    rw [hdot] at hidle
    cases hidle
  · have hplain := plain_of_mem_entryName hc
    simpa [isPlainNameChar, or_assoc] using hplain
  · rw [Path.components_tidy, hbase]

theorem entryName_eq_of_components (hp : artifact.path config a = .ok p) (hq : other.path config b = .ok q)
    (h : components p = components q) : artifact.entryName a = other.entryName b := by
  obtain ⟨base, hpath, -⟩ := exists_path config a artifact
  obtain ⟨base', hpath', -⟩ := exists_path config b other
  obtain rfl : p = _ := Except.ok.inj (hp.symm.trans hpath)
  obtain rfl : q = _ := Except.ok.inj (hq.symm.trans hpath')
  rw [Path.components_join _ (entry_entryName a artifact), Path.components_join _ (entry_entryName b other)] at h
  have hlast := congrArg (fun parts => parts.2.getLast?) h
  simpa [String.toList_inj] using hlast

/-- The name of an artifact tells which one it is, and the plain name of its repository. -/
theorem entryName_inj (h : artifact.entryName a = other.entryName b) :
    plainName a = plainName b ∧ artifact = other := by
  cases artifact <;> cases other
  · exact ⟨String.append_right_inj "vcs-" |>.1 h, rfl⟩
  · exact absurd h Config.workingName_ne_secretName
  · exact absurd h.symm Config.workingName_ne_secretName
  · exact ⟨Config.secretName_inj h, rfl⟩

end Artifact

namespace Config

/-- Everything that repositories have on disk is in the directory of the service, each artifact under a path
of its own. -/
structure KeepsApart (config : Config) : Prop where
  placed : ∀ name, config.repos.contains name = true → ∀ artifact : Artifact,
    ∃ path, artifact.path config name = .ok path ∧ PlainEntry path config.dbpath
  apart : ∀ a b, config.repos.contains a = true → config.repos.contains b = true →
    ∀ (artifact other : Artifact) (p q : String), artifact.path config a = .ok p → other.path config b = .ok q →
      components p = components q → a = b ∧ artifact = other

theorem keepsApart {config : Config} (valid : config.validate = .ok ()) : config.KeepsApart where
  placed name _ artifact := by
    obtain ⟨base, hpath, -⟩ := artifact.exists_path config name
    exact ⟨_, hpath, Artifact.plainEntry hpath⟩
  apart a b ha hb artifact other p q hp hq h := by
    have hname := Artifact.entryName_eq_of_components hp hq h
    obtain ⟨hplain, hkind⟩ := Artifact.entryName_inj hname
    exact ⟨name_eq_of_plainName_eq valid ha hb hplain, hkind⟩

def oddNames : Config :=
  { Config.default with
    dbpath := "/srv/./db/"
    repos := .ofList [("..", .ofUrl "https://x/a"), ("../../etc/passwd", .ofUrl "https://x/b"),
      (".vcs-..-credentials", .ofUrl "https://x/c"), ("größe 1", .ofUrl "https://x/d"), ("", .ofUrl "https://x/e")] }

theorem keepsApart_oddNames : oddNames.validate = .ok () ∧ oddNames.KeepsApart :=
  have valid : oddNames.validate = .ok () := by decide +kernel
  ⟨valid, keepsApart valid⟩

end Config

end CodeSearch
