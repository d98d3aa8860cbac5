import CodeSearch.Proofs.Search.Findings

/-!
# What is searched and what is excluded

Every file that a walk comes to is either reported as excluded, with the first reason that there is, or
reported by a search that asks for any line. What the walk does not come to is reported by neither.
-/

namespace CodeSearch.WorkingCopy

open Files

variable {w : WorkingCopy} {f : Walked} {t : Tree} {disk : Disk} {path : List Name} {content : Bytes}
  {query reason filename : String} {options : SearchOptions} {m : Matcher} {response : SearchResponse}
  {e : ExcludedFile}

/-! ## The excluded files -/

theorem mem_excludedTree_iff : e ∈ w.excludedTree t ↔
    ∃ f ∈ walkTree w.rules true t, ∃ why, w.exclusion f = some why ∧ e = ⟨f.path, why.reason⟩ := by
  simp only [excludedTree, List.mem_filterMap, Option.map_eq_some_iff]
  simp only [eq_comm]

theorem map_filename_excludedTree : (w.excludedTree t).map (·.filename) =
    ((walkTree w.rules true t).filter fun f => (w.exclusion f).isSome).map (·.path) := by
  rw [excludedTree]
  induction walkTree w.rules true t with
  | nil => rfl
  | cons f files ih =>
    cases h : w.exclusion f with
    | none => simpa [h] using ih
    | some why => simpa [h] using ih

theorem mem_filenames_excludedTree_iff : filename ∈ (w.excludedTree t).map (·.filename) ↔
    ∃ f ∈ walkTree w.rules true t, w.exclusion f ≠ none ∧ f.path = filename := by
  rw [map_filename_excludedTree]
  simp [Option.isSome_iff_ne_none, and_assoc]

theorem excludedFiles_eq (there : w.tree? disk = .ok t) :
    w.excludedFiles disk = .ok (w.excludedTree t) := by
  simp [excludedFiles, there, bind, Except.bind, pure, Except.pure]

/-! ## The files that some search reports -/

theorem filenames_sublist : ((w.searchTree m options t).matched.map (·.filename)).Sublist
    ((w.reported m options t).map (·.path)) := by
  rw [searchTree_eq, reported, ← map_filename_filterMap]
  exact page_sublist.map _

theorem exists_of_search (there : w.tree? disk = .ok t) (h : w.search disk query options = .ok response) :
    ∃ m, Matcher.Compiled query options m ∧ response = w.searchTree m options t := by
  cases compiled : Matcher.compile query options with
  | error e => simp [search, compiled, bind, Except.bind] at h
  | ok m =>
    rw [search_eq compiled there] at h
    cases h
    exact ⟨m, Matcher.compile_eq_ok_iff.1 compiled, rfl⟩

theorem exists_of_mem_filenames (compiled : Matcher.Compiled query options m)
    (h : filename ∈ (w.searchTree m options t).matched.map (·.filename)) :
    ∃ f ∈ walkTree w.rules true t, w.exclusion f = none ∧ f.path = filename := by
  obtain ⟨f, hf, rfl⟩ := List.mem_map.1 (filenames_sublist.mem h)
  obtain ⟨hwalked, hincluded, -⟩ := (mem_reported_iff compiled).1 hf
  exact ⟨f, hwalked, hincluded, rfl⟩

def anyLine : Matcher := ⟨.look .textStart, none, none⟩

theorem isMatch_textStart (line : List Char) : Pattern.isMatch (.look .textStart) line = true := by
  cases line <;> rfl

theorem compile_anyLine : Matcher.compile "^" .default = .ok anyLine := rfl

theorem mem_matched_anyLine (proper : t.Proper) (isDir : t.isDir = true)
    (walked : f ∈ walkTree w.rules true t) (included : w.exclusion f = none)
    (lines : Text.lineChars (Utf8.lossyChars f.content) ≠ []) :
    f.path ∈ (w.searchTree anyLine .default t).matched.map (·.filename) := by
  have compiled := Matcher.compile_eq_ok_iff.1 compile_anyLine
  obtain ⟨line, hline⟩ := List.exists_mem_of_ne_nil _ lines
  have hreported : f ∈ w.reported anyLine .default t :=
    (mem_reported_iff compiled).2 ⟨walked, included, ⟨absurd rfl, absurd rfl⟩, line, hline,
      compiled.lineMatches_iff.2 (isMatch_textStart line)⟩
  rw [(lists_searchTree compiled proper isDir rfl rfl).filenames, ← map_path_reported proper isDir]
  exact List.mem_map_of_mem hreported

/-! ## Both reports -/

/-- Why a file is left out. A later reason counts only where there is no earlier one. -/
inductive LeftOut (w : WorkingCopy) (path : List Name) (content : Bytes) : String → Prop where
  | dotFile (dotted : w.Dotted path) : LeftOut w path content "Dot files are excluded"
  | tooLarge (not_dotted : ¬ w.Dotted path) (large : w.maxFileSize < content.length) :
      LeftOut w path content "File size exceeds maximum"
  | binary (not_dotted : ¬ w.Dotted path) (small : content.length ≤ w.maxFileSize)
      (binary : 0 ∈ content.take 8000) : LeftOut w path content "Binary file"

/-- Places in version control metadata or below a directory that is left out for its name. -/
def Pruned (w : WorkingCopy) (path : List Name) : Prop :=
  (∃ name ∈ path.head?, Utf8.decodeLossy name ∈ w.special) ∨
    w.excludeDotFiles = true ∧ ∃ name ∈ path.dropLast, beginsWithDot (Utf8.decodeLossy name) = true

/-- How the excluded files of a tree relate to the answers of all searches in it. -/
structure Complements (w : WorkingCopy) (disk : Disk) (t : Tree) (excluded : List ExcludedFile) : Prop where
  disjoint : ∀ query options response, w.search disk query options = .ok response →
    ∀ e ∈ excluded, e.filename ∉ response.matched.map (·.filename)
  mem_iff_never_matched : ∀ path content mode, t.at? path = some (.file content mode) → w.Reached path →
    Text.lineChars (Utf8.lossyChars content) ≠ [] →
    (slashJoined path ∈ excluded.map (·.filename) ↔
      ∀ query options response, w.search disk query options = .ok response →
        slashJoined path ∉ response.matched.map (·.filename))
  nodup : (excluded.map (·.filename)).Nodup
  nodup_matched : ∀ query options response, w.search disk query options = .ok response →
    (response.matched.map (·.filename)).Nodup
  mem_iff : ∀ e, e ∈ excluded ↔ ∃ path content mode, t.at? path = some (.file content mode) ∧
    w.Reached path ∧ e.filename = slashJoined path ∧ w.LeftOut path content e.reason
  pruned : ∀ path, (t.at? path).isSome = true → w.Pruned path →
    slashJoined path ∉ excluded.map (·.filename) ∧
      ∀ query options response, w.search disk query options = .ok response →
        slashJoined path ∉ response.matched.map (·.filename)

theorem exclusion_eq_some_iff (spelled : Spelled path f.names) :
    (∃ why, w.exclusion f = some why ∧ reason = why.reason) ↔ w.LeftOut path f.content reason := by
  classical
  rw [exclusion_eq spelled]
  constructor
  · rintro ⟨why, h, rfl⟩
    split_ifs at h with dotted large binary <;> cases h
    · exact .dotFile dotted
    · exact .tooLarge dotted large
    · exact .binary dotted (Nat.not_lt.1 large) binary
  · rintro (dotted | ⟨not_dotted, large⟩ | ⟨not_dotted, small, binary⟩)
    · exact ⟨.dotFile, by rw [if_pos dotted], rfl⟩
    · exact ⟨.tooLarge, by rw [if_neg not_dotted, if_pos large], rfl⟩
    · exact ⟨.binary, by rw [if_neg not_dotted, if_neg (Nat.not_lt.2 small), if_pos binary], rfl⟩

theorem exists_walked (proper : t.Proper) (isDir : t.isDir = true) {mode : Nat}
    (file : t.at? path = some (.file content mode)) (reached : w.Reached path) :
    ∃ f ∈ walkTree w.rules true t, Spelled path f.names ∧ f.content = content := by
  have hspelled : Spelled path (path.map Utf8.decodeLossy) := spelled_iff.2 ⟨reached.text_names, rfl⟩
  exact ⟨⟨_, content⟩, (mem_walkTree proper isDir).2 ⟨path, mode, file, hspelled,
    (reached_iff hspelled).1 reached⟩, hspelled, rfl⟩

theorem mem_excludedTree_iff_leftOut (proper : t.Proper) (isDir : t.isDir = true) :
    e ∈ w.excludedTree t ↔ ∃ path content mode, t.at? path = some (.file content mode) ∧
      w.Reached path ∧ e.filename = slashJoined path ∧ w.LeftOut path content e.reason := by
  rw [mem_excludedTree_iff]
  constructor
  · rintro ⟨f, hwalked, why, hwhy, rfl⟩
    obtain ⟨mode, hfile, hspelled, hallows⟩ := exists_spelled proper isDir hwalked
    exact ⟨f.key, f.content, mode, hfile, (reached_iff hspelled).2 hallows, hspelled.path_eq,
      (exclusion_eq_some_iff hspelled).1 ⟨why, hwhy, rfl⟩⟩
  · rintro ⟨path, content, mode, hfile, hreached, hfilename, hleft⟩
    obtain ⟨f, hwalked, hspelled, rfl⟩ := exists_walked proper isDir hfile hreached
    obtain ⟨why, hwhy, hreason⟩ := (exclusion_eq_some_iff hspelled).2 hleft
    refine ⟨f, hwalked, why, hwhy, ?_⟩
    cases e
    simp_all [hspelled.path_eq]

/-- A place that is left out has the name of no file that the walk comes to. -/
theorem path_ne_of_pruned (proper : t.Proper) (isDir : t.isDir = true) (there : (t.at? path).isSome = true)
    (pruned : w.Pruned path) (walked : f ∈ walkTree w.rules true t) : f.path ≠ slashJoined path := by
  intro hsame
  obtain ⟨s, hs⟩ := Option.isSome_iff_exists.1 there
  obtain ⟨mode, hfile, hspelled, hallows⟩ := exists_spelled proper isDir walked
  have hne : path ≠ [] := by
    rintro rfl
    simp [Pruned] at pruned
  rw [hspelled.path_eq] at hsame
  have htexts := texts_eq_of_slashJoined_eq (key_ne_nil walked) hne (proper.slash_notMem hfile)
    (proper.slash_notMem hs) hsame
  obtain ⟨-, hspecial, hdirs⟩ := (reached_iff hspelled).2 hallows
  rcases pruned with ⟨name, hname, hmem⟩ | ⟨hdots, name, hname, hdot⟩
  · have hhead : some (Utf8.decodeLossy name) = (f.key.map Utf8.decodeLossy).head? := by
      rw [htexts, List.head?_map, Option.mem_def.1 hname]
      rfl
    rw [List.head?_map, eq_comm, Option.map_eq_some_iff] at hhead
    obtain ⟨other, hother, htext⟩ := hhead
    exact hspecial other hother (htext ▸ hmem)
  · have hmem : Utf8.decodeLossy name ∈ (f.key.map Utf8.decodeLossy).dropLast := by
      rw [htexts, ← List.map_dropLast]
      exact List.mem_map_of_mem hname
    rw [← List.map_dropLast] at hmem
    obtain ⟨other, hother, htext⟩ := List.mem_map.1 hmem
    rw [← htext, hdirs hdots other hother] at hdot
    cases hdot

theorem notMem_matched_of_mem_excludedTree (proper : t.Proper) (isDir : t.isDir = true)
    (compiled : Matcher.Compiled query options m) (h : filename ∈ (w.excludedTree t).map (·.filename)) :
    filename ∉ (w.searchTree m options t).matched.map (·.filename) := by
  intro hmatched
  obtain ⟨f, hwalked, hexcluded, rfl⟩ := mem_filenames_excludedTree_iff.1 h
  obtain ⟨f', hwalked', hincluded, hsame⟩ := exists_of_mem_filenames compiled hmatched
  rw [← eq_of_path_eq proper isDir hwalked' hwalked hsame] at hexcluded
  exact hexcluded hincluded

/-- The report of excluded files and the searches together tell of every file that the walk comes to, and
of each in one way only. -/
theorem complements_of_excludedFiles (w : WorkingCopy) (disk : Disk) (t : Tree)
    (there : w.tree? disk = .ok t) (proper : t.Proper) :
    ∃ excluded, w.excludedFiles disk = .ok excluded ∧ w.Complements disk t excluded := by
  have isDir := isDir_of_tree? there
  have disjoint : ∀ query options response, w.search disk query options = .ok response →
      ∀ filename ∈ (w.excludedTree t).map (·.filename),
        filename ∉ response.matched.map (·.filename) := by
    intro query options response hsearch filename hexcluded
    obtain ⟨m, compiled, rfl⟩ := exists_of_search there hsearch
    exact notMem_matched_of_mem_excludedTree proper isDir compiled hexcluded
  refine ⟨_, excludedFiles_eq there, ⟨?_, ?_, ?_, ?_, ?_, ?_⟩⟩
  · intro query options response hsearch e he
    exact disjoint query options response hsearch _ (List.mem_map_of_mem he)
  · intro path content mode hfile hreached hlines
    refine ⟨fun hexcluded query options response hsearch =>
      disjoint query options response hsearch _ hexcluded, fun hnever => ?_⟩
    obtain ⟨f, hwalked, hspelled, rfl⟩ := exists_walked proper isDir hfile hreached
    by_contra hexcluded
    have hincluded : w.exclusion f = none := by
      by_contra h
      exact hexcluded (mem_filenames_excludedTree_iff.2 ⟨f, hwalked, h, hspelled.path_eq⟩)
    refine hnever _ _ _ (search_eq compile_anyLine there) ?_
    exact hspelled.path_eq ▸ mem_matched_anyLine proper isDir hwalked hincluded hlines
  · rw [map_filename_excludedTree]
    exact nodup_map_path proper isDir List.filter_sublist
  · intro query options response hsearch
    obtain ⟨m, compiled, rfl⟩ := exists_of_search there hsearch
    exact (nodup_map_path proper isDir reported_sublist).sublist filenames_sublist
  · exact fun e => mem_excludedTree_iff_leftOut proper isDir
  · intro path hplace hpruned
    refine ⟨fun hexcluded => ?_, fun query options response hsearch hmatched => ?_⟩
    · obtain ⟨f, hwalked, -, hsame⟩ := mem_filenames_excludedTree_iff.1 hexcluded
      exact path_ne_of_pruned proper isDir hplace hpruned hwalked hsame
    · obtain ⟨m, compiled, rfl⟩ := exists_of_search there hsearch
      obtain ⟨f, hwalked, -, hsame⟩ := exists_of_mem_filenames compiled hmatched
      exact path_ne_of_pruned proper isDir hplace hpruned hwalked hsame

theorem complements_someEntries : ∃ excluded, someCopy.excludedFiles someDisk = .ok excluded ∧
    someCopy.Complements someDisk (.dir someEntries) excluded :=
  complements_of_excludedFiles someCopy someDisk (.dir someEntries) tree?_someCopy proper_someEntries

end CodeSearch.WorkingCopy
