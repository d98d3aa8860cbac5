import CodeSearch.Proofs.Files.Paths
import CodeSearch.Proofs.Search.Tally
import CodeSearch.Proofs.Search.Walk

/-!
# What a search of a working copy lists

A search that asks for all matching files lists exactly the regular files that stand in the tree under names
of text, are not left out, suit the path filters and hold a line that matches. It lists each of them once, in
the order of the paths name by name.
-/

namespace CodeSearch

open Files

variable {query text path : String} {options : SearchOptions} {m : Matcher}

/-! ## What a query asks for -/

namespace Matcher

def LineMatches (query : String) (options : SearchOptions) (line : List Char) : Prop :=
  ∃ p, Pattern.compile options.ignoreCase (queryText query options) = .ok p ∧ p.isMatch line = true

def PathMatches (text path : String) : Prop :=
  ∃ p, Pattern.compile false text.toList = .ok p ∧ p.isMatch path.toList = true

structure PathWanted (options : SearchOptions) (path : String) : Prop where
  included : options.fileRegexp ≠ "" → PathMatches options.fileRegexp path
  not_excluded : options.excludeFileRegexp ≠ "" → ¬ PathMatches options.excludeFileRegexp path

structure Compiled (query : String) (options : SearchOptions) (m : Matcher) : Prop where
  nonempty : query ≠ ""
  query : Pattern.compile options.ignoreCase (queryText query options) = .ok m.query
  includes : pathFilter options.fileRegexp = .ok m.includes
  excludes : pathFilter options.excludeFileRegexp = .ok m.excludes

theorem compile_eq_ok_iff : compile query options = .ok m ↔ Compiled query options m := by
  constructor
  · intro h
    unfold compile at h
    cases hempty : query.isEmpty with
    | true => simp [hempty, bind, Except.bind, throw, throwThe, MonadExceptOf.throw] at h
    | false =>
      cases hquery : Pattern.compile options.ignoreCase (queryText query options) with
      | error e => simp [hempty, hquery, bind, Except.bind, throw, throwThe, MonadExceptOf.throw] at h
      | ok q =>
        cases hincludes : pathFilter options.fileRegexp with
        | error e => simp [hempty, hquery, hincludes, bind, Except.bind, pure, Except.pure] at h
        | ok includes =>
          cases hexcludes : pathFilter options.excludeFileRegexp with
          | error e => simp [hempty, hquery, hincludes, hexcludes, bind, Except.bind, pure, Except.pure] at h
          | ok excludes =>
            simp only [hempty, hquery, hincludes, hexcludes, bind, Except.bind, pure, Except.pure] at h
            cases h
            exact ⟨by simpa using hempty, hquery, hincludes, hexcludes⟩
  · rintro ⟨hempty, hquery, hincludes, hexcludes⟩
    simp [compile, hempty, hquery, hincludes, hexcludes, bind, Except.bind, pure, Except.pure]

theorem Compiled.lineMatches_iff (compiled : Compiled query options m) {line : List Char} :
    LineMatches query options line ↔ m.query.isMatch line = true := by
  simp [LineMatches, compiled.query]

theorem pathFilter_eq_none_iff : pathFilter text = .ok none ↔ text = "" := by
  unfold pathFilter
  cases hempty : text.isEmpty with
  | true => simpa using hempty
  | false =>
    have hempty : text ≠ "" := by simpa using hempty
    cases Pattern.compile false text.toList <;> simp [hempty]

theorem pathFilter_eq_some_iff {p : Pattern} :
    pathFilter text = .ok (some p) ↔ text ≠ "" ∧ Pattern.compile false text.toList = .ok p := by
  unfold pathFilter
  cases hempty : text.isEmpty with
  | true => simpa using fun h => absurd hempty (by simpa using h)
  | false =>
    have hempty : text ≠ "" := by simpa using hempty
    cases Pattern.compile false text.toList <;> simp [hempty]

theorem all_isMatch_iff {filter : Option Pattern} (h : pathFilter text = .ok filter) :
    filter.all (·.isMatch path.toList) = true ↔ (text ≠ "" → PathMatches text path) := by
  cases filter with
  | none => simp [pathFilter_eq_none_iff.1 h]
  | some p =>
    obtain ⟨hne, hcompile⟩ := pathFilter_eq_some_iff.1 h
    simp [PathMatches, hcompile, hne]

theorem any_isMatch_eq_false_iff {filter : Option Pattern} (h : pathFilter text = .ok filter) :
    filter.any (·.isMatch path.toList) = false ↔ (text ≠ "" → ¬ PathMatches text path) := by
  cases filter with
  | none => simp [pathFilter_eq_none_iff.1 h]
  | some p =>
    obtain ⟨hne, hcompile⟩ := pathFilter_eq_some_iff.1 h
    simp [PathMatches, hcompile, hne]

theorem Compiled.wantsPath_iff (compiled : Compiled query options m) :
    m.wantsPath path = true ↔ PathWanted options path := by
  rw [wantsPath, Bool.and_eq_true, Bool.not_eq_true', all_isMatch_iff compiled.includes,
    any_isMatch_eq_false_iff compiled.excludes]
  exact ⟨fun ⟨included, not_excluded⟩ => ⟨included, not_excluded⟩,
    fun wanted => ⟨wanted.included, wanted.not_excluded⟩⟩

end Matcher

theorem matchLines_ne_nil_iff {isMatch : List Char → Bool} {context : Nat} {content : List Char} :
    matchLines isMatch context content ≠ [] ↔ ∃ line ∈ Text.lineChars content, isMatch line = true := by
  have hmem : ∀ {line}, line ∈ Text.lineChars content ↔ ∃ i, (line, i) ∈ (Text.lineChars content).zipIdx := by
    intro line
    conv_lhs => rw [← List.zipIdx_map_fst 0 (Text.lineChars content), List.mem_map]
    simp only [Prod.exists, exists_and_right, exists_eq_right]
  rw [matchLines, ne_eq, List.filterMap_eq_nil_iff]
  simp [hmem]

namespace WorkingCopy

variable {w : WorkingCopy} {f : Walked} {t s : Tree} {disk : Disk} {path : List Name} {content : Bytes}

theorem isDir_of_tree? (h : w.tree? disk = .ok t) : t.isDir = true := by
  unfold tree? at h
  split at h
  · cases h
    rfl
  · cases h

/-! ## The files that are left out -/

/-- What the path of a file has to be like for a walk to come to the file. -/
structure Reached (w : WorkingCopy) (path : List Name) : Prop where
  text_names : ∀ name ∈ path, (Utf8.decode? name).isSome = true
  not_special : ∀ name ∈ path.head?, Utf8.decodeLossy name ∉ w.special
  no_dot_directory : w.excludeDotFiles = true →
    ∀ name ∈ path.dropLast, beginsWithDot (Utf8.decodeLossy name) = false

/-- What the path and the content of a file have to be like for any search to report it. -/
structure Searchable (w : WorkingCopy) (path : List Name) (content : Bytes) : Prop where
  text_names : ∀ name ∈ path, (Utf8.decode? name).isSome = true
  not_special : ∀ name ∈ path.head?, Utf8.decodeLossy name ∉ w.special
  no_dots : w.excludeDotFiles = true → ∀ name ∈ path, beginsWithDot (Utf8.decodeLossy name) = false
  small : content.length ≤ w.maxFileSize
  not_binary : 0 ∉ content.take 8000

theorem reached_iff {names : List String} (spelled : Spelled path names) :
    w.Reached path ↔ w.rules.Allows true names := by
  obtain ⟨htext, rfl⟩ := spelled_iff.1 spelled
  constructor
  · rintro ⟨-, hspecial, hdirs⟩
    refine ⟨fun _ => by simpa [rules] using hspecial, fun h => ?_⟩
    rw [← List.map_dropLast]
    exact List.forall_mem_map.2 (hdirs h)
  · rintro ⟨hspecial, hdirs⟩
    refine ⟨htext, by simpa [rules] using hspecial rfl, fun h => ?_⟩
    rw [← List.map_dropLast] at hdirs
    exact List.forall_mem_map.1 (hdirs h)

theorem forall_mem_iff_dropLast {α : Type} {p : α → Prop} {l : List α} :
    (∀ a ∈ l, p a) ↔ (∀ a ∈ l.dropLast, p a) ∧ ∀ a ∈ l.getLast?, p a := by
  rcases List.eq_nil_or_concat l with rfl | ⟨l, a, rfl⟩ <;> simp [or_imp, forall_and]

/-- Whether a file is left out for its name. -/
def Dotted (w : WorkingCopy) (path : List Name) : Prop :=
  w.excludeDotFiles = true ∧ ∃ name ∈ path.getLast?, beginsWithDot (Utf8.decodeLossy name) = true

/-- The walk looks at the directories on the way, and the check of a file at its last name. -/
theorem searchable_iff : w.Searchable path content ↔
    w.Reached path ∧ ¬ w.Dotted path ∧ content.length ≤ w.maxFileSize ∧ 0 ∉ content.take 8000 := by
  have hlast : ¬ w.Dotted path ↔ (w.excludeDotFiles = true →
      ∀ name ∈ path.getLast?, beginsWithDot (Utf8.decodeLossy name) = false) := by
    simp [Dotted]
  rw [hlast]
  constructor
  · rintro ⟨htext, hspecial, hdots, hsmall, hbinary⟩
    exact ⟨⟨htext, hspecial, fun h => (forall_mem_iff_dropLast.1 (hdots h)).1⟩,
      fun h => (forall_mem_iff_dropLast.1 (hdots h)).2, hsmall, hbinary⟩
  · rintro ⟨⟨htext, hspecial, hdirs⟩, hlast, hsmall, hbinary⟩
    exact ⟨htext, hspecial, fun h => forall_mem_iff_dropLast.2 ⟨hdirs h, hlast h⟩, hsmall, hbinary⟩

theorem exclusion_eq_none_iff :
    w.exclusion f = none ↔ w.skipReason f = none ∧ isBinary f.content = false := by
  unfold exclusion
  cases w.skipReason f <;> simp

/-- Why a file is left out: the first of its name, its size and its content that is a reason. -/
theorem exclusion_eq (spelled : Spelled path f.names) [Decidable (w.Dotted path)] :
    w.exclusion f =
      if w.Dotted path then some .dotFile
      else if w.maxFileSize < f.content.length then some .tooLarge
      else if 0 ∈ f.content.take 8000 then some .binary
      else none := by
  have hdotted : (w.excludeDotFiles && f.names.getLast?.any beginsWithDot) = true ↔ w.Dotted path := by
    rw [← spelled.texts, List.getLast?_map, Bool.and_eq_true, Dotted]
    cases path.getLast? <;> simp
  have hbinary : isBinary f.content = true ↔ 0 ∈ f.content.take 8000 := by
    simp [isBinary, binarySniff]
  simp only [exclusion, skipReason, hdotted, hbinary]
  split_ifs <;> rfl

theorem allows_and_exclusion_iff (spelled : Spelled path f.names) :
    w.rules.Allows true f.names ∧ w.exclusion f = none ↔ w.Searchable path f.content := by
  classical
  rw [searchable_iff, reached_iff spelled, exclusion_eq spelled]
  split_ifs with dotted large binary
  · simp [dotted]
  · simp [Nat.not_le.2 large]
  · simp [binary]
  · simp [dotted, binary, Nat.not_lt.1 large]

/-! ## The files that are reported -/

def Finds (w : WorkingCopy) (t : Tree) (query : String) (options : SearchOptions) (path : List Name) : Prop :=
  ∃ content mode, t.at? path = some (.file content mode) ∧ w.Searchable path content ∧
    Matcher.PathWanted options (slashJoined path) ∧
    ∃ line ∈ Text.lineChars (Utf8.lossyChars content), Matcher.LineMatches query options line

variable {context : Nat}

theorem filename_of_fileMatch? {found : FileMatch} (h : fileMatch? m context f = some found) :
    found.filename = f.path := by
  unfold fileMatch? at h
  split at h
  · cases h
  · split at h
    · cases h
    · cases h
      rfl

theorem isSome_fileMatch?_iff : (fileMatch? m context f).isSome = true ↔ isBinary f.content = false ∧
    ∃ line ∈ Text.lineChars (Utf8.lossyChars f.content), m.query.isMatch line = true := by
  have hlines := @matchLines_ne_nil_iff m.query.isMatch context (Utf8.lossyChars f.content)
  rw [← hlines, fileMatch?]
  cases isBinary f.content with
  | true => simp
  | false => cases matchLines m.query.isMatch context (Utf8.lossyChars f.content) <;> simp

theorem map_filename_filterMap (files : List Walked) :
    (files.filterMap (fileMatch? m context)).map (·.filename) =
      (files.filter fun f => (fileMatch? m context f).isSome).map (·.path) := by
  induction files with
  | nil => rfl
  | cons f files ih =>
    cases h : fileMatch? m context f with
    | none => simpa [h] using ih
    | some found => simpa [h, filename_of_fileMatch? h] using ih

/-- The files that a search reports before it turns to a page of them. -/
def reported (w : WorkingCopy) (m : Matcher) (options : SearchOptions) (t : Tree) : List Walked :=
  (w.opened m t).filter fun f => (fileMatch? m options.linesOfContext f).isSome

theorem reported_sublist : (w.reported m options t).Sublist (walkTree w.rules true t) :=
  List.filter_sublist.trans List.filter_sublist

theorem mem_reported_iff (compiled : Matcher.Compiled query options m) :
    f ∈ w.reported m options t ↔ f ∈ walkTree w.rules true t ∧ w.exclusion f = none ∧
      Matcher.PathWanted options f.path ∧
      ∃ line ∈ Text.lineChars (Utf8.lossyChars f.content), Matcher.LineMatches query options line := by
  simp only [reported, opened, opens, List.mem_filter, Bool.and_eq_true, Option.isNone_iff_eq_none,
    isSome_fileMatch?_iff, compiled.wantsPath_iff, compiled.lineMatches_iff, exclusion_eq_none_iff]
  tauto

theorem mem_map_key_reported_iff (compiled : Matcher.Compiled query options m) (proper : t.Proper)
    (isDir : t.isDir = true) :
    path ∈ (w.reported m options t).map (·.key) ↔ w.Finds t query options path := by
  simp only [List.mem_map, mem_reported_iff compiled]
  constructor
  · rintro ⟨f, ⟨hwalked, hincluded, hwanted, hline⟩, rfl⟩
    obtain ⟨mode, hfile, hspelled, hallows⟩ := exists_spelled proper isDir hwalked
    exact ⟨f.content, mode, hfile, (allows_and_exclusion_iff hspelled).1 ⟨hallows, hincluded⟩,
      hspelled.path_eq ▸ hwanted, hline⟩
  · rintro ⟨content, mode, hfile, hsearchable, hwanted, hline⟩
    have hspelled : Spelled path (path.map Utf8.decodeLossy) := spelled_iff.2 ⟨hsearchable.text_names, rfl⟩
    obtain ⟨hallows, hincluded⟩ :=
      (allows_and_exclusion_iff (f := ⟨path.map Utf8.decodeLossy, content⟩) hspelled).2 hsearchable
    refine ⟨⟨path.map Utf8.decodeLossy, content⟩, ⟨?_, hincluded, ?_, hline⟩, Spelled.key hspelled⟩
    · exact (mem_walkTree proper isDir).2 ⟨path, mode, hfile, hspelled, hallows⟩
    · exact hwanted

theorem map_path_reported (proper : t.Proper) (isDir : t.isDir = true) :
    (w.reported m options t).map (·.path) = ((w.reported m options t).map (·.key)).map slashJoined := by
  rw [List.map_map]
  refine List.map_congr_left fun f hf => ?_
  obtain ⟨-, -, hspelled, -⟩ := exists_spelled proper isDir (reported_sublist.mem hf)
  exact hspelled.path_eq

theorem searchTree_eq_of_same (proper : t.Proper) (proper' : s.Proper) (isDir : t.isDir = true)
    (isDir' : s.isDir = true) (same : t.Same s) : w.searchTree m options t = w.searchTree m options s := by
  rw [searchTree, searchTree, walkTree_eq_of_same proper proper' isDir isDir' same]

theorem search_eq (compiled : Matcher.compile query options = .ok m) (there : w.tree? disk = .ok t) :
    w.search disk query options = .ok (w.searchTree m options t) := by
  simp [search, compiled, there, bind, Except.bind, pure, Except.pure]

/-! ## Soundness and completeness -/

/-- The response of a search lists the files at the paths that it should. -/
structure Lists (w : WorkingCopy) (t : Tree) (query : String) (options : SearchOptions)
    (paths : List (List Name)) (response : SearchResponse) : Prop where
  filenames : response.matched.map (·.filename) = paths.map slashJoined
  mem_iff : ∀ path, path ∈ paths ↔ w.Finds t query options path
  ascending : paths.Pairwise (· < ·)
  nodup : (response.matched.map (·.filename)).Nodup
  filesWithMatch : response.filesWithMatch = response.matched.length
  no_link_above : ∀ path ∈ paths, ∀ above, above <+: path → ∀ target, t.at? above ≠ some (.link target)

theorem not_link_above {content : Bytes} {mode : Nat} {above : List Name} {target : Bytes}
    (h : t.at? path = some (.file content mode)) (prefixed : above <+: path) :
    t.at? above ≠ some (.link target) := by
  intro hlink
  obtain ⟨more, rfl⟩ := prefixed
  have hmore : more ≠ [] := by
    rintro rfl
    rw [List.append_nil, hlink] at h
    cases h
  cases Tree.isDir_of_at?_append hlink (by simp [h]) hmore

theorem lists_searchTree (compiled : Matcher.Compiled query options m) (proper : t.Proper)
    (isDir : t.isDir = true) (offset : options.offset = 0) (limit : options.limit = 0) :
    w.Lists t query options ((w.reported m options t).map (·.key)) (w.searchTree m options t) := by
  have hmatched : (w.searchTree m options t).matched.map (·.filename) =
      (w.reported m options t).map (·.path) := by
    rw [searchTree_eq, tally, offset, limit, page_all]
    exact map_filename_filterMap _
  refine ⟨?_, ?_, ?_, ?_, ?_, ?_⟩
  · rw [hmatched, map_path_reported proper isDir]
  · exact fun path => mem_map_key_reported_iff compiled proper isDir
  · exact List.pairwise_map.2 ((walkTree_ascending proper).sublist reported_sublist)
  · rw [hmatched]
    exact nodup_map_path proper isDir reported_sublist
  · rw [searchTree_eq, tally, offset, limit, page_all]
  · intro path hpath above habove target
    obtain ⟨content, mode, hfile, -⟩ := (mem_map_key_reported_iff compiled proper isDir).1 hpath
    exact not_link_above hfile habove

/-- Files at the top, with a dot, below a directory, in version control metadata and behind a link. -/
def someEntries : List (Name × Tree) :=
  [(Utf8.encode "b", .file (Utf8.encode "one\nhit\n") 0o644),
    (Utf8.encode ".env", .file (Utf8.encode "hit") 0o644),
    (Utf8.encode ".git", .dir [(Utf8.encode "HEAD", .file (Utf8.encode "hit") 0o644)]),
    (Utf8.encode "a", .dir [(Utf8.encode "l", .link (Utf8.encode "f")),
      (Utf8.encode "f", .file (Utf8.encode "hit") 0o644)])]

def someDisk : Disk := ⟨.dir [(Utf8.encode "w", .dir someEntries)], []⟩

def someCopy : WorkingCopy := ⟨"/w", [".git"], true, 1000, "1"⟩

def diskWith (entries : List (Name × Tree)) : Disk := ⟨.dir [(Utf8.encode "w", .dir entries)], []⟩

theorem tree?_diskWith (entries : List (Name × Tree)) : someCopy.tree? (diskWith entries) = .ok (.dir entries) := by
  have hfind : (diskWith entries).find true (Utf8.encode "/w") =
      .ok ⟨[Utf8.encode "w"], some (.dir entries)⟩ := by
    rw [Disk.find, if_neg (by decide), if_neg (by decide), startOf, if_pos (by decide)]
    rw [show splitPath (Utf8.encode "/w") = [[], Utf8.encode "w"] from rfl]
    rw [walk_idle rfl rfl rfl, walk_plain rfl ⟨rfl, rfl, by decide⟩ rfl (by nofun), walk_nil]
    rfl
  rw [tree?, Disk.look]
  simp only [someCopy, hfind]
  rfl

theorem tree?_someCopy : someCopy.tree? someDisk = .ok (.dir someEntries) := tree?_diskWith someEntries

theorem proper_someEntries : (Tree.dir someEntries).Proper := by
  refine Tree.proper_dir (by decide) (by decide) ?_
  simp only [someEntries, List.forall_mem_cons, List.not_mem_nil, false_implies, implies_true, and_true]
  refine ⟨Tree.proper_file, Tree.proper_file, Tree.proper_dir (by decide) (by decide) ?_,
    Tree.proper_dir (by decide) (by decide) ?_⟩
  · simp [Tree.proper_file]
  · simp [Tree.proper_link, Tree.proper_file]

end WorkingCopy

end CodeSearch
