import Mathlib.Data.List.Infix
import CodeSearch.Proofs.Pattern.Literal
import CodeSearch.Proofs.Search.Findings
import CodeSearch.Proofs.Search.Windows

/-!
# Searching for literal text

A query that is meant literally is never refused for the characters it has. A search for it answers the lines in
which the text stands, of every file that is searched at all, and no others.
-/

namespace CodeSearch

open Files

variable {query : String} {options : SearchOptions} {m : Matcher} {e : Failure} {text : List Char} {f : Walked}

/-! ## The matcher of literal text -/

namespace Matcher

/-- A query for literal text, in this very case and in files of any path. -/
structure AsksText (query : String) (options : SearchOptions) : Prop where
  nonempty : query ≠ ""
  literal : options.literal = true
  cased : options.ignoreCase = false
  anyPath : options.fileRegexp = ""
  noPath : options.excludeFileRegexp = ""

namespace AsksText

variable (asks : AsksText query options)

include asks

theorem exists_compile : ∃ p, p.TakesOnly query.toList ∧
    Pattern.compile options.ignoreCase (queryText query options) =
      if p.size ≤ Pattern.sizeLimit then .ok p else .error .tooLarge := by
  rw [queryText, asks.literal, asks.cased]
  exact Pattern.exists_compile_escape query.toList

theorem compile_ne_malformed :
    Pattern.compile options.ignoreCase (queryText query options) ≠ .error .malformed := by
  obtain ⟨p, -, hcompile⟩ := asks.exists_compile
  rw [hcompile]
  split <;> nofun

theorem eq_tooLarge (h : compile query options = .error e) :
    e = .invalidQuery ("Invalid query: " ++ PatternError.tooLarge.message) := by
  obtain ⟨p, -, hcompile⟩ := asks.exists_compile
  have hempty : query.isEmpty = false := by simpa using asks.nonempty
  have hincludes : pathFilter options.fileRegexp = .ok none := pathFilter_eq_none_iff.2 asks.anyPath
  have hexcludes : pathFilter options.excludeFileRegexp = .ok none := pathFilter_eq_none_iff.2 asks.noPath
  by_cases hsize : p.size ≤ Pattern.sizeLimit
  · rw [if_pos hsize] at hcompile
    simp [compile, hempty, hcompile, hincludes, hexcludes, bind, Except.bind, pure, Except.pure] at h
  · rw [if_neg hsize] at hcompile
    simp only [compile, hempty, hcompile, bind, Except.bind, throw, throwThe, MonadExceptOf.throw] at h
    exact (Except.error.inj h).symm

/-- What the query compiles to takes the text only, and wants files of any path. -/
theorem takesOnly (h : compile query options = .ok m) :
    m.query.TakesOnly query.toList ∧ ∀ path, m.wantsPath path = true := by
  have compiled := compile_eq_ok_iff.1 h
  obtain ⟨p, only, hcompile⟩ := asks.exists_compile
  rw [compiled.query] at hcompile
  split at hcompile
  · cases hcompile
    refine ⟨only, fun path => compiled.wantsPath_iff.2 ⟨absurd asks.anyPath, absurd asks.noPath⟩⟩
  · cases hcompile

end AsksText

end Matcher

/-! ## Lines with a text -/

def Walked.linesWith (text : List Char) (f : Walked) : List (Nat × String) :=
  ((Text.lineChars (Utf8.lossyChars f.content)).zipIdx.filter (text <:+: ·.1)).map fun (line, i) =>
    (i + 1, String.ofList line)

/-- A file that is answered, with the lines that match and their numbers. -/
def FileMatch.located (found : FileMatch) : String × List (Nat × String) :=
  (found.filename, found.matched.map fun l => (l.lineNumber, l.line))

namespace WorkingCopy

variable {w : WorkingCopy} {disk : Disk} {t : Tree} {context : Nat} {files : List Walked} {response : SearchResponse}

def linesWith (w : WorkingCopy) (text : List Char) (files : List Walked) : List (String × List (Nat × String)) :=
  ((files.filter fun f => (w.exclusion f).isNone).map fun f => (f.path, f.linesWith text)).filter (!·.2.isEmpty)

theorem located_matchLines (only : m.query.TakesOnly text) :
    (matchLines m.query.isMatch context (Utf8.lossyChars f.content)).map (fun l => (l.lineNumber, l.line)) =
      f.linesWith text := by
  have hmatch : m.query.isMatch = fun line => decide (text <:+: line) :=
    funext fun line => Bool.eq_iff_iff.2 (only.isMatch_iff.trans decide_eq_true_iff.symm)
  rw [matchLines_eq, List.map_map, Walked.linesWith, hmatch]
  rfl

theorem located_fileMatch? (only : m.query.TakesOnly text) :
    (fileMatch? m context f).map (·.located) =
      if isBinary f.content = false ∧ f.linesWith text ≠ [] then some (f.path, f.linesWith text) else none := by
  have hlines : (matchLines m.query.isMatch context (Utf8.lossyChars f.content)).map (fun l => (l.lineNumber, l.line)) =
      f.linesWith text := located_matchLines only
  unfold fileMatch?
  cases isBinary f.content with
  | true => simp
  | false =>
    cases hfound : matchLines m.query.isMatch context (Utf8.lossyChars f.content) with
    | nil => simp [← hlines, hfound]
    | cons l ls =>
      rw [hfound] at hlines
      simp [FileMatch.located, ← hlines]

theorem linesWith_eq (w : WorkingCopy) (text : List Char) (files : List Walked) : w.linesWith text files =
    files.filterMap fun f =>
      if (w.exclusion f).isNone ∧ f.linesWith text ≠ [] then some (f.path, f.linesWith text) else none := by
  rw [linesWith]
  induction files with
  | nil => rfl
  | cons f files ih => cases hexclusion : w.exclusion f <;> cases hlines : f.linesWith text <;> simp [*]

theorem located_found (only : m.query.TakesOnly text) (any : ∀ path, m.wantsPath path = true) :
    (w.found m options files).map (·.located) = w.linesWith text files := by
  have hone : ∀ f, (if w.opens m f then (fileMatch? m options.linesOfContext f).map (·.located) else none) =
      if (w.exclusion f).isNone ∧ f.linesWith text ≠ [] then some (f.path, f.linesWith text) else none := by
    intro f
    rw [located_fileMatch? only, opens, any, Bool.and_true, exclusion]
    cases w.skipReason f <;> cases isBinary f.content <;> simp
  calc (w.found m options files).map (·.located)
      = files.filterMap fun f =>
          if w.opens m f then (fileMatch? m options.linesOfContext f).map (·.located) else none := by
        rw [found, List.map_filterMap, List.filterMap_filter]
    _ = files.filterMap fun f =>
          if (w.exclusion f).isNone ∧ f.linesWith text ≠ [] then some (f.path, f.linesWith text) else none :=
        List.filterMap_congr fun f _ => hone f
    _ = w.linesWith text files := (linesWith_eq ..).symm

/-! ## A search for literal text -/

/-- A response says that a line of a file matches. -/
def Reports (response : SearchResponse) (filename : String) (number : Nat) (line : String) : Prop :=
  ∃ found ∈ response.matched, found.filename = filename ∧
    ∃ l ∈ found.matched, l.lineNumber = number ∧ l.line = line

/-- The response of a search for a text lists the lines that it stands in. -/
structure ListsLinesWith (w : WorkingCopy) (t : Tree) (text : List Char) (options : SearchOptions)
    (response : SearchResponse) : Prop where
  /-- The files of one page with their lines. -/
  located : response.matched.map (·.located) =
    page options.offset options.limit (w.linesWith text (walkTree w.rules true t))
  filesWithMatch : response.filesWithMatch = (w.linesWith text (walkTree w.rules true t)).length
  /-- All lines of all searched files in which the text stands, if all files are asked for. -/
  reports_iff : t.Proper → options.offset = 0 → options.limit = 0 → ∀ filename number line,
    Reports response filename number line ↔ ∃ path content mode, t.at? path = some (.file content mode) ∧
      w.Searchable path content ∧ filename = slashJoined path ∧ 0 < number ∧
      ∃ chars, (Text.lineChars (Utf8.lossyChars content))[number - 1]? = some chars ∧ line = String.ofList chars ∧
        text <:+: chars

theorem reports_iff_located {filename line : String} {number : Nat} : Reports response filename number line ↔
    ∃ lines, (filename, lines) ∈ response.matched.map (·.located) ∧ (number, line) ∈ lines := by
  simp only [Reports, FileMatch.located, List.mem_map, Prod.mk.injEq]
  constructor
  · rintro ⟨found, hfound, rfl, l, hl, rfl, rfl⟩
    exact ⟨_, ⟨found, hfound, rfl, rfl⟩, List.mem_map.2 ⟨l, hl, rfl⟩⟩
  · rintro ⟨_, ⟨found, hfound, rfl, rfl⟩, hline⟩
    obtain ⟨l, hl, hpair⟩ := List.mem_map.1 hline
    obtain ⟨rfl, rfl⟩ := Prod.mk.inj hpair
    exact ⟨found, hfound, rfl, l, hl, rfl, rfl⟩

theorem mem_linesWith_iff {number : Nat} {line : String} : (number, line) ∈ f.linesWith text ↔ 0 < number ∧
    ∃ chars, (Text.lineChars (Utf8.lossyChars f.content))[number - 1]? = some chars ∧ line = String.ofList chars ∧
      text <:+: chars := by
  simp only [Walked.linesWith, List.mem_map, List.mem_filter, Prod.exists, List.mem_zipIdx_iff_getElem?,
    decide_eq_true_eq, Prod.mk.injEq]
  constructor
  · rintro ⟨chars, i, ⟨hline, htext⟩, rfl, rfl⟩
    exact ⟨Nat.succ_pos _, chars, hline, rfl, htext⟩
  · rintro ⟨hpos, chars, hline, rfl, htext⟩
    exact ⟨chars, number - 1, ⟨hline, htext⟩, Nat.sub_add_cancel hpos, rfl⟩

theorem exists_mem_linesWith_iff {filename line : String} {number : Nat} :
    (∃ lines, (filename, lines) ∈ w.linesWith text files ∧ (number, line) ∈ lines) ↔
      ∃ f ∈ files, w.exclusion f = none ∧ filename = f.path ∧ (number, line) ∈ f.linesWith text := by
  simp only [linesWith, List.mem_filter, List.mem_map, Prod.mk.injEq, Option.isNone_iff_eq_none]
  constructor
  · rintro ⟨_, ⟨⟨f, ⟨hf, hincluded⟩, rfl, rfl⟩, -⟩, hline⟩
    exact ⟨f, hf, hincluded, rfl, hline⟩
  · rintro ⟨f, hf, hincluded, rfl, hline⟩
    refine ⟨_, ⟨⟨f, ⟨hf, hincluded⟩, rfl, rfl⟩, ?_⟩, hline⟩
    simpa using List.ne_nil_of_mem hline

theorem listsLinesWith_searchTree (only : m.query.TakesOnly text) (any : ∀ path, m.wantsPath path = true)
    (isDir : t.isDir = true) : w.ListsLinesWith t text options (w.searchTree m options t) := by
  have hfound : (w.found m options (walkTree w.rules true t)).map (·.located) =
      w.linesWith text (walkTree w.rules true t) := located_found only any
  have hlocated : (w.searchTree m options t).matched.map (·.located) =
      page options.offset options.limit (w.linesWith text (walkTree w.rules true t)) := by
    rw [searchTree_eq, tally, page_map, hfound]
  refine ⟨hlocated, ?_, ?_⟩
  · rw [searchTree_eq, tally, ← hfound, List.length_map]
  · intro proper offset limit filename number line
    rw [reports_iff_located, hlocated, offset, limit, page_all, exists_mem_linesWith_iff]
    simp only [mem_linesWith_iff]
    -- the files of the walk that are not left out are the searchable files of the tree
    constructor
    · rintro ⟨f, hwalked, hincluded, rfl, hline⟩
      obtain ⟨mode, hfile, hspelled, hallows⟩ := exists_spelled proper isDir hwalked
      exact ⟨f.key, f.content, mode, hfile, (allows_and_exclusion_iff hspelled).1 ⟨hallows, hincluded⟩,
        hspelled.path_eq, hline⟩
    · rintro ⟨path, content, mode, hfile, hsearchable, rfl, hline⟩
      have hspelled : Spelled path (path.map Utf8.decodeLossy) := spelled_iff.2 ⟨hsearchable.text_names, rfl⟩
      obtain ⟨hallows, hincluded⟩ :=
        (allows_and_exclusion_iff (f := ⟨path.map Utf8.decodeLossy, content⟩) hspelled).2 hsearchable
      exact ⟨⟨path.map Utf8.decodeLossy, content⟩, (mem_walkTree proper isDir).2 ⟨path, mode, hfile, hspelled, hallows⟩,
        hincluded, rfl, hline⟩

/-- A file with a line that the text stands in and one that it would match as a pattern. -/
def twoLines : List (Name × Tree) := [(Utf8.encode "f", .file (Utf8.encode "axb\na.b\n") 0o644)]

def literally : SearchOptions := { SearchOptions.default with literal := true }

end WorkingCopy

end CodeSearch
