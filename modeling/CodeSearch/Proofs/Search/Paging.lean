import CodeSearch.Proofs.Search.Findings

/-!
# Searching page by page

A search for one page answers a window of what the search for everything answers, and tells the same of the
rest: how many files match, how many were read, and of which revision. Page after page lists all files that
match, each of them once.
-/

namespace CodeSearch

open Files

def SearchOptions.onPage (options : SearchOptions) (offset limit : Nat) : SearchOptions :=
  { options with offset := offset, limit := limit }

namespace WorkingCopy

variable {w : WorkingCopy} {disk : Disk} {query : String} {options : SearchOptions} {m : Matcher} {t : Tree}
  {full : SearchResponse}

theorem compile_onPage (query : String) (options : SearchOptions) (offset limit : Nat) :
    Matcher.compile query (options.onPage offset limit) = Matcher.compile query options := rfl

/-- The response for a page, in terms of the response for everything. -/
theorem searchTree_onPage (w : WorkingCopy) (m : Matcher) (options : SearchOptions) (t : Tree) (offset limit : Nat) :
    w.searchTree m (options.onPage offset limit) t =
      { w.searchTree m (options.onPage 0 0) t with
        matched := page offset limit (w.searchTree m (options.onPage 0 0) t).matched } := by
  have hfound : w.found m (options.onPage offset limit) (walkTree w.rules true t) =
      w.found m (options.onPage 0 0) (walkTree w.rules true t) := rfl
  have hall : (w.tally m (options.onPage 0 0) (walkTree w.rules true t)).matched =
      w.found m (options.onPage 0 0) (walkTree w.rules true t) := page_all _
  rw [searchTree_eq, searchTree_eq, hall, tally, hfound]
  rfl

/-- Everything is searched for page by page in the same way, also where there is nothing to search. -/
theorem search_onPage (w : WorkingCopy) (disk : Disk) (query : String) (options : SearchOptions) (offset limit : Nat) :
    w.search disk query (options.onPage offset limit) =
      (w.search disk query (options.onPage 0 0)).map fun full =>
        { full with matched := page offset limit full.matched } := by
  unfold search
  rw [compile_onPage, compile_onPage]
  cases Matcher.compile query options with
  | error e => rfl
  | ok m =>
    cases w.tree? disk with
    | error e => rfl
    | ok t => exact congrArg Except.ok (searchTree_onPage w m options t offset limit)

/-- What the pages of a search have to do with the search for everything. -/
structure Paged (w : WorkingCopy) (disk : Disk) (query : String) (options : SearchOptions) : Prop where
  refused : ∀ e, w.search disk query (options.onPage 0 0) = .error e →
    ∀ offset limit, w.search disk query (options.onPage offset limit) = .error e
  window : ∀ full, w.search disk query (options.onPage 0 0) = .ok full → ∀ offset limit,
    ∃ response, w.search disk query (options.onPage offset limit) = .ok response ∧
      response.matched = (if limit = 0 then full.matched.drop offset else (full.matched.drop offset).take limit) ∧
      response.filesWithMatch = full.filesWithMatch ∧ response.filesOpened = full.filesOpened ∧
      response.revision = full.revision
  /-- The first pages of a size are the first files, and enough pages are all of them. -/
  joined : ∀ full, w.search disk query (options.onPage 0 0) = .ok full → ∀ size, 0 < size →
    ∃ pages : Nat → SearchResponse,
      (∀ i, w.search disk query (options.onPage (i * size) size) = .ok (pages i)) ∧
      (∀ count, ((List.range count).flatMap fun i => (pages i).matched) = full.matched.take (count * size)) ∧
      ∀ count, full.filesWithMatch ≤ count * size →
        ((List.range count).flatMap fun i => (pages i).matched) = full.matched
  all : ∀ full, w.search disk query (options.onPage 0 0) = .ok full → full.filesWithMatch = full.matched.length
  distinct : ∀ full, w.search disk query (options.onPage 0 0) = .ok full →
    ∀ t, w.tree? disk = .ok t → t.Proper → (full.matched.map (·.filename)).Nodup

theorem filesWithMatch_eq (h : w.search disk query (options.onPage 0 0) = .ok full) :
    full.filesWithMatch = full.matched.length := by
  cases compiled : Matcher.compile query (options.onPage 0 0) with
  | error e => simp [search, compiled, bind, Except.bind] at h
  | ok m =>
    cases there : w.tree? disk with
    | error e => simp [search, compiled, there, bind, Except.bind] at h
    | ok t =>
      rw [search_eq compiled there, searchTree_eq] at h
      cases h
      exact congrArg List.length (page_all _).symm

theorem nodup_filenames (h : w.search disk query (options.onPage 0 0) = .ok full) (there : w.tree? disk = .ok t)
    (proper : t.Proper) : (full.matched.map (·.filename)).Nodup := by
  cases compiled : Matcher.compile query (options.onPage 0 0) with
  | error e => simp [search, compiled, bind, Except.bind] at h
  | ok m =>
    rw [search_eq compiled there] at h
    cases h
    exact (lists_searchTree (Matcher.compile_eq_ok_iff.1 compiled) proper (isDir_of_tree? there) rfl rfl).nodup

theorem paged_search (w : WorkingCopy) (disk : Disk) (query : String) (options : SearchOptions) :
    w.Paged disk query options where
  refused e failed offset limit := by rw [search_onPage, failed]; rfl
  window full found offset limit :=
    ⟨{ full with matched := page offset limit full.matched }, by rw [search_onPage, found]; rfl, rfl, rfl, rfl, rfl⟩
  joined full found size sized := by
    have hpages (count : Nat) := flatMap_page size full.matched count sized
    refine ⟨fun i => { full with matched := page (i * size) size full.matched }, fun i => ?_, hpages, fun count enough => ?_⟩
    · rw [search_onPage, found]
      rfl
    · rw [filesWithMatch_eq found] at enough
      exact (hpages count).trans (List.take_of_length_le enough)
  all _ found := filesWithMatch_eq found
  distinct _ found _ there proper := nodup_filenames found there proper

end WorkingCopy

end CodeSearch
