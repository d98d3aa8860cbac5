import CodeSearch.Proofs.Search.Exclusions

/-!
# How many files a search opens

A search counts a file as opened before it looks whether the file is binary. So the count is that of the text
files that suit the path filters and of the binary files that do; without filters each file of the walk is
opened, reported as excluded, or both if it is binary.
-/

namespace CodeSearch.WorkingCopy

open Files

variable {w : WorkingCopy} {m : Matcher} {files : List Walked} {f : Walked} {t : Tree} {disk : Disk} {query : String}
  {options : SearchOptions}

/-! ## The kinds of files -/

/-- How many files suit the path filters and are left out for some reason, or for none. -/
def countOf (w : WorkingCopy) (m : Matcher) (why : Option Exclusion) (files : List Walked) : Nat :=
  files.countP fun f => decide (w.exclusion f = why) && m.wantsPath f.path

theorem skipReason_ne_binary (w : WorkingCopy) (f : Walked) : w.skipReason f ≠ some .binary := by
  unfold skipReason
  split
  · nofun
  · split <;> nofun

/-- A file is opened if it is text or binary, and suits the path filters. -/
theorem opens_eq (w : WorkingCopy) (m : Matcher) (f : Walked) : w.opens m f =
    ((decide (w.exclusion f = none) || decide (w.exclusion f = some .binary)) && m.wantsPath f.path) := by
  have hskip := w.skipReason_ne_binary f
  unfold opens exclusion
  cases h : w.skipReason f with
  | none => cases isBinary f.content <;> rfl
  | some why => cases why <;> simp_all

theorem length_filter_opens (w : WorkingCopy) (m : Matcher) (files : List Walked) :
    (files.filter (w.opens m)).length = w.countOf m none files + w.countOf m (some .binary) files := by
  -- a file adds to one of the two counts if it is opened, and else to neither
  rw [← List.countP_eq_length_filter, countOf, countOf]
  induction files with
  | nil => rfl
  | cons f files ih =>
    simp only [List.countP_cons, ih, opens_eq]
    cases m.wantsPath f.path with
    | false => simp
    | true =>
      rcases w.exclusion f with _ | why
      · simp
        omega
      · cases why <;> simp
        omega

theorem length_excludedTree (w : WorkingCopy) (t : Tree) :
    (w.excludedTree t).length = (walkTree w.rules true t).countP fun f => (w.exclusion f).isSome := by
  rw [← List.length_map, map_filename_excludedTree, List.length_map, List.countP_eq_length_filter]

/-! ## The count of a search -/

/-- What a search counts as opened of the files of a walk, of which some are reported as excluded. -/
structure CountsOpened (w : WorkingCopy) (files : List Walked) (m : Matcher) (options : SearchOptions)
    (opened excluded : Nat) : Prop where
  opened_eq : opened = w.countOf m none files + w.countOf m (some .binary) files
  /-- Only the text files are counted exactly if no binary file suits the path filters. -/
  text_iff : opened = w.countOf m none files ↔
    ∀ f ∈ files, w.exclusion f = some .binary → m.wantsPath f.path = false
  /-- Without path filters only the binary files are counted twice. -/
  opened_add_excluded : options.fileRegexp = "" → options.excludeFileRegexp = "" →
    opened + excluded = files.length + files.countP fun f => w.exclusion f = some .binary

def oneBinary : List (Name × Tree) := [(Utf8.encode "b", .file [0] 0o644)]

def hitMatcher : Matcher := ⟨.seqs (['h', 'i', 't'].map Pattern.char), none, none⟩

theorem compile_hit : Matcher.compile "hit" .default = .ok hitMatcher := rfl

end CodeSearch.WorkingCopy
