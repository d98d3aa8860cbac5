import Mathlib.Data.List.Induction
import CodeSearch.Search.WorkingCopy

/-!
# What a search keeps count of

A search goes through the walk once. At each file its response is what the files so far come to: how many of
them were read, how many match, and the page of those that match.
-/

namespace CodeSearch

open Files

/-! ## Pages -/

section Pages

variable {α : Type} {offset limit size : Nat} {items : List α}

/-- One page of a list: a number of items passed over, then at most `limit` unless that is 0. -/
def page (offset limit : Nat) (items : List α) : List α :=
  let rest := items.drop offset
  if limit = 0 then rest else rest.take limit

@[simp] theorem page_nil : page offset limit ([] : List α) = [] := by
  simp [page]

@[simp] theorem page_all (items : List α) : page 0 0 items = items := by
  simp [page]

theorem page_map {β : Type} (g : α → β) (offset limit : Nat) (items : List α) :
    (page offset limit items).map g = page offset limit (items.map g) := by
  unfold page
  split <;> simp [List.map_drop, List.map_take]

theorem page_sublist : (page offset limit items).Sublist items := by
  unfold page
  split
  · exact List.drop_sublist _ _
  · exact (List.take_sublist _ _).trans (List.drop_sublist _ _)

/-- One more item is on the page if it stands behind those passed over and the page is not full. -/
theorem page_concat (offset limit : Nat) (items : List α) (item : α) :
    page offset limit (items ++ [item]) =
      if offset < items.length + 1 ∧ (limit = 0 ∨ (page offset limit items).length < limit) then
        page offset limit items ++ [item]
      else page offset limit items := by
  rcases Nat.lt_or_ge items.length offset with before | behind
  · have hnone : (items ++ [item]).drop offset = [] := List.drop_eq_nil_of_le (by rw [List.length_append]; exact before)
    have hnone' : items.drop offset = [] := List.drop_eq_nil_of_le (Nat.le_of_lt before)
    rw [if_neg (by omega), page, page, hnone, hnone']
  · have hdrop : (items ++ [item]).drop offset = items.drop offset ++ [item] := List.drop_append_of_le_length behind
    rw [page, page, hdrop]
    by_cases unlimited : limit = 0
    · rw [if_pos unlimited, if_pos unlimited, if_pos ⟨by omega, .inl unlimited⟩]
    · rw [if_neg unlimited, if_neg unlimited, List.length_take]
      rcases Nat.lt_or_ge (items.drop offset).length limit with room | full
      · rw [if_pos ⟨by omega, .inr (by omega)⟩, List.take_of_length_le (Nat.le_of_lt room),
          List.take_of_length_le (by rw [List.length_append]; exact room)]
      · rw [if_neg (by omega), List.take_append_of_le_length full]

/-- Pages of one size, one after another, are the items up to the end of the last page. -/
theorem flatMap_page (size : Nat) (items : List α) (count : Nat) (sized : 0 < size) :
    ((List.range count).flatMap fun i => page (i * size) size items) = items.take (count * size) := by
  induction count with
  | zero => simp
  | succ count ih =>
    have hlast : page (count * size) size items = (items.drop (count * size)).take size :=
      if_neg (Nat.ne_of_gt sized)
    rw [List.range_succ, List.flatMap_append, ih, List.flatMap_singleton, hlast, Nat.succ_mul, List.take_add]

end Pages

namespace WorkingCopy

variable {w : WorkingCopy} {m : Matcher} {options : SearchOptions} {files : List Walked} {f : Walked} {t : Tree}

/-! ## The files of a walk -/

def opens (w : WorkingCopy) (m : Matcher) (f : Walked) : Bool := (w.skipReason f).isNone && m.wantsPath f.path

def opened (w : WorkingCopy) (m : Matcher) (t : Tree) : List Walked := (walkTree w.rules true t).filter (w.opens m)

def found (w : WorkingCopy) (m : Matcher) (options : SearchOptions) (files : List Walked) : List FileMatch :=
  (files.filter (w.opens m)).filterMap (fileMatch? m options.linesOfContext)

/-- What the response to some files has to be. -/
def tally (w : WorkingCopy) (m : Matcher) (options : SearchOptions) (files : List Walked) : SearchResponse where
  matched := page options.offset options.limit (w.found m options files)
  filesWithMatch := (w.found m options files).length
  filesOpened := (files.filter (w.opens m)).length
  revision := w.revision

theorem not_opens (w : WorkingCopy) (m : Matcher) (f : Walked) :
    (!w.opens m f) = ((w.skipReason f).isSome || !m.wantsPath f.path) := by
  rw [opens, Bool.not_and, Option.not_isNone]

theorem visit_closed {r : SearchResponse} (closed : w.opens m f = false) : w.visit m options r f = r := by
  rw [visit, ← not_opens, closed]
  rfl

theorem visit_opened {r : SearchResponse} (opened : w.opens m f = true) :
    w.visit m options r f =
      match fileMatch? m options.linesOfContext f with
      | none => { r with filesOpened := r.filesOpened + 1 }
      | some found => { r with filesOpened := r.filesOpened + 1 }.add options found := by
  rw [visit, ← not_opens, opened]
  rfl

theorem visit_tally (files : List Walked) (f : Walked) :
    w.visit m options (w.tally m options files) f = w.tally m options (files ++ [f]) := by
  cases opened : w.opens m f with
  | false =>
    have hfiles : (files ++ [f]).filter (w.opens m) = files.filter (w.opens m) := by simp [opened]
    rw [visit_closed opened, tally, tally, found, found, hfiles]
  | true =>
    have hfiles : (files ++ [f]).filter (w.opens m) = files.filter (w.opens m) ++ [f] := by simp [opened]
    rw [visit_opened opened]
    cases hfile : fileMatch? m options.linesOfContext f with
    | none =>
      have hfound : w.found m options (files ++ [f]) = w.found m options files := by simp [found, hfiles, hfile]
      rw [tally, tally, hfound, hfiles, List.length_append]
      rfl
    | some one =>
      have hfound : w.found m options (files ++ [f]) = w.found m options files ++ [one] := by
        simp [found, hfiles, hfile]
      rw [tally, tally, hfound, hfiles, page_concat, List.length_append, List.length_append]
      rfl

theorem foldl_visit (files : List Walked) :
    files.foldl (w.visit m options) ⟨[], 0, 0, w.revision⟩ = w.tally m options files := by
  induction files using List.reverseRecOn with
  | nil => simp [tally, found]
  | append_singleton files f ih => rw [List.foldl_append, ih]; exact visit_tally files f

theorem searchTree_eq (w : WorkingCopy) (m : Matcher) (options : SearchOptions) (t : Tree) :
    w.searchTree m options t = w.tally m options (walkTree w.rules true t) := foldl_visit _

end WorkingCopy

end CodeSearch
