import CodeSearch.Proofs.Files.Leads
import CodeSearch.Proofs.Files.Segments
import CodeSearch.Proofs.Text.Utf8

/-!
# Paths as text and as bytes

The segments of an encoded path are the encoded segments of its text. So what a text says of the way to a
place can be read off its names.
-/

namespace CodeSearch.Files

open CodeSearch.Path (segments)

theorem splitOnP_append_of_all {α : Type} {p : α → Bool} {xs ys : List α} (h : ∀ x ∈ xs, p x = false) :
    (xs ++ ys).splitOnP p = (ys.splitOnP p).modifyHead (xs ++ ·) := by
  induction xs with
  | nil =>
    rw [List.nil_append]
    cases ys.splitOnP p <;> rfl
  | cons x xs ih =>
    rw [List.cons_append, List.splitOnP_cons_eq_if_modifyHead, h x List.mem_cons_self,
      ih fun y hy => h y (List.mem_cons_of_mem x hy)]
    cases ys.splitOnP p <;> rfl

theorem splitPath_encodeChars (cs : List Char) :
    splitPath (Utf8.encodeChars cs) = (segments cs).map Utf8.encodeChars := by
  induction cs with
  | nil => rfl
  | cons c cs ih =>
    rw [segments, List.splitOnP_cons_eq_if_modifyHead]
    by_cases h : c = '/'
    · subst h
      have : Utf8.encodeChars ('/' :: cs) = [] ++ slash :: Utf8.encodeChars cs := rfl
      rw [this, splitPath, List.splitOnP_append_cons _ _ (by decide)]
      exact congrArg ([] :: ·) ih
    · have hplain : ∀ b ∈ String.utf8EncodeChar c, (b == slash) = false := by
        intro b hb
        refine Bool.eq_false_iff.2 fun hslash => h ?_
        rw [beq_iff_eq.1 hslash] at hb
        exact (Utf8.mem_encodeChar_iff (a := '/') (by decide)).1 hb
      rw [Utf8.encodeChars_cons, splitPath, splitOnP_append_of_all hplain]
      change ((splitPath (Utf8.encodeChars cs)).modifyHead _) = _
      rw [ih, if_neg (by simpa using h)]
      change _ = ((segments cs).modifyHead _).map _
      cases segments cs <;> rfl

theorem isIdle_encodeChars (seg : List Char) : isIdle (Utf8.encodeChars seg) = Path.isIdle seg := by
  have hdot : Utf8.encodeChars seg = dotName ↔ seg = ['.'] := Utf8.encodeChars_eq_singleton (a := '.') (by decide)
  rw [Bool.eq_iff_iff]
  simp only [isIdle, Path.isIdle, Bool.or_eq_true, List.isEmpty_iff, beq_iff_eq, Utf8.encodeChars_eq_nil, hdot]

/-- The names on the way that a path describes. -/
def pathNames (path : String) : List Name := names (splitPath (Utf8.encode path))

theorem pathNames_eq (path : String) : pathNames path = (Path.named path.toList).map Utf8.encodeChars := by
  rw [pathNames, Utf8.encode, splitPath_encodeChars, names, Path.named, List.filter_map]
  congr 2
  funext seg
  simp [isIdle_encodeChars]

theorem startOf_encode (path : String) (here : List Name) :
    startOf (Utf8.encode path) here = if Path.isAbsolute path then [] else here := by
  have hhead : (Utf8.encode path).head? = some slash ↔ path.toList.head? = some '/' := by
    rw [Utf8.encode]
    cases path.toList with
    | nil => simp
    | cons c cs =>
      obtain ⟨b, bs, hb⟩ := List.exists_cons_of_ne_nil (String.utf8EncodeChar_ne_nil (c := c))
      rw [Utf8.encodeChars_cons, hb]
      constructor
      · intro h
        have hslash : UInt8.ofNat '/'.toNat ∈ String.utf8EncodeChar c := by
          rw [hb]
          exact List.mem_of_head? h
        rw [(Utf8.mem_encodeChar_iff (by decide)).1 hslash]
        rfl
      · intro h
        cases h
        cases hb
        rfl
  simp [startOf, Path.isAbsolute, hhead]

theorem mem_iff_mem_splitPath {b : UInt8} {path : Bytes} (h : b ≠ slash) :
    b ∈ path ↔ ∃ seg ∈ splitPath path, b ∈ seg := by
  induction path with
  | nil => simp [splitPath, List.splitOnP_nil]
  | cons c path ih =>
    rw [splitPath, List.splitOnP_cons_eq_if_modifyHead]
    split
    · rename_i hslash
      rw [beq_iff_eq.1 hslash, List.mem_cons, ih]
      simp [h, splitPath]
    · rw [List.mem_cons, ih, splitPath]
      cases hsegs : path.splitOnP (· == slash) with
      | nil => exact absurd hsegs (List.splitOnP_ne_nil _ _)
      | cons first more => simp [or_assoc]

/-- A path holds a byte that its names do not hold only in slashes and dots. -/
theorem contains_nul_iff {path : Bytes} : path.contains 0 = true ↔ ∃ name ∈ names (splitPath path), 0 ∈ name := by
  rw [List.contains_iff_mem, mem_iff_mem_splitPath (by decide)]
  constructor
  · rintro ⟨seg, hseg, hnul⟩
    refine ⟨seg, List.mem_filter.2 ⟨hseg, ?_⟩, hnul⟩
    cases hidle : isIdle seg with
    | false => rfl
    | true =>
      rcases Bool.or_eq_true_iff.1 hidle with h | h
      · rw [List.isEmpty_iff.1 h] at hnul
        cases hnul
      · rw [beq_iff_eq.1 h] at hnul
        revert hnul
        decide
  · rintro ⟨name, hname, hnul⟩
    exact ⟨name, (List.mem_filter.1 hname).1, hnul⟩

section Entry

variable {base p q n : String} {here : List Name}

theorem splitPath_join (base : String) (relative : Path.isAbsolute p = false) :
    ∃ before, splitPath (Utf8.encode (Path.join base p)) = before ++ splitPath (Utf8.encode p) ∧
      names before = pathNames base := by
  obtain ⟨before, hsegs, hbefore⟩ := Path.segments_join base relative
  refine ⟨before.map Utf8.encodeChars, ?_, ?_⟩
  · rw [Utf8.encode, splitPath_encodeChars, hsegs, List.map_append, ← splitPath_encodeChars]
    rfl
  · rw [pathNames_eq, ← hbefore, names, List.filter_map]
    congr 2
    funext seg
    simp [isIdle_encodeChars]

theorem splitPath_entry (entry : Path.Entry n) : splitPath (Utf8.encode n) = [Utf8.encode n] := by
  rw [Utf8.encode, splitPath_encodeChars, Path.segments_of_notMem entry.no_slash]
  rfl

theorem pathNames_join (base : String) (entry : Path.Entry n) :
    pathNames (Path.join base n) = pathNames base ++ [Utf8.encode n] := by
  rw [pathNames_eq, pathNames_eq, Path.named_join entry, List.map_append]
  rfl

theorem startOf_join (relative : Path.isAbsolute p = false) :
    startOf (Utf8.encode (Path.join base p)) here = startOf (Utf8.encode base) here := by
  rw [startOf_encode, startOf_encode, Path.isAbsolute_join relative]

theorem pathNames_parent? (h : Path.parent? p = some q) (some : pathNames p ≠ []) :
    ∃ last, pathNames p = pathNames q ++ [last] := by
  rw [pathNames_eq] at some
  obtain ⟨last, hlast⟩ := Path.named_parent? h fun hnone => some (by rw [hnone]; rfl)
  exact ⟨Utf8.encodeChars last, by rw [pathNames_eq, pathNames_eq, hlast, List.map_append]; rfl⟩

theorem empty_of_parent? (h : Path.parent? p = some q) (none : pathNames p = []) : q = "" := by
  rw [pathNames_eq, List.map_eq_nil_iff] at none
  rcases Path.parent?_cases h with ⟨hempty, -⟩ | ⟨segs, -, -, last, hlast⟩
  · exact hempty
  · simp [hlast] at none

theorem startOf_parent? (h : Path.parent? p = some q) (some : pathNames p ≠ []) :
    startOf (Utf8.encode q) here = startOf (Utf8.encode p) here := by
  rw [pathNames_eq] at some
  rw [startOf_encode, startOf_encode, Path.isAbsolute_parent? h fun hnone => some (by rw [hnone]; rfl)]

/-- What a path says of the way does not depend on its idle end. -/
theorem pathNames_tidy (base : String) : pathNames (Path.tidy base) = pathNames base := by
  have entry : Path.Entry "a" := ⟨by decide, by decide, by decide⟩
  have hnames := pathNames_join base entry
  obtain ⟨last, hlast⟩ := pathNames_parent? (Path.parent?_join entry) (by rw [hnames]; simp)
  exact (List.append_inj' (hlast.symm.trans hnames) rfl).1

theorem startOf_tidy (base : String) :
    startOf (Utf8.encode (Path.tidy base)) here = startOf (Utf8.encode base) here := by
  rw [startOf_encode, startOf_encode, Path.isAbsolute_tidy]

end Entry

end CodeSearch.Files
