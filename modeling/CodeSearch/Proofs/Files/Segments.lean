import Mathlib.Data.List.Basic
import CodeSearch.Files.Path

/-!
# Segments of a path

What `join` and `parent?` do to a path as text, seen through its segments that are not idle: to join adds
one at the end, to go to the directory above drops one.
-/

namespace CodeSearch

namespace Path

def named (cs : List Char) : List (List Char) := (segments cs).filter fun seg => !isIdle seg

variable {cs n head rest : List Char} {segs : List (List Char)}

theorem segments_append (a b : List Char) : segments (a ++ '/' :: b) = segments a ++ segments b :=
  List.splitOnP_append_cons a b rfl

theorem segments_of_notMem (h : '/' ∉ n) : segments n = [n] :=
  List.splitOnP_eq_singleton fun c hc => by
    simpa using fun heq : c = '/' => h (heq ▸ hc)

theorem segments_ne_nil (cs : List Char) : segments cs ≠ [] := List.splitOnP_ne_nil _ cs

theorem segments_slash (cs : List Char) : segments ('/' :: cs) = [] :: segments cs := segments_append [] cs

theorem intercalate_segments (cs : List Char) : List.intercalate ['/'] (segments cs) = cs :=
  List.intercalate_splitOn '/'

theorem slash_notMem_segments {seg : List Char} (h : seg ∈ segments cs) : '/' ∉ seg := by
  induction cs generalizing seg with
  | nil =>
    rw [segments, List.splitOnP_nil, List.mem_singleton] at h
    simp [h]
  | cons c cs ih =>
    by_cases hc : c = '/'
    · rw [hc, segments_slash] at h
      rcases List.mem_cons.1 h with rfl | h
      · simp
      · exact ih h
    · rw [segments, List.splitOnP_cons_eq_if_modifyHead, if_neg (by simpa using hc)] at h
      change seg ∈ (segments cs).modifyHead _ at h
      cases hsegs : segments cs with
      | nil => exact absurd hsegs (segments_ne_nil cs)
      | cons first more =>
        rw [hsegs] at h ih
        rcases List.mem_cons.1 h with rfl | h
        · simpa [Ne.symm hc] using ih List.mem_cons_self
        · exact ih (List.mem_cons_of_mem _ h)

/-! ## Fronts and idle ends -/

theorem front_cases (cs : List Char) :
    (∃ rest, cs = '/' :: rest ∧ front cs = (['/'], rest)) ∨
      (cs = ['.'] ∧ front cs = (['.'], [])) ∨
      (∃ rest, cs = '.' :: '/' :: rest ∧ front cs = (['.'], '/' :: rest)) ∨
      (front cs = ([], cs) ∧ (∀ rest, cs ≠ '/' :: rest) ∧ ∀ rest, cs ≠ '.' :: '/' :: rest) := by
  unfold front
  split
  · exact .inl ⟨_, rfl, rfl⟩
  · exact .inr (.inl ⟨rfl, rfl⟩)
  · exact .inr (.inr (.inl ⟨_, rfl, rfl⟩))
  · rename_i no_slash _ no_dot
    exact .inr (.inr (.inr ⟨rfl, no_slash, no_dot⟩))

theorem named_append (a b : List Char) : named (a ++ '/' :: b) = named a ++ named b := by
  rw [named, segments_append, List.filter_append]
  rfl

theorem named_front : named (front cs).2 = named cs := by
  rcases front_cases cs with ⟨rest, rfl, h⟩ | ⟨rfl, h⟩ | ⟨rest, rfl, h⟩ | ⟨h, -⟩ <;> rw [h]
  · exact (named_append [] rest).symm
  · rfl
  · exact (named_append [] rest).trans (named_append ['.'] rest).symm

theorem exists_idles (segs : List (List Char)) :
    ∃ idles, segs = dropIdleEnd segs ++ idles ∧ ∀ seg ∈ idles, isIdle seg = true := by
  refine ⟨(segs.reverse.takeWhile isIdle).reverse, ?_, fun seg hseg => ?_⟩
  · rw [dropIdleEnd, ← List.reverse_append, List.takeWhile_append_dropWhile, List.reverse_reverse]
  · exact List.all_eq_true.1 (List.all_takeWhile ..) seg (List.mem_reverse.1 hseg)

theorem isPrefix_dropIdleEnd (segs : List (List Char)) : dropIdleEnd segs <+: segs := by
  obtain ⟨idles, hsegs, -⟩ := exists_idles segs
  exact ⟨idles, hsegs.symm⟩

theorem filter_dropIdleEnd (segs : List (List Char)) :
    (dropIdleEnd segs).filter (fun seg => !isIdle seg) = segs.filter fun seg => !isIdle seg := by
  obtain ⟨idles, hsegs, hidle⟩ := exists_idles segs
  have hnone : idles.filter (fun seg => !isIdle seg) = [] :=
    List.filter_eq_nil_iff.2 fun seg hseg => by simp [hidle seg hseg]
  conv_rhs => rw [hsegs, List.filter_append, hnone, List.append_nil]

theorem dropIdleEnd_concat (busy : isIdle n = false) : dropIdleEnd (segs ++ [n]) = segs ++ [n] := by
  simp [dropIdleEnd, busy]

/-- What is left of segments ends with one that is not idle. -/
theorem dropIdleEnd_eq_concat (h : dropIdleEnd segs ≠ []) :
    ∃ before last, dropIdleEnd segs = before ++ [last] ∧ isIdle last = false := by
  obtain ⟨before, last, hlast⟩ := (List.eq_nil_or_concat' (dropIdleEnd segs)).resolve_left h
  refine ⟨before, last, hlast, ?_⟩
  have hdrop : segs.reverse.dropWhile isIdle = last :: before.reverse := by
    rw [dropIdleEnd] at hlast
    simpa using congrArg List.reverse hlast
  have := List.head?_dropWhile_not isIdle segs.reverse
  rw [hdrop] at this
  simpa using this

/-! ## Joining and the directory above -/

theorem toList_ofSegments : (ofSegments head segs).toList = head ++ List.intercalate ['/'] segs := by
  simp [ofSegments]

theorem named_intercalate (free : ∀ seg ∈ segs, '/' ∉ seg) :
    named (List.intercalate ['/'] segs) = segs.filter fun seg => !isIdle seg := by
  cases segs with
  | nil => rfl
  | cons first more =>
    rw [named, segments]
    exact congrArg _ (List.splitOn_intercalate '/' free (by simp))

theorem named_dot {others : List (List Char)} (free : ∀ seg ∈ segs, '/' ∉ seg) (above : segs <+: [] :: others) :
    named ('.' :: List.intercalate ['/'] segs) = segs.filter fun seg => !isIdle seg := by
  rcases List.prefix_cons_iff.1 above with rfl | ⟨more, rfl, -⟩
  · rfl
  · cases more with
    | nil => rfl
    | cons first more =>
      have hmore : ∀ seg ∈ first :: more, '/' ∉ seg := fun seg hseg => free seg (List.mem_cons_of_mem _ hseg)
      have hjoin : List.intercalate ['/'] ([] :: first :: more) =
          '/' :: List.intercalate ['/'] (first :: more) := by
        simp [List.intercalate]
      rw [hjoin]
      exact (named_append ['.'] _).trans (named_intercalate hmore)

/-- The path of the segments that stand behind a front. -/
theorem named_ofSegments (above : segs <+: segments (front cs).2) :
    named (ofSegments (front cs).1 segs).toList = segs.filter fun seg => !isIdle seg := by
  have hfree : ∀ seg ∈ segs, '/' ∉ seg := fun seg hseg => slash_notMem_segments (above.subset hseg)
  rw [toList_ofSegments]
  rcases front_cases cs with ⟨rest, rfl, h⟩ | ⟨rfl, h⟩ | ⟨rest, rfl, h⟩ | ⟨h, -⟩ <;> rw [h] at above ⊢
  · exact (named_append [] _).trans (named_intercalate hfree)
  · exact named_dot hfree above
  · exact named_dot hfree (segments_slash rest ▸ above)
  · exact named_intercalate hfree

theorem segments_eq_cons {first : List Char} (h : segments cs = first :: segs) :
    cs = first ∧ segs = [] ∨ ∃ rest, cs = first ++ '/' :: rest := by
  have hcs := intercalate_segments cs
  rw [h] at hcs
  cases segs with
  | nil => exact .inl ⟨by simpa [List.intercalate] using hcs.symm, rfl⟩
  | cons second segs => exact .inr ⟨_, by simpa [List.intercalate] using hcs.symm⟩

theorem isAbsolute_ofSegments (above : segs <+: segments (front cs).2) (nonempty : cs ≠ []) :
    isAbsolute (ofSegments (front cs).1 segs) = (cs.head? == some '/') := by
  rw [isAbsolute, toList_ofSegments]
  rcases front_cases cs with ⟨rest, rfl, h⟩ | ⟨rfl, h⟩ | ⟨rest, rfl, h⟩ | ⟨h, no_slash, -⟩ <;> rw [h] at above ⊢
  · rfl
  · rfl
  · rfl
  · -- what comes first in a relative path is not empty and has no slash
    have hcs : (cs.head? == some '/') = false := by
      cases cs with
      | nil => rfl
      | cons c cs => simpa using fun heq => no_slash cs (congrArg (· :: cs) heq)
    rw [hcs]
    cases segs with
    | nil => rfl
    | cons first more =>
      obtain ⟨others, hothers⟩ := above
      have hfirst := segments_eq_cons (show segments cs = first :: (more ++ others) from hothers.symm)
      cases first with
      | nil =>
        rcases hfirst with ⟨rfl, -⟩ | ⟨rest, rfl⟩
        · exact absurd rfl nonempty
        · exact absurd rfl (no_slash rest)
      | cons c first =>
        have hc : c ≠ '/' := by
          rcases hfirst with ⟨rfl, -⟩ | ⟨rest, rfl⟩ <;> exact fun heq => no_slash _ (congrArg (· :: _) heq)
        cases more <;> simp [List.intercalate, hc]

variable {p q : String}

/-- The directory above a path has its names but the last one, and begins where it does. Above a path
without names there is at most the empty one. -/
theorem parent?_cases (h : parent? p = some q) :
    q = "" ∧ named p.toList = [] ∨
      ∃ segs, q = ofSegments (front p.toList).1 segs ∧ segs <+: segments (front p.toList).2 ∧
        ∃ last, named p.toList = segs.filter (fun seg => !isIdle seg) ++ [last] := by
  unfold parent? at h
  simp only at h
  split at h
  · rename_i hempty
    split at h <;> cases h
    refine .inl ⟨rfl, ?_⟩
    rw [← named_front, named, ← filter_dropIdleEnd]
    change (body _).filter _ = []
    rw [List.isEmpty_iff.1 hempty]
    rfl
  · rename_i hsome
    cases h
    obtain ⟨before, last, hbody, hbusy⟩ :=
      dropIdleEnd_eq_concat (show dropIdleEnd (segments (front p.toList).2) ≠ [] by simpa [body] using hsome)
    refine .inr ⟨_, rfl, ?_, last, ?_⟩
    · exact (isPrefix_dropIdleEnd _).trans ((List.dropLast_prefix _).trans (isPrefix_dropIdleEnd _))
    · rw [filter_dropIdleEnd, ← named_front, named, ← filter_dropIdleEnd, body, hbody]
      simp [hbusy]

theorem named_parent? (h : parent? p = some q) (some : named p.toList ≠ []) :
    ∃ last, named p.toList = named q.toList ++ [last] := by
  rcases parent?_cases h with ⟨-, hnone⟩ | ⟨segs, rfl, above, last, hlast⟩
  · exact absurd hnone some
  · exact ⟨last, by rw [hlast, named_ofSegments above]⟩

theorem isAbsolute_parent? (h : parent? p = some q) (some : named p.toList ≠ []) :
    isAbsolute q = isAbsolute p := by
  rcases parent?_cases h with ⟨-, hnone⟩ | ⟨segs, rfl, above, -⟩
  · exact absurd hnone some
  · refine isAbsolute_ofSegments above fun hempty => some ?_
    rw [hempty]
    rfl

/-! ## An entry of a directory -/

/-- The name of an entry, neither the directory itself nor the one above. -/
structure Entry (n : String) : Prop where
  no_slash : '/' ∉ n.toList
  not_idle : isIdle n.toList = false
  not_up : n ≠ ".."

variable {base n : String}

theorem Entry.relative (entry : Entry n) : isAbsolute n = false := by
  cases h : n.toList.head? with
  | none => simp [isAbsolute, h]
  | some c => simpa [isAbsolute, h] using fun heq : c = '/' => entry.no_slash (heq ▸ List.mem_of_head? h)

theorem segments_join (base : String) (relative : isAbsolute p = false) :
    ∃ before, segments (join base p).toList = before ++ segments p.toList ∧
      before.filter (fun seg => !isIdle seg) = named base.toList := by
  unfold join
  rw [relative, Bool.false_or]
  split
  · rename_i hempty
    rw [String.isEmpty_iff.1 hempty]
    exact ⟨[], rfl, rfl⟩
  split
  · rename_i hslash
    obtain ⟨b, hb⟩ := List.getLast?_eq_some_iff.1 (beq_iff_eq.1 hslash)
    refine ⟨segments b, ?_, ?_⟩
    · rw [String.toList_append, hb, List.append_assoc, List.singleton_append, segments_append]
    · rw [hb, named_append]
      exact (List.append_nil _).symm
  · refine ⟨segments base.toList, ?_, rfl⟩
    rw [String.toList_append, String.toList_append, List.append_assoc, ← segments_append]
    rfl

theorem Entry.ne_empty (entry : Entry n) : n ≠ "" := by
  rintro rfl
  exact absurd entry.not_idle (by decide)

theorem join_ne_empty (nonempty : p ≠ "") : join base p ≠ "" := by
  unfold join
  split
  · exact nonempty
  · split <;> simp [nonempty]

theorem named_join (entry : Entry n) : named (join base n).toList = named base.toList ++ [n.toList] := by
  obtain ⟨before, hsegs, hbefore⟩ := segments_join base entry.relative
  rw [named, hsegs, List.filter_append, hbefore, segments_of_notMem entry.no_slash]
  simp [entry.not_idle]

theorem isAbsolute_join (relative : isAbsolute p = false) : isAbsolute (join base p) = isAbsolute base := by
  unfold join
  rw [relative, Bool.false_or]
  split
  · rename_i hempty
    rw [String.isEmpty_iff.1 hempty]
    exact relative
  · rename_i hsome
    cases hbase : base.toList with
    | nil => exact absurd (String.isEmpty_iff.2 (String.toList_eq_nil_iff.1 hbase)) hsome
    | cons c cs => split <;> simp [isAbsolute, hbase]

def tidy (path : String) : String := ofSegments (front path.toList).1 (body (front path.toList).2)

theorem front_append (nonempty : cs ≠ []) (dot : cs = ['.'] → rest.head? = some '/') :
    front (cs ++ rest) = ((front cs).1, (front cs).2 ++ rest) := by
  rcases front_cases cs with ⟨more, rfl, h⟩ | ⟨rfl, h⟩ | ⟨more, rfl, h⟩ | ⟨h, no_slash, no_dot⟩ <;> rw [h]
  · rfl
  · obtain ⟨more, rfl⟩ := List.head?_eq_some_iff.1 (dot rfl)
    rfl
  · rfl
  · rcases front_cases (cs ++ rest) with ⟨more, hcs, -⟩ | ⟨hcs, -⟩ | ⟨more, hcs, -⟩ | ⟨hfront, -⟩
    · obtain ⟨c, cs, rfl⟩ := List.exists_cons_of_ne_nil nonempty
      cases hcs
      exact absurd rfl (no_slash cs)
    · obtain ⟨c, cs, rfl⟩ := List.exists_cons_of_ne_nil nonempty
      obtain ⟨rfl, hnil⟩ := List.cons.inj hcs
      rw [(List.append_eq_nil_iff.1 hnil).1] at h
      cases h
    · obtain ⟨c, cs, rfl⟩ := List.exists_cons_of_ne_nil nonempty
      obtain ⟨rfl, hmore⟩ := List.cons.inj hcs
      cases cs with
      | nil => cases h
      | cons d cs =>
        obtain ⟨rfl, -⟩ := List.cons.inj hmore
        exact absurd rfl (no_dot cs)
    · exact hfront

theorem front_suffix (cs : List Char) : (front cs).2 <:+ cs := by
  rcases front_cases cs with ⟨rest, rfl, h⟩ | ⟨rfl, h⟩ | ⟨rest, rfl, h⟩ | ⟨h, -⟩
  · exact h ▸ List.suffix_cons ..
  · exact h ▸ List.nil_suffix
  · exact h ▸ List.suffix_cons ..
  · exact ⟨[], by rw [h, List.nil_append]⟩

/-- Behind the front the joined name stands last, and before it what the path has there. -/
theorem front_join (base : String) (entry : Entry n) :
    (front (join base n).toList).1 = (front base.toList).1 ∧
      ∃ before, segments (front (join base n).toList).2 = before ++ [n.toList] ∧
        dropIdleEnd before = body (front base.toList).2 := by
  have hn : segments n.toList = [n.toList] := segments_of_notMem entry.no_slash
  unfold join
  rw [entry.relative, Bool.false_or]
  split
  · rename_i hempty
    have hfront : front n.toList = ([], n.toList) := by
      rcases front_cases n.toList with ⟨rest, hcs, -⟩ | ⟨hcs, -⟩ | ⟨rest, hcs, -⟩ | ⟨h, -⟩
      · exact absurd (by simp [hcs]) entry.no_slash
      · exact absurd entry.not_idle (by simp [hcs, isIdle])
      · exact absurd (by simp [hcs]) entry.no_slash
      · exact h
    rw [String.isEmpty_iff.1 hempty, hfront]
    exact ⟨rfl, [], hn, rfl⟩
  rename_i hsome
  have hbase : base.toList ≠ [] := fun h => hsome (String.isEmpty_iff.2 (String.toList_eq_nil_iff.1 h))
  split
  · rename_i hslash
    obtain ⟨b, hb⟩ := List.getLast?_eq_some_iff.1 (beq_iff_eq.1 hslash)
    have hdot : base.toList ≠ ['.'] := by
      rw [hb]
      intro h
      have := congrArg List.getLast? h
      simp at this
    rw [String.toList_append, front_append hbase fun h => absurd h hdot]
    refine ⟨rfl, ?_⟩
    have hsuffix : (front base.toList).2 <:+ b ++ ['/'] := hb ▸ front_suffix base.toList
    rcases List.suffix_concat_iff.1 hsuffix with hnil | ⟨more, hmore, -⟩
    · rw [hnil]
      exact ⟨[], hn, rfl⟩
    · rw [hmore]
      refine ⟨segments more, ?_, ?_⟩
      · rw [List.append_assoc, List.singleton_append, segments_append, hn]
      · rw [body, segments_append]
        simp [dropIdleEnd, segments, isIdle]
  · rw [String.toList_append, String.toList_append, List.append_assoc, front_append hbase fun _ => rfl]
    exact ⟨rfl, segments (front base.toList).2, (segments_append _ _).trans (hn ▸ rfl), rfl⟩

theorem fileName?_join (entry : Entry n) : fileName? (join base n) = some n := by
  obtain ⟨-, before, hsegs, -⟩ := front_join base entry
  have hup : (n.toList == ['.', '.']) = false := by
    simpa using fun heq => entry.not_up (String.toList_inj.1 heq)
  simp [fileName?, body, hsegs, dropIdleEnd_concat entry.not_idle, hup]

/-- The directory above an entry is the one that it was joined to. -/
theorem parent?_join (entry : Entry n) : parent? (join base n) = some (tidy base) := by
  obtain ⟨hfront, before, hsegs, hbefore⟩ := front_join base entry
  simp [parent?, tidy, body, hsegs, dropIdleEnd_concat entry.not_idle, hfront, hbefore]

theorem isAbsolute_tidy (base : String) : isAbsolute (tidy base) = isAbsolute base := by
  have entry : Entry "a" := ⟨by decide, by decide, by decide⟩
  have hnames : named (join base "a").toList ≠ [] := by simp [named_join entry]
  rw [isAbsolute_parent? (parent?_join entry) hnames, isAbsolute_join entry.relative]

theorem tidy_eq_empty (h : tidy base = "") : base = "" := by
  have hnil := congrArg String.toList h
  rw [tidy, toList_ofSegments] at hnil
  obtain ⟨hhead, hnone⟩ := List.append_eq_nil_iff.1 hnil
  rcases front_cases base.toList with ⟨_, -, hf⟩ | ⟨-, hf⟩ | ⟨_, -, hf⟩ | ⟨hf, no_slash, no_dot⟩ <;>
    rw [hf] at hhead hnone
  · cases hhead
  · cases hhead
  · cases hhead
  · obtain ⟨first, more, hsegs⟩ := List.exists_cons_of_ne_nil (segments_ne_nil base.toList)
    have hfirst : first = [] := by
      have hmore := filter_dropIdleEnd (first :: more)
      rw [body, hsegs] at hnone
      rcases List.prefix_cons_iff.1 (isPrefix_dropIdleEnd (first :: more)) with hdrop | ⟨others, hdrop, -⟩
      · rw [hdrop] at hmore
        have hidle : isIdle first = true := by
          by_contra hbusy
          simp [hbusy] at hmore
        rcases Bool.or_eq_true_iff.1 hidle with hempty | hdot
        · exact List.isEmpty_iff.1 hempty
        · rcases segments_eq_cons hsegs with ⟨hcs, -⟩ | ⟨rest, hcs⟩ <;> rw [beq_iff_eq.1 hdot] at hcs
          · rw [hcs] at hf
            cases hf
          · exact absurd hcs (no_dot rest)
      · rw [hdrop] at hnone
        cases others <;> simp_all [List.intercalate]
    rcases segments_eq_cons hsegs with ⟨hcs, -⟩ | ⟨rest, hcs⟩
    · exact String.toList_eq_nil_iff.1 (hcs.trans hfirst)
    · rw [hfirst] at hcs
      exact absurd hcs (no_slash rest)

end Path

end CodeSearch
