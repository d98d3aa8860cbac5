import CodeSearch.Proofs.Files.Nodes

/-!
# Following paths

What one segment of a path does to a walk through a tree.
-/

namespace CodeSearch.Files

structure PlainName (seg : Name) : Prop where
  not_idle : isIdle seg = false
  not_up : (seg == dotDotName) = false
  short : seg.length ≤ maxName

theorem PlainName.not_isIdle {seg : Name} (plain : PlainName seg) : ¬isIdle seg = true := by
  rw [plain.not_idle]
  exact Bool.false_ne_true

variable {root t s : Tree} {follow : Bool} {links : Nat} {here : List Name} {seg : Name} {rest : List Name}

theorem walk_nil : walk root follow links here [] = .ok ⟨here, root.at? here⟩ := by
  cases links <;> rfl

theorem walkSegments_cons {jump : List Name → List Name → Except FileError Found} (above : root.at? here = some t)
    (dir : t.isDir = true) :
    walkSegments root follow jump here (seg :: rest) =
      if isIdle seg then walkSegments root follow jump here rest
      else if seg == dotDotName then walkSegments root follow jump here.dropLast rest
      else if maxName < seg.length then .error .nameTooLong
      else
        match t.child? seg with
        | none => if rest.all isIdle then .ok ⟨here ++ [seg], none⟩ else .error .notFound
        | some (.link target) =>
          if !follow && rest.isEmpty then .ok ⟨here ++ [seg], some (.link target)⟩
          else jump (startOf target here) (splitPath target ++ rest)
        | some _ => walkSegments root follow jump (here ++ [seg]) rest := by
  have hdir : ¬(!t.isDir) = true := by simp [dir]
  rw [walkSegments, above]
  exact if_neg hdir

theorem walk_cons (above : root.at? here = some t) (dir : t.isDir = true) :
    walk root follow links here (seg :: rest) =
      if isIdle seg then walk root follow links here rest
      else if seg == dotDotName then walk root follow links here.dropLast rest
      else if maxName < seg.length then .error .nameTooLong
      else
        match t.child? seg with
        | none => if rest.all isIdle then .ok ⟨here ++ [seg], none⟩ else .error .notFound
        | some (.link target) =>
          if !follow && rest.isEmpty then .ok ⟨here ++ [seg], some (.link target)⟩
          else
            match links with
            | 0 => .error .tooManyLinks
            | fewer + 1 => walk root follow fewer (startOf target here) (splitPath target ++ rest)
        | some _ => walk root follow links (here ++ [seg]) rest := by
  cases links with
  | zero => exact walkSegments_cons above dir
  | succ fewer => exact walkSegments_cons above dir

theorem walk_idle (above : root.at? here = some t) (isDir : t.isDir = true) (idle : isIdle seg = true) :
    walk root follow links here (seg :: rest) = walk root follow links here rest := by
  rw [walk_cons above isDir, if_pos idle]

theorem walk_up (above : root.at? here = some t) (isDir : t.isDir = true) :
    walk root follow links here (dotDotName :: rest) = walk root follow links here.dropLast rest := by
  rw [walk_cons above isDir, if_neg (by decide), if_pos (by decide)]

theorem walk_long (above : root.at? here = some t) (isDir : t.isDir = true) (long : maxName < seg.length) :
    walk root follow links here (seg :: rest) = .error .nameTooLong := by
  have hidle : ¬isIdle seg = true := by
    intro h
    rcases Bool.or_eq_true_iff.1 h with h | h
    · rw [List.isEmpty_iff.1 h] at long
      cases long
    · rw [beq_iff_eq.1 h] at long
      exact absurd long (by decide)
  have hup : ¬(seg == dotDotName) = true := by
    intro h
    rw [beq_iff_eq.1 h] at long
    exact absurd long (by decide)
  rw [walk_cons above isDir, if_neg hidle, if_neg hup, if_pos long]

theorem walk_cons_plain (above : root.at? here = some t) (isDir : t.isDir = true) (plain : PlainName seg) :
    walk root follow links here (seg :: rest) =
      match t.child? seg with
      | none => if rest.all isIdle then .ok ⟨here ++ [seg], none⟩ else .error .notFound
      | some (.link target) =>
        if !follow && rest.isEmpty then .ok ⟨here ++ [seg], some (.link target)⟩
        else
          match links with
          | 0 => .error .tooManyLinks
          | fewer + 1 => walk root follow fewer (startOf target here) (splitPath target ++ rest)
      | some _ => walk root follow links (here ++ [seg]) rest := by
  rw [walk_cons above isDir, if_neg plain.not_isIdle, if_neg (by simp [plain.not_up]),
    if_neg (Nat.not_lt.2 plain.short)]

theorem walk_plain (above : root.at? here = some t) (plain : PlainName seg) (child : t.child? seg = some s)
    (not_link : ∀ target, s ≠ .link target) :
    walk root follow links here (seg :: rest) = walk root follow links (here ++ [seg]) rest := by
  rw [walk_cons_plain above (Tree.isDir_of_child? child) plain, child]
  cases s with
  | link target => exact absurd rfl (not_link target)
  | _ => rfl

theorem walk_link {target : Bytes} (above : root.at? here = some t) (plain : PlainName seg)
    (child : t.child? seg = some (.link target)) (goes : (!follow && rest.isEmpty) = false) :
    walk root follow (links + 1) here (seg :: rest) =
      walk root follow links (startOf target here) (splitPath target ++ rest) := by
  simp only [walk_cons_plain above (Tree.isDir_of_child? child) plain, child, goes, Bool.false_eq_true, if_false]

/-- What holds of no segments, and of some when it holds of fewer of them and, with fewer links, of any. -/
theorem walk_induction {motive : Nat → List Name → List Name → Prop}
    (nil : ∀ links here, motive links here [])
    (cons : ∀ links here seg rest, (∀ here, motive links here rest) →
      (∀ fewer, links = fewer + 1 → ∀ here segs, motive fewer here segs) → motive links here (seg :: rest))
    (links : Nat) (here segs : List Name) : motive links here segs := by
  induction links generalizing here segs with
  | zero =>
    induction segs generalizing here with
    | nil => exact nil 0 here
    | cons seg rest ih => exact cons 0 here seg rest ih nofun
  | succ links fewer =>
    induction segs generalizing here with
    | nil => exact nil _ here
    | cons seg rest ih => exact cons _ here seg rest ih fun _ h => Nat.succ.inj h ▸ fewer

/-- How a walk comes over a first segment to where it ends. -/
inductive Stride (root : Tree) (follow : Bool) (t : Tree) (here : List Name) (seg : Name)
    (rest : List Name) (found : Found) : Nat → Prop
  | idle {links : Nat} (idle : isIdle seg = true) (next : walk root follow links here rest = .ok found) :
      Stride root follow t here seg rest found links
  | up {links : Nat} (up : seg = dotDotName) (next : walk root follow links here.dropLast rest = .ok found) :
      Stride root follow t here seg rest found links
  | missing {links : Nat} (plain : PlainName seg) (child : t.child? seg = none)
      (idle : ∀ other ∈ rest, isIdle other = true) (ends : found = ⟨here ++ [seg], none⟩) :
      Stride root follow t here seg rest found links
  | stop {links : Nat} {target : Bytes} (plain : PlainName seg) (child : t.child? seg = some (.link target))
      (ends : found = ⟨here ++ [seg], some (.link target)⟩) : Stride root follow t here seg rest found links
  | link {fewer : Nat} {target : Bytes} (plain : PlainName seg) (child : t.child? seg = some (.link target))
      (next : walk root follow fewer (startOf target here) (splitPath target ++ rest) = .ok found) :
      Stride root follow t here seg rest found (fewer + 1)
  | down {links : Nat} {s : Tree} (plain : PlainName seg) (child : t.child? seg = some s)
      (next : walk root follow links (here ++ [seg]) rest = .ok found) :
      Stride root follow t here seg rest found links

theorem exists_dir_of_walk {found : Found} (h : walk root follow links here (seg :: rest) = .ok found) :
    ∃ t, root.at? here = some t ∧ t.isDir = true := by
  cases habove : root.at? here with
  | none => cases links <;> simp only [walk, walkSegments, habove, reduceCtorEq] at h
  | some t =>
    cases hdir : t.isDir with
    | true => exact ⟨t, rfl, hdir⟩
    | false =>
      cases links <;> simp only [walk, walkSegments, habove, hdir, Bool.not_false, if_true, reduceCtorEq] at h

theorem stride_of_walk {found : Found} (h : walk root follow links here (seg :: rest) = .ok found) :
    ∃ t, root.at? here = some t ∧ t.isDir = true ∧ Stride root follow t here seg rest found links := by
  obtain ⟨t, above, dir⟩ := exists_dir_of_walk h
  refine ⟨t, above, dir, ?_⟩
  rw [walk_cons above dir] at h
  split at h
  · exact .idle ‹_› h
  split at h
  · exact .up (beq_iff_eq.1 ‹_›) h
  split at h
  · cases h
  rename_i hidle hup hlong
  have plain : PlainName seg := ⟨by simpa using hidle, by simpa using hup, Nat.not_lt.1 hlong⟩
  split at h
  · split at h <;> cases h
    exact .missing plain ‹_› (List.all_eq_true.1 ‹_›) rfl
  · split at h
    · cases h
      exact .stop plain ‹_› rfl
    · cases links with
      | zero => cases h
      | succ fewer => exact .link plain ‹_› h
  · exact .down plain ‹_› h

theorem at?_of_walk {found : Found} (h : walk root follow links here rest = .ok found) :
    root.at? found.path = found.tree := by
  induction links, here, rest using walk_induction with
  | nil links here =>
    cases walk_nil.symm.trans h
    rfl
  | cons links here seg rest shorter fewer =>
    obtain ⟨t, above, dir, stride⟩ := stride_of_walk h
    cases stride with
    | idle _ next | up _ next | down _ _ next => exact shorter _ next
    | link _ _ next => exact fewer _ rfl _ _ next
    | missing _ child _ ends | stop _ child ends => simp [ends, Tree.at?_append, above, Tree.at?_cons, child]

theorem isSome_startOf {target : Bytes} (there : (root.at? here).isSome = true) :
    (root.at? (startOf target here)).isSome = true := by
  unfold startOf
  split
  · rfl
  · exact there

/-- Where a walk ends at nothing, the directory above is there. -/
theorem above_of_walk {found : Found} (h : walk root follow links here rest = .ok found)
    (there : (root.at? here).isSome = true) (ends : found.tree = none) :
    ∃ above name t, found.path = above ++ [name] ∧ root.at? above = some t ∧ t.isDir = true := by
  induction links, here, rest using walk_induction with
  | nil links here =>
    cases walk_nil.symm.trans h
    simp only at ends
    simp [ends] at there
  | cons links here seg rest shorter fewer =>
    obtain ⟨t, above, dir, stride⟩ := stride_of_walk h
    cases stride with
    | idle _ next => exact shorter _ next there
    | up _ next => exact shorter _ next (Tree.isSome_at?_of_prefix (List.dropLast_prefix here) there)
    | down _ child next =>
      refine shorter _ next ?_
      simp [Tree.at?_append, above, Tree.at?_cons, child]
    | link _ _ next => exact fewer _ rfl _ _ next (isSome_startOf there)
    | missing _ _ _ place => exact ⟨here, seg, t, by rw [place], above, dir⟩
    | stop _ _ place =>
      rw [place] at ends
      cases ends

end CodeSearch.Files
