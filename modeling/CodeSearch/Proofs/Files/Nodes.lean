import Mathlib.Data.List.Nodup
import CodeSearch.Files.Tree

/-!
# What stands where

A tree is seen through its places: `node?` is what stands at a path of names, links not followed. Trees with
the same nodes differ at most in the order in which their directories enumerate the entries.
-/

namespace CodeSearch.Files

/-- What stands at a place, without what is below it. -/
inductive Node where
  | file (content : Bytes) (mode : Nat)
  | link (target : Bytes)
  | dir
  deriving DecidableEq

namespace Tree

def node : Tree → Node
  | .file content mode => .file content mode
  | .link target => .link target
  | .dir _ => .dir

def node? (t : Tree) (path : List Name) : Option Node := (t.at? path).map node

def Same (t s : Tree) : Prop := ∀ path, t.node? path = s.node? path

/-- In every directory each name stands once, and no name holds a slash. -/
def Proper (t : Tree) : Prop :=
  ∀ path entries, t.at? path = some (.dir entries) →
    (entries.map (·.1)).Nodup ∧ ∀ e ∈ entries, slash ∉ e.1

/-- What holds of a directory when it holds of all its entries, and of everything else, holds of every
tree. -/
theorem induction {motive : Tree → Prop} (file : ∀ content mode, motive (.file content mode))
    (link : ∀ target, motive (.link target))
    (dir : ∀ entries, (∀ e ∈ entries, motive e.2) → motive (.dir entries)) : ∀ t, motive t
  | .file content mode => file content mode
  | .link target => link target
  | .dir entries => dir entries fun e _he => induction file link dir e.2
termination_by t => sizeOf t
decreasing_by
  have hentry := List.sizeOf_lt_of_mem _he
  have hpair : sizeOf e.2 < sizeOf e := by
    cases e
    simp only [Prod.mk.sizeOf_spec]
    omega
  simp only [Tree.dir.sizeOf_spec]
  omega

variable {t s : Tree} {name : Name} {path more : List Name}

@[simp] theorem at?_nil : t.at? [] = some t := rfl

theorem at?_cons : t.at? (name :: path) = (t.child? name).bind fun s => s.at? path := rfl

theorem at?_append : t.at? (path ++ more) = (t.at? path).bind fun s => s.at? more := by
  induction path generalizing t with
  | nil => rfl
  | cons name path ih =>
    rw [List.cons_append, at?_cons, at?_cons, Option.bind_assoc]
    cases t.child? name with
    | none => rfl
    | some s => exact ih

theorem mem_of_child? (h : t.child? name = some s) : (name, s) ∈ t.entries := by
  obtain ⟨e, he, rfl⟩ := Option.map_eq_some_iff.1 h
  have hname : e.1 = name := by simpa using List.find?_some he
  exact hname ▸ List.mem_of_find?_eq_some he

theorem child?_of_mem (distinct : (t.entries.map (·.1)).Nodup) (h : (name, s) ∈ t.entries) :
    t.child? name = some s := by
  obtain ⟨e, he⟩ : ∃ e, t.entries.find? (·.1 == name) = some e := by
    rw [← Option.isSome_iff_exists, List.find?_isSome]
    exact ⟨_, h, by simp⟩
  have hname : e.1 = name := by simpa using List.find?_some he
  have hsame : e = (name, s) :=
    List.inj_on_of_nodup_map distinct (List.mem_of_find?_eq_some he) h hname
  rw [child?, he, hsame]
  rfl

theorem isDir_iff : t.isDir = true ↔ ∃ entries, t = .dir entries := by
  cases t <;> simp [isDir]

theorem child?_eq_none_of_not_isDir (h : t.isDir = false) : t.child? name = none := by
  cases t with
  | dir entries => cases h
  | _ => rfl

theorem isDir_of_at?_append (above : t.at? path = some s) (below : (t.at? (path ++ more)).isSome = true)
    (strict : more ≠ []) : s.isDir = true := by
  obtain ⟨name, more, rfl⟩ := List.exists_cons_of_ne_nil strict
  rw [at?_append, above] at below
  cases hdir : s.isDir with
  | true => rfl
  | false =>
    simp [at?_cons, child?_eq_none_of_not_isDir hdir] at below

theorem isSome_at?_of_prefix (above : path <+: more) (h : (t.at? more).isSome = true) :
    (t.at? path).isSome = true := by
  obtain ⟨rest, rfl⟩ := above
  rw [at?_append] at h
  cases hpath : t.at? path with
  | none => simp [hpath] at h
  | some s => rfl

theorem Proper.child (proper : t.Proper) (h : t.child? name = some s) : s.Proper := by
  intro path entries hpath
  refine proper (name :: path) entries ?_
  rw [at?_cons, h]
  exact hpath

theorem Proper.distinct (proper : t.Proper) : (t.entries.map (·.1)).Nodup := by
  cases t with
  | dir entries => exact (proper [] entries rfl).1
  | _ => exact List.nodup_nil

theorem Proper.child?_eq_some_iff (proper : t.Proper) : t.child? name = some s ↔ (name, s) ∈ t.entries :=
  ⟨mem_of_child?, child?_of_mem proper.distinct⟩

theorem proper_file {content : Bytes} {mode : Nat} : (Tree.file content mode).Proper := by
  intro path entries h
  cases path <;> cases h

theorem proper_link {target : Bytes} : (Tree.link target).Proper := by
  intro path entries h
  cases path <;> cases h

theorem proper_dir {entries : List (Name × Tree)} (distinct : (entries.map (·.1)).Nodup)
    (plain : ∀ e ∈ entries, slash ∉ e.1) (below : ∀ e ∈ entries, e.2.Proper) : (Tree.dir entries).Proper := by
  intro path entries' h
  cases path with
  | nil =>
    cases h
    exact ⟨distinct, plain⟩
  | cons name path =>
    obtain ⟨s, hchild, hpath⟩ := Option.bind_eq_some_iff.1 h
    exact below _ (mem_of_child? hchild) path entries' hpath

theorem Proper.slash_notMem (proper : t.Proper) (h : t.at? path = some s) : ∀ name ∈ path, slash ∉ name := by
  induction path generalizing t with
  | nil => simp
  | cons name path ih =>
    rw [at?_cons, Option.bind_eq_some_iff] at h
    obtain ⟨r, hchild, hpath⟩ := h
    have hname : slash ∉ name := by
      cases t with
      | dir entries => exact (proper [] entries rfl).2 _ (mem_of_child? hchild)
      | file content mode => cases hchild
      | link target => cases hchild
    intro other hother
    rcases List.mem_cons.1 hother with rfl | hother
    · exact hname
    · exact ih (proper.child hchild) hpath other hother

theorem node?_eq_some_file_iff {content : Bytes} {mode : Nat} :
    t.node? path = some (.file content mode) ↔ t.at? path = some (.file content mode) := by
  rw [node?, Option.map_eq_some_iff]
  constructor
  · rintro ⟨s, hs, hnode⟩
    cases s <;> cases hnode
    exact hs
  · intro h
    exact ⟨_, h, rfl⟩

variable {r : Tree} {other seg : Name} {here q : List Name}

/-! ## After a change -/

theorem isDir_of_child? (h : t.child? name = some s) : t.isDir = true := by
  cases hdir : t.isDir with
  | true => rfl
  | false => simp [child?_eq_none_of_not_isDir hdir] at h

theorem node_eq_dir_iff : t.node = .dir ↔ t.isDir = true := by
  cases t <;> simp [node, isDir]

theorem find?_replace {entries : List (Name × Tree)} :
    (entries.map fun e => if e.1 == name then (name, s) else e).find? (·.1 == other) =
      (entries.find? (·.1 == other)).map fun e => if other = name then (name, s) else e := by
  induction entries with
  | nil => rfl
  | cons e entries ih =>
    rw [List.map_cons, List.find?_cons, List.find?_cons, ih]
    by_cases hname : e.1 = name
    · subst hname
      cases hother : e.1 == other with
      | true => simp [(beq_iff_eq.1 hother)]
      | false => simp [hother]
    · cases hother : e.1 == other with
      | true => simp [hname, ← beq_iff_eq.1 hother]
      | false => simp [hname, hother]

theorem setChild_of_any (h : t.entries.any (·.1 == name) = true) :
    t.setChild name (some s) = .dir (t.entries.map fun e => if e.1 == name then (name, s) else e) :=
  if_pos h

theorem setChild_of_not_any (h : ¬t.entries.any (·.1 == name) = true) :
    t.setChild name (some s) = .dir (t.entries ++ [(name, s)]) := if_neg h

theorem child?_setChild :
    (t.setChild name (some s)).child? other = if other = name then some s else t.child? other := by
  by_cases hany : t.entries.any (·.1 == name) = true
  · rw [setChild_of_any hany, child?, entries, find?_replace]
    split
    · rename_i h
      subst h
      obtain ⟨e, he, hname⟩ := List.any_eq_true.1 hany
      obtain ⟨found, hfound⟩ : ∃ found, t.entries.find? (·.1 == other) = some found :=
        Option.isSome_iff_exists.1 (List.find?_isSome.2 ⟨e, he, hname⟩)
      rw [hfound]
      rfl
    · rw [child?, Option.map_map]
      rfl
  · have hnone : t.entries.find? (·.1 == name) = none :=
      List.find?_eq_none.2 fun e he hname => hany (List.any_eq_true.2 ⟨e, he, hname⟩)
    rw [setChild_of_not_any hany, child?, child?, entries, List.find?_append]
    by_cases h : other = name
    · subst h
      simp [hnone]
    · simp [Ne.symm h, h]

theorem isDir_setChild : (t.setChild name (some s)).isDir = true := by
  by_cases hany : t.entries.any (·.1 == name) = true
  · rw [setChild_of_any hany]
    rfl
  · rw [setChild_of_not_any hany]
    rfl

theorem modify_cons {change : Option Tree → Option Tree} (h : path ≠ []) :
    t.modify change (name :: path) =
      match t.child? name with
      | some s => t.setChild name (some (s.modify change path))
      | none => t := by
  cases path with
  | nil => exact absurd rfl h
  | cons => rfl

theorem node?_eq_some_dir (h : t.node? path = some .dir) : ∃ s, t.at? path = some s ∧ s.isDir = true := by
  obtain ⟨s, hs, hnode⟩ := Option.map_eq_some_iff.1 h
  exact ⟨s, hs, node_eq_dir_iff.1 hnode⟩

theorem node?_of_isDir (above : t.at? path = some s) (dir : s.isDir = true) : t.node? path = some .dir := by
  rw [node?, above, Option.map_some, node_eq_dir_iff.2 dir]

theorem node?_concat (above : t.at? path = some s) : t.node? (path ++ [name]) = (s.child? name).map node := by
  rw [node?, at?_append, above]
  simp [at?_cons]

theorem node?_nil : t.node? [] = some t.node := rfl

theorem node?_cons : t.node? (name :: path) = (t.child? name).bind fun s => s.node? path := by
  rw [node?, at?_cons, Option.map_bind]
  rfl

/-- What is put into a directory stands there, and everything else where it stood. -/
theorem node?_modify (above : t.at? here = some r) (dir : r.isDir = true) :
    (t.modify (fun _ => some s) (here ++ [seg])).node? q =
      if here ++ [seg] <+: q then s.node? (q.drop (here.length + 1)) else t.node? q := by
  induction here generalizing t q with
  | nil =>
    cases above
    cases q with
    | nil => simp [modify, node?_nil, node_eq_dir_iff.2 dir, node_eq_dir_iff.2 isDir_setChild]
    | cons name q =>
      simp only [List.nil_append, modify, node?_cons, child?_setChild]
      by_cases h : name = seg
      · simp [h]
      · simp [h, Ne.symm h]
  | cons name here ih =>
    obtain ⟨u, hu, hbelow⟩ := Option.bind_eq_some_iff.1 above
    have hmodify : t.modify (fun _ => some s) (name :: (here ++ [seg])) =
        t.setChild name (some (u.modify (fun _ => some s) (here ++ [seg]))) := by
      rw [modify_cons (by simp), hu]
    rw [List.cons_append, hmodify]
    cases q with
    | nil => simp [node?_nil, node_eq_dir_iff.2 (isDir_of_child? hu), node_eq_dir_iff.2 isDir_setChild]
    | cons other q =>
      rw [node?_cons, node?_cons, child?_setChild]
      by_cases h : other = name
      · subst h
        simp [hu, ih hbelow]
      · simp [h, Ne.symm h]

end Tree

end CodeSearch.Files
