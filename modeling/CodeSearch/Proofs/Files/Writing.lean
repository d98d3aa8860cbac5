import CodeSearch.Proofs.Files.Masks

/-!
# New files

A file that was put where nothing was is found at its path from then on. The way there is the same as before: no
directory and no link on it has changed.
-/

namespace CodeSearch

namespace Files

variable {root root' t t' s : Tree} {links : Nat} {here place segs : List Name} {seg : Name} {content target : Bytes}
  {mode : Nat} {follow : Bool}

/-- Whatever a walk starts from that ends where nothing is, is a directory. -/
theorem isDir_of_walk_none (h : walk root follow links here segs = .ok ⟨place, none⟩) (there : root.at? here = some s) :
    s.isDir = true := by
  cases segs with
  | nil =>
    obtain ⟨-, hnone⟩ := Found.mk.inj (Except.ok.inj (walk_nil.symm.trans h))
    rw [there] at hnone
    cases hnone
  | cons seg rest =>
    obtain ⟨s', hs', hdir⟩ := exists_dir_of_walk h
    rw [there, Option.some.injEq] at hs'
    exact hs' ▸ hdir

theorem child?_link_of_kept (kept : ∀ q node, root.node? q = some node → root'.node? q = some node)
    (above : root.at? here = some t) (above' : root'.at? here = some t') (child : t.child? seg = some (.link target)) :
    t'.child? seg = some (.link target) := by
  have hnode := kept (here ++ [seg]) (.link target) (by rw [Tree.node?_concat above, child]; rfl)
  rw [Tree.node?_concat above'] at hnode
  obtain ⟨s, hs, hlink⟩ := Option.map_eq_some_iff.1 hnode
  cases s <;> cases hlink
  exact hs

/-- The way to a place where nothing was leads to the file that stands there afterwards. -/
theorem walk_new (h : walk root false links here segs = .ok ⟨place, none⟩) (there : (root.at? here).isSome = true)
    (busy : ∀ last ∈ segs.getLast?, isIdle last = false)
    (kept : ∀ q node, root.node? q = some node → root'.node? q = some node)
    (put : root'.at? place = some (.file content mode)) :
    walk root' true links here segs = .ok ⟨place, some (.file content mode)⟩ := by
  induction links, here, segs using walk_induction with
  | nil links here =>
    obtain ⟨rfl, hnone⟩ := Found.mk.inj (Except.ok.inj (walk_nil.symm.trans h))
    rw [hnone] at there
    cases there
  | cons links here seg rest shorter fewer =>
    obtain ⟨t, above, dir, stride⟩ := stride_of_walk h
    -- directories stay directories, so the walk takes the same way to its end
    obtain ⟨t', above', dir'⟩ := Tree.node?_eq_some_dir (kept here .dir (Tree.node?_of_isDir above dir))
    have hbusy : ∀ last ∈ rest.getLast?, isIdle last = false := by
      cases rest with
      | nil => exact nofun
      | cons next rest => simpa using busy
    cases stride with
    | idle idle next =>
      rw [walk_idle above' dir' idle]
      exact shorter here next there hbusy
    | up up next =>
      rw [up, walk_up above' dir']
      exact shorter _ next (Tree.isSome_at?_of_prefix (List.dropLast_prefix here) there) hbusy
    | missing plain child idle ends =>
      obtain ⟨rfl, -⟩ := Found.mk.inj ends
      obtain rfl : rest = [] := by
        refine List.getLast?_eq_none_iff.1 (Option.eq_none_iff_forall_ne_some.2 fun last hlast => ?_)
        have hidle := idle last (List.mem_of_getLast? hlast)
        rw [hbusy last hlast] at hidle
        cases hidle
      have hchild : t'.child? seg = some (.file content mode) := by
        simpa [Tree.at?_append, above', Tree.at?_cons] using put
      rw [walk_plain above' plain hchild nofun, walk_nil, put]
    | stop plain child ends => cases ends
    | @link fewer' target plain child next =>
      have hchild := child?_link_of_kept kept above above' child
      cases rest with
      | nil =>
        rw [walk_cons_plain above dir plain, child] at h
        cases h
      | cons following rest =>
        rw [walk_link above' plain hchild rfl]
        refine fewer _ rfl _ _ next (isSome_startOf there) fun last hlast => hbusy last ?_
        rwa [List.getLast?_append_of_ne_nil _ (List.cons_ne_nil following rest)] at hlast
    | @down _ s plain child next =>
      have hat : root.at? (here ++ [seg]) = some s := by simp [Tree.at?_append, above, Tree.at?_cons, child]
      obtain ⟨s', hs', hdir'⟩ :=
        Tree.node?_eq_some_dir (kept _ .dir (Tree.node?_of_isDir hat (isDir_of_walk_none next hat)))
      have hchild : t'.child? seg = some s' := by simpa [Tree.at?_append, above', Tree.at?_cons] using hs'
      rw [walk_plain above' plain hchild (by rintro target rfl; cases hdir')]
      exact shorter _ next (by rw [hat]; rfl) hbusy

theorem getLast?_splitOnP_append {α : Type} {p : α → Bool} (front : List α) {back : List α}
    (free : ∀ x ∈ back, p x = false) : ∃ before, ((front ++ back).splitOnP p).getLast? = some (before ++ back) := by
  induction front with
  | nil =>
    have hone : back.splitOnP p = [back] := by
      have happend := @splitOnP_append_of_all _ p back [] free
      simpa [List.splitOnP_nil] using happend
    exact ⟨[], by rw [List.nil_append, hone]; rfl⟩
  | cons x front ih =>
    obtain ⟨before, hlast⟩ := ih
    rw [List.cons_append, List.splitOnP_cons_eq_if_modifyHead]
    cases hsegs : (front ++ back).splitOnP p with
    | nil => exact absurd hsegs (List.splitOnP_ne_nil _ _)
    | cons first rest =>
      rw [hsegs] at hlast
      split
      · exact ⟨before, by rw [List.getLast?_cons_cons]; exact hlast⟩
      · cases rest with
        | nil =>
          cases hlast
          exact ⟨x :: before, rfl⟩
        | cons second rest => exact ⟨before, by simpa using hlast⟩

namespace Disk

variable {d d' : Disk} {path : String}

theorem find_create (made : d.create (Utf8.encode path) content mode = .ok d')
    (busy : ∀ last ∈ (splitPath (Utf8.encode path)).getLast?, isIdle last = false) :
    ∃ place, d.find false (Utf8.encode path) = .ok ⟨place, none⟩ ∧
      d'.find true (Utf8.encode path) = .ok ⟨place, some (.file content mode)⟩ := by
  obtain ⟨place, hfind, hput⟩ := create_spec made
  obtain ⟨above, name, t, rfl, hat, hdir⟩ := above_of_find hfind
  obtain ⟨nonempty, no_nul, hwalk⟩ := walk_of_find hfind
  have hd' : d' = { d with root := d.root.modify (fun _ => some (.file content mode)) (above ++ [name]) } := by
    unfold create at made
    rw [hfind] at made
    change (if (Utf8.encode path).getLast? == some slash then _ else _) = _ at made
    split at made <;> cases made
    rfl
  have hkept : ∀ q node, d.root.node? q = some node → d'.root.node? q = some node := by
    intro q node hq
    have hout : ¬above ++ [name] <+: q := fun hin => by
      have hsome := Tree.isSome_at?_of_prefix (t := d.root) hin (by
        obtain ⟨s, hs, -⟩ := Option.map_eq_some_iff.1 hq
        rw [hs]
        rfl)
      rw [at?_of_walk hwalk] at hsome
      cases hsome
    rw [hd']
    exact (Tree.node?_modify hat hdir).trans ((if_neg hout).trans hq)
  have hcwd : d'.cwd = d.cwd := by rw [hd']
  refine ⟨above ++ [name], hfind, ?_⟩
  rw [find_of_no_nul nonempty no_nul, hcwd]
  exact walk_new hwalk (isSome_start_of_find hfind) busy hkept hput

theorem look_create (made : d.create (Utf8.encode path) content mode = .ok d')
    (busy : ∀ last ∈ (splitPath (Utf8.encode path)).getLast?, isIdle last = false) :
    d'.look (Utf8.encode path) = .ok (.file content mode) := by
  obtain ⟨place, -, hfound⟩ := find_create made busy
  rw [look, hfound]
  rfl

end Disk

end Files

end CodeSearch
