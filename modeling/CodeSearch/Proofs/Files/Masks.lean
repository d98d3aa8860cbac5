import CodeSearch.Proofs.Files.Making

/-!
# Masked files

A disk on which the files at some places are emptied. Nothing that finds its way by a path or makes something
new can tell it from the disk itself: only to read such a file would.
-/

namespace CodeSearch.Files

namespace Tree

/-- The tree with the files at some places emptied. -/
def mask (hidden : List Name → Bool) : Tree → Tree
  | .file content mode => .file (if hidden [] then [] else content) mode
  | .link target => .link target
  | .dir entries => .dir (maskEntries hidden entries)
where
  maskEntries (hidden : List Name → Bool) : List (Name × Tree) → List (Name × Tree)
  | [] => []
  | (name, t) :: rest => (name, mask (fun path => hidden (name :: path)) t) :: maskEntries hidden rest

variable {hidden : List Name → Bool} {t s : Tree} {name : Name} {path : List Name}

theorem maskEntries_eq (entries : List (Name × Tree)) :
    mask.maskEntries hidden entries = entries.map fun e => (e.1, e.2.mask fun path => hidden (e.1 :: path)) := by
  induction entries with
  | nil => rfl
  | cons e entries ih =>
    rw [mask.maskEntries, ih]
    rfl

theorem mask_dir (entries : List (Name × Tree)) :
    (Tree.dir entries).mask hidden =
      .dir (entries.map fun e => (e.1, e.2.mask fun path => hidden (e.1 :: path))) := by
  rw [mask, maskEntries_eq]

theorem entries_mask (t : Tree) :
    (t.mask hidden).entries = t.entries.map fun e => (e.1, e.2.mask fun path => hidden (e.1 :: path)) := by
  cases t with
  | dir entries =>
    rw [mask_dir]
    rfl
  | _ => rfl

@[simp] theorem isDir_mask (t : Tree) : (t.mask hidden).isDir = t.isDir := by
  cases t <;> rfl

theorem child?_mask (t : Tree) (name : Name) :
    (t.mask hidden).child? name = (t.child? name).map fun s => s.mask fun path => hidden (name :: path) := by
  rw [child?, entries_mask, List.find?_map, child?, Option.map_map, Option.map_map]
  change Option.map _ (t.entries.find? (·.1 == name)) = _
  apply Option.map_congr
  intro e he
  have hname : e.1 = name := by simpa using List.find?_some he
  rw [← hname]
  rfl

theorem at?_mask (t : Tree) (path : List Name) :
    (t.mask hidden).at? path = (t.at? path).map fun s => s.mask fun more => hidden (path ++ more) := by
  induction path generalizing t hidden with
  | nil => rfl
  | cons name path ih =>
    rw [at?_cons, at?_cons, child?_mask]
    cases t.child? name with
    | none => rfl
    | some s => exact ih s

theorem mask_setChild (t : Tree) (name : Name) (s : Tree) :
    (t.setChild name (some s)).mask hidden =
      (t.mask hidden).setChild name (some (s.mask fun path => hidden (name :: path))) := by
  have hany : (t.mask hidden).entries.any (·.1 == name) = t.entries.any (·.1 == name) := by
    rw [entries_mask, List.any_map]
    rfl
  by_cases h : t.entries.any (·.1 == name) = true
  · rw [setChild_of_any h, setChild_of_any (hany.trans h), mask_dir, entries_mask, List.map_map, List.map_map]
    refine congrArg Tree.dir (List.map_congr_left fun e _ => ?_)
    by_cases hname : e.1 = name <;> simp [hname]
  · rw [setChild_of_not_any h, setChild_of_not_any (hany ▸ h), mask_dir, entries_mask, List.map_append]
    rfl

theorem mask_setChild_none (t : Tree) (name : Name) :
    (t.setChild name none).mask hidden = (t.mask hidden).setChild name none := by
  rw [setChild, setChild, mask_dir, entries_mask, List.filter_map]
  rfl

/-- To change a place and to mask commute, when the change commutes with the mask there. -/
theorem mask_modify {change change' : Option Tree → Option Tree} {path : List Name} {t : Tree}
    (h : ∀ o : Option Tree, (change o).map (fun s => s.mask fun more => hidden (path ++ more)) =
      change' (o.map fun s => s.mask fun more => hidden (path ++ more))) :
    (t.modify change path).mask hidden = (t.mask hidden).modify change' path := by
  induction path generalizing t hidden with
  | nil =>
    have hsome : (change (some t)).map (mask hidden) = change' (some (t.mask hidden)) := h (some t)
    rw [modify, modify, ← hsome]
    cases change (some t) <;> rfl
  | cons name path ih =>
    cases path with
    | nil =>
      have hchild : (change (t.child? name)).map (fun s => s.mask fun path => hidden (name :: path)) =
          change' ((t.child? name).map fun s => s.mask fun path => hidden (name :: path)) := h (t.child? name)
      rw [modify, modify, child?_mask, ← hchild]
      cases change (t.child? name) with
      | none => exact mask_setChild_none t name
      | some s => exact mask_setChild t name s
    | cons next path =>
      rw [modify_cons (List.cons_ne_nil next path), modify_cons (List.cons_ne_nil next path), child?_mask]
      cases t.child? name with
      | none => rfl
      | some s =>
        have hbelow : (s.modify change (next :: path)).mask (fun more => hidden (name :: more)) =
            (s.mask fun more => hidden (name :: more)).modify change' (next :: path) := ih h
        simp only [Option.map_some]
        rw [mask_setChild, hbelow]

theorem mask_put : (t.modify (fun _ => some s) path).mask hidden =
    (t.mask hidden).modify (fun _ => some (s.mask fun more => hidden (path ++ more))) path :=
  mask_modify fun _ => rfl

end Tree

/-! ## Following paths -/

def Found.mask (hidden : List Name → Bool) (found : Found) : Found :=
  ⟨found.path, found.tree.map fun s => s.mask fun more => hidden (found.path ++ more)⟩

variable {hidden : List Name → Bool} {root t : Tree} {follow : Bool} {links : Nat} {here rest : List Name} {seg : Name}

theorem walk_nothing (h : root.at? here = none) :
    walk root follow links here (seg :: rest) = .error .notFound := by
  cases links <;> simp only [walk, walkSegments, h]

theorem walk_no_dir (above : root.at? here = some t) (h : t.isDir = false) :
    walk root follow links here (seg :: rest) = .error .notDirectory := by
  cases links <;> simp only [walk, walkSegments, above, h, Bool.not_false, if_true]

theorem walk_mask (root : Tree) (follow : Bool) (links : Nat) (here segs : List Name) :
    walk (root.mask hidden) follow links here segs = (walk root follow links here segs).map (Found.mask hidden) := by
  induction links, here, segs using walk_induction with
  | nil links here =>
    rw [walk_nil, walk_nil, Tree.at?_mask]
    rfl
  | cons links here seg rest shorter fewer =>
    cases above : root.at? here with
    | none =>
      have habove : (root.mask hidden).at? here = none := by rw [Tree.at?_mask, above]; rfl
      rw [walk_nothing above, walk_nothing habove]
      rfl
    | some t =>
      have habove : (root.mask hidden).at? here = some (t.mask fun more => hidden (here ++ more)) := by
        rw [Tree.at?_mask, above]
        rfl
      cases hdir : t.isDir with
      | false =>
        rw [walk_no_dir above hdir, walk_no_dir habove (by rw [Tree.isDir_mask, hdir])]
        rfl
      | true =>
        rw [walk_cons above hdir, walk_cons habove (by rw [Tree.isDir_mask, hdir]), Tree.child?_mask]
        split
        · exact shorter here
        split
        · exact shorter here.dropLast
        split
        · rfl
        cases t.child? seg with
        | none =>
          simp only [Option.map_none]
          split <;> rfl
        | some s =>
          cases s with
          | file content mode => exact shorter (here ++ [seg])
          | dir entries => exact shorter (here ++ [seg])
          | link target =>
            simp only [Option.map_some, Tree.mask]
            split
            · rfl
            · cases links with
              | zero => rfl
              | succ links => exact fewer links rfl (startOf target here) (splitPath target ++ rest)

theorem cases_of_map_eq {ε α β : Type} {f : α → β} {x y : Except ε α} (h : x.map f = y.map f) :
    (∃ error, x = .error error ∧ y = .error error) ∨ ∃ a b, x = .ok a ∧ y = .ok b ∧ f a = f b := by
  cases x with
  | error error =>
    cases y with
    | error other => exact .inl ⟨error, rfl, congrArg _ (Except.error.inj h).symm⟩
    | ok b => cases h
  | ok a =>
    cases y with
    | error error => cases h
    | ok b => exact .inr ⟨a, b, rfl, rfl, Except.ok.inj h⟩

namespace Disk

variable {d e : Disk} {path : Bytes}

def mask (hidden : List Name → Bool) (d : Disk) : Disk := { d with root := d.root.mask hidden }

theorem find_mask (d : Disk) (follow : Bool) (path : Bytes) :
    (d.mask hidden).find follow path = (d.find follow path).map (Found.mask hidden) := by
  unfold find
  split
  · rfl
  split
  · rfl
  · exact walk_mask d.root follow maxLinks (startOf path d.cwd) (splitPath path)

theorem isDir_mask (d : Disk) (path : String) : (d.mask hidden).isDir path = d.isDir path := by
  unfold isDir isDirBytes look
  rw [find_mask]
  cases d.find true (Utf8.encode path) with
  | error e => rfl
  | ok found =>
    obtain ⟨place, tree⟩ := found
    cases tree with
    | none => rfl
    | some t => exact Tree.isDir_mask t

theorem pathExists_mask (d : Disk) (path : String) : (d.mask hidden).pathExists path = d.pathExists path := by
  unfold pathExists look
  rw [find_mask]
  cases d.find true (Utf8.encode path) with
  | error e => rfl
  | ok found =>
    obtain ⟨place, tree⟩ := found
    cases tree <;> rfl

theorem mkdir_mask (d : Disk) (path : Bytes) : (d.mask hidden).mkdir path = (d.mkdir path).map (mask hidden) := by
  unfold mkdir
  rw [find_mask]
  cases d.find false path with
  | error e => rfl
  | ok found =>
    obtain ⟨place, tree⟩ := found
    cases tree with
    | some t => rfl
    | none =>
      have hroot : (d.root.modify (fun _ => some (.dir [])) place).mask hidden =
          (d.root.mask hidden).modify (fun _ => some (.dir [])) place := Tree.mask_put
      exact congrArg (fun root => Except.ok { d with root := root }) hroot.symm

theorem makeHere_mask (d : Disk) (path : String) :
    (d.mask hidden).makeHere path = ((d.makeHere path).1, (d.makeHere path).2.mask hidden) := by
  unfold makeHere
  rw [mkdir_mask, isDir_mask]
  cases d.mkdir (Utf8.encode path) <;> rfl

theorem mkdirs_mask (fuel : Nat) (d : Disk) (path : String) :
    (d.mask hidden).mkdirs fuel path = ((d.mkdirs fuel path).1, (d.mkdirs fuel path).2.mask hidden) := by
  induction fuel generalizing d path with
  | zero =>
    by_cases hempty : path = ""
    · rw [hempty, mkdirs_empty, mkdirs_empty]
    · rw [mkdirs_eq_makeHere hempty (.inl rfl), mkdirs_eq_makeHere hempty (.inl rfl), makeHere_mask]
  | succ fuel ih =>
    by_cases hempty : path = ""
    · rw [hempty, mkdirs_empty, mkdirs_empty]
    by_cases missing : d.mkdir (Utf8.encode path) = .error .notFound
    · have hmissing : (d.mask hidden).mkdir (Utf8.encode path) = .error .notFound := by
        rw [mkdir_mask, missing]
        rfl
      cases hparent : Path.parent? path with
      | none => rw [mkdirs_orphan hempty missing hparent, mkdirs_orphan hempty hmissing hparent]
      | some parent =>
        have habove := ih d parent
        cases hmade : d.mkdirs fuel parent with
        | mk answer made =>
          rw [hmade] at habove
          cases answer with
          | error e =>
            rw [mkdirs_above_error hempty missing hparent hmade, mkdirs_above_error hempty hmissing hparent habove]
          | ok _ =>
            rw [mkdirs_above hempty missing hparent hmade, mkdirs_above hempty hmissing hparent habove, makeHere_mask]
    · have hfound : (d.mask hidden).mkdir (Utf8.encode path) ≠ .error .notFound := by
        rw [mkdir_mask]
        cases hmkdir : d.mkdir (Utf8.encode path) with
        | ok made => exact nofun
        | error e => exact fun h => missing (hmkdir.trans h)
      rw [mkdirs_eq_makeHere hempty (.inr missing), mkdirs_eq_makeHere hempty (.inr hfound), makeHere_mask]

theorem makeDirs_mask (d : Disk) (path : String) :
    (d.mask hidden).makeDirs path = ((d.makeDirs path).1, (d.makeDirs path).2.mask hidden) :=
  mkdirs_mask (path.length + 1) d path

/-! ## Disks that are masked alike -/

/-- Paths end alike on two disks, up to what is hidden. -/
theorem find_cases (same : d.mask hidden = e.mask hidden) (follow : Bool) (path : Bytes) :
    (∃ error, d.find follow path = .error error ∧ e.find follow path = .error error) ∨
      (∃ place s t, d.find follow path = .ok ⟨place, some s⟩ ∧ e.find follow path = .ok ⟨place, some t⟩) ∨
        ∃ place, d.find follow path = .ok ⟨place, none⟩ ∧ e.find follow path = .ok ⟨place, none⟩ := by
  have hfind : (d.find follow path).map (Found.mask hidden) = (e.find follow path).map (Found.mask hidden) := by
    rw [← find_mask, ← find_mask, same]
  rcases cases_of_map_eq hfind with herror | ⟨⟨place, s⟩, ⟨other, t⟩, hd, he, hfound⟩
  · exact .inl herror
  · obtain ⟨hplace, htree⟩ := Found.mk.inj hfound
    obtain rfl : place = other := hplace
    cases s with
    | none =>
      obtain rfl : t = none := Option.map_eq_none_iff.1 htree.symm
      exact .inr (.inr ⟨place, hd, he⟩)
    | some s =>
      obtain ⟨t, rfl, -⟩ := Option.map_eq_some_iff.1 htree.symm
      exact .inr (.inl ⟨place, s, t, hd, he⟩)

/-- New files are alike when their contents are, or when their place is hidden. -/
theorem create_alike (same : d.mask hidden = e.mask hidden) {content content' : Bytes} (mode : Nat)
    (covers : content = content' ∨ ∀ d' place, d.create path content mode = .ok d' →
      d.find false path = .ok ⟨place, none⟩ → hidden place = true) :
    (d.create path content mode).map (mask hidden) = (e.create path content' mode).map (mask hidden) := by
  obtain ⟨hroot, hcwd⟩ := Disk.mk.inj same
  rcases find_cases same false path with ⟨error, hd, he⟩ | ⟨place, s, t, hd, he⟩ | ⟨place, hd, he⟩
  · rw [create, create, hd, he]
    rfl
  · rw [create, create, hd, he]
    rfl
  · rw [create, create, hd, he]
    change Except.map _ (if path.getLast? == some slash then _ else _) =
      Except.map _ (if path.getLast? == some slash then _ else _)
    split
    · rfl
    · rename_i hname
      have hfile : (Tree.file content mode).mask (fun more => hidden (place ++ more)) =
          (Tree.file content' mode).mask fun more => hidden (place ++ more) := by
        rcases covers with rfl | covers
        · rfl
        · have hcreate : d.create path content mode =
              .ok { d with root := d.root.modify (fun _ => some (.file content mode)) place } := by
            rw [create, hd]
            exact if_neg hname
          have hplace : hidden (place ++ []) = true := by
            rw [List.append_nil]
            exact covers _ place hcreate hd
          rw [Tree.mask, Tree.mask, hplace]
          rfl
      have hmade : (d.root.modify (fun _ => some (.file content mode)) place).mask hidden =
          (e.root.modify (fun _ => some (.file content' mode)) place).mask hidden := by
        rw [Tree.mask_put, Tree.mask_put, hroot, hfile]
      exact congrArg Except.ok (congrArg₂ Disk.mk hmade hcwd)

theorem create_spec {path : String} {d' : Disk} {content : Bytes} {mode : Nat}
    (h : d.create (Utf8.encode path) content mode = .ok d') :
    ∃ place, d.find false (Utf8.encode path) = .ok ⟨place, none⟩ ∧
      d'.root.at? place = some (.file content mode) := by
  unfold create at h
  cases hfind : d.find false (Utf8.encode path) with
  | error e =>
    rw [hfind] at h
    cases h
  | ok found =>
    obtain ⟨place, tree⟩ := found
    rw [hfind] at h
    cases tree with
    | some t => cases h
    | none =>
      obtain ⟨above, name, t, rfl, hat, hdir⟩ := above_of_find hfind
      change (if (Utf8.encode path).getLast? == some slash then _ else _) = _ at h
      split at h
      · cases h
      · cases h
        refine ⟨above ++ [name], rfl, Tree.node?_eq_some_file_iff.1 ?_⟩
        rw [Tree.node?_modify hat hdir, if_pos (List.prefix_refl _)]
        simp [Tree.node?_nil, Tree.node]

end Disk

end CodeSearch.Files
