import CodeSearch.Proofs.Files.Making

/-!
# Entries of a directory

What is found under a name in a directory that a path leads to. It depends on the name and on what stands
there, and on nothing else.
-/

namespace CodeSearch.Files.Disk

open CodeSearch.Path (join tidy)

def entry (d : Disk) (place : List Name) (name : Name) : Except FileError Found :=
  if name.contains 0 then .error .nulInName
  else if maxName < name.length then .error .nameTooLong
  else .ok ⟨place ++ [name], d.root.at? (place ++ [name])⟩

def Plain (d : Disk) (q : List Name) : Prop := ∀ target, d.root.node? q ≠ some (.link target)

variable {d d' : Disk} {base n : String} {place : List Name} {off : List Name → Prop}

theorem path_of_entry {name : Name} {found : Found} (h : d.entry place name = .ok found) :
    found.path = place ++ [name] := by
  unfold Disk.entry at h
  split at h
  · cases h
  split at h <;> cases h
  rfl

theorem plainName_encode (entry : Path.Entry n) (short : ¬maxName < (Utf8.encode n).length) :
    PlainName (Utf8.encode n) where
  not_idle := (isIdle_encodeChars n.toList).trans entry.not_idle
  not_up := by
    rw [beq_eq_false_iff_ne]
    exact fun h => entry.not_up (Utf8.encode_inj.1 (h.trans (by decide : dotDotName = Utf8.encode "..")))
  short := Nat.not_lt.1 short

/-- The way to a directory is also that of its path without an idle end. -/
theorem LeadsTo.tidy (h : d.LeadsTo off base place) : d.LeadsTo off (tidy base) place :=
  h.of_names (pathNames_tidy base) (startOf_tidy base)

theorem LeadsTo.find_join (h : d.LeadsTo off base place) (entry : Path.Entry n)
    (plain : d.Plain (place ++ [Utf8.encode n])) (follow : Bool) :
    d.find follow (Utf8.encode (join base n)) = d.entry place (Utf8.encode n) := by
  have hnames := pathNames_join base entry
  unfold Disk.entry
  split
  · rename_i hnul
    have hmem : Utf8.encode n ∈ pathNames (join base n) := by simp [hnames]
    exact if_pos (contains_nul_iff.2 ⟨_, hmem, by simpa using hnul⟩)
  rename_i hnul
  have hno_nul : ∀ name ∈ pathNames (join base n), 0 ∉ name := by
    intro name hname
    rw [hnames] at hname
    rcases List.mem_append.1 hname with hname | hname
    · exact h.no_nul name hname
    · rw [List.mem_singleton.1 hname]
      simpa using hnul
  obtain ⟨before, hsegs, hbefore⟩ := splitPath_join base entry.relative
  rw [splitPath_entry entry] at hsegs
  have hleads := h.leads.of_names (show names before = names _ from hbefore)
  obtain ⟨fewer, -, hwalk⟩ := hleads.walk_append follow [Utf8.encode n] (.inr (by simp))
  rw [find_of_no_nul (Path.join_ne_empty entry.ne_empty) hno_nul, hsegs, startOf_join entry.relative, hwalk]
  obtain ⟨t, hat, hdir⟩ := Tree.node?_eq_some_dir h.leads.there.1
  split
  · rename_i hlong
    exact walk_long hat hdir hlong
  rename_i hshort
  have hchild : d.root.at? (place ++ [Utf8.encode n]) = t.child? (Utf8.encode n) := by
    simp [Tree.at?_append, hat, Tree.at?_cons]
  rw [walk_cons_plain hat hdir (plainName_encode entry hshort), hchild]
  cases hfound : t.child? (Utf8.encode n) with
  | none => rfl
  | some s =>
    cases s with
    | link target => exact absurd (by rw [Tree.node?, hchild, hfound]; rfl) (plain target)
    | _ => simp only [walk_nil, hchild, hfound]

/-- Where there is a directory under a name, there is one at its place. -/
theorem LeadsTo.dir_of_isDir_join (h : d.LeadsTo off base place) (entry : Path.Entry n)
    (plain : d.Plain (place ++ [Utf8.encode n])) (isDir : d.isDir (join base n) = true) :
    d.root.node? (place ++ [Utf8.encode n]) = some .dir := by
  obtain ⟨hnonempty, q, hq⟩ := isDir_iff.1 isDir
  obtain ⟨t, hfind, hdir⟩ := hq.find hnonempty
  obtain rfl : q = place ++ [Utf8.encode n] := path_of_entry ((h.find_join entry plain true).symm.trans hfind)
  exact hq.leads.there.1

theorem isDir_join (entry : Path.Entry n) (nonempty : tidy base ≠ "") (missing : d.isDir (tidy base) = false) :
    d.isDir (join base n) = false := by
  refine Bool.eq_false_iff.2 fun h => ?_
  obtain ⟨-, place, hplace⟩ := isDir_iff.1 h
  obtain ⟨before, hsegs, hbefore⟩ := splitPath_join base entry.relative
  rw [splitPath_entry entry] at hsegs
  have hleads := hplace.leads
  rw [hsegs, startOf_join entry.relative] at hleads
  obtain ⟨middle, hmiddle⟩ := hleads.left
  have hnames := pathNames_tidy base
  have hbase : d.LeadsTo (fun _ => False) (tidy base) middle := by
    refine ⟨fun name hname => hplace.no_nul name ?_,
      startOf_tidy base ▸ hmiddle.of_names (hnames.trans hbefore.symm)⟩
    rw [pathNames_join base entry, ← hnames]
    exact List.mem_append_left _ hname
  rw [isDir_iff.2 ⟨nonempty, middle, hbase⟩] at missing
  cases missing

theorem isDir_tidy (nonempty : base ≠ "") (missing : d.isDir base = false) : d.isDir (tidy base) = false := by
  refine Bool.eq_false_iff.2 fun h => ?_
  obtain ⟨-, place, hplace⟩ := isDir_iff.1 h
  have hbase := hplace.of_names (pathNames_tidy base).symm (startOf_tidy base).symm
  rw [isDir_iff.2 ⟨nonempty, place, hbase⟩] at missing
  cases missing

/-! ## What is seen of it -/

variable {path : String}

/-- Two searches end alike, but for what is below the place that they come to. -/
def SeenAlike (f g : Except FileError Found) : Prop :=
  f.map (fun found => (found.path, found.tree.map Tree.node)) =
    g.map fun found => (found.path, found.tree.map Tree.node)

theorem entry_alike {name : Name} (same : d.root.node? (place ++ [name]) = d'.root.node? (place ++ [name])) :
    SeenAlike (d.entry place name) (d'.entry place name) := by
  unfold SeenAlike Disk.entry
  split
  · rfl
  split
  · rfl
  · exact congrArg (fun node => Except.ok (place ++ [name], node)) same

theorem SeenAlike.cases {f g : Except FileError Found} (h : SeenAlike f g) :
    (∃ e, f = .error e ∧ g = .error e) ∨ (∃ q, f = .ok ⟨q, none⟩ ∧ g = .ok ⟨q, none⟩) ∨
      ∃ q s t, f = .ok ⟨q, some s⟩ ∧ g = .ok ⟨q, some t⟩ ∧ s.node = t.node := by
  cases f with
  | error e =>
    cases g with
    | error e' => exact .inl ⟨e, rfl, congrArg _ (Except.error.inj h).symm⟩
    | ok found => cases h
  | ok found =>
    cases g with
    | error e => cases h
    | ok other =>
      obtain ⟨q, s⟩ := found
      obtain ⟨q', t⟩ := other
      obtain ⟨rfl, hnode⟩ := Prod.mk.inj (Except.ok.inj h)
      cases s with
      | none =>
        cases t with
        | none => exact .inr (.inl ⟨q, rfl, rfl⟩)
        | some t => cases hnode
      | some s =>
        cases t with
        | none => cases hnode
        | some t => exact .inr (.inr ⟨q, s, t, rfl, rfl, Option.some.inj hnode⟩)

theorem isDir_congr_node {s t : Tree} (same : s.node = t.node) : s.isDir = t.isDir := by
  rw [Bool.eq_iff_iff, ← Tree.node_eq_dir_iff, ← Tree.node_eq_dir_iff, same]

theorem isDir_congr (h : SeenAlike (d.find true (Utf8.encode path)) (d'.find true (Utf8.encode path))) :
    d.isDir path = d'.isDir path := by
  unfold isDir isDirBytes look
  rcases h.cases with ⟨e, hd, hd'⟩ | ⟨q, hd, hd'⟩ | ⟨q, s, t, hd, hd', hnode⟩
  · rw [hd, hd']
  · rw [hd, hd']
  · rw [hd, hd']
    exact isDir_congr_node hnode

theorem pathExists_congr (h : SeenAlike (d.find true (Utf8.encode path)) (d'.find true (Utf8.encode path))) :
    d.pathExists path = d'.pathExists path := by
  unfold pathExists look
  rcases h.cases with ⟨e, hd, hd'⟩ | ⟨q, hd, hd'⟩ | ⟨q, s, t, hd, hd', hnode⟩
  · rw [hd, hd']
  · rw [hd, hd']
  · rw [hd, hd']
    rfl

theorem LeadsTo.find_join_alike {off' : List Name → Prop} (h : d.LeadsTo off base place)
    (h' : d'.LeadsTo off' base place) (entry : Path.Entry n) (plain : d.Plain (place ++ [Utf8.encode n]))
    (plain' : d'.Plain (place ++ [Utf8.encode n])) (follow : Bool)
    (same : d.root.node? (place ++ [Utf8.encode n]) = d'.root.node? (place ++ [Utf8.encode n])) :
    SeenAlike (d.find follow (Utf8.encode (join base n))) (d'.find follow (Utf8.encode (join base n))) := by
  rw [h.find_join entry plain, h'.find_join entry plain']
  exact entry_alike same

theorem LeadsTo.find_alike {off' : List Name → Prop} (h : d.LeadsTo off path place)
    (h' : d'.LeadsTo off' path place) :
    SeenAlike (d.find true (Utf8.encode path)) (d'.find true (Utf8.encode path)) := by
  by_cases hempty : path = ""
  · rw [hempty]
    rfl
  · obtain ⟨s, hs, hdir⟩ := h.find hempty
    obtain ⟨t, ht, hdir'⟩ := h'.find hempty
    rw [hs, ht]
    exact congrArg (fun node => Except.ok (place, some node))
      ((Tree.node_eq_dir_iff.2 hdir).trans (Tree.node_eq_dir_iff.2 hdir').symm)

/-- A path that leads to a directory, or the empty one, needs nothing to be made. -/
theorem LeadsTo.makeDirs (h : d.LeadsTo off path place) : d.makeDirs path = (.ok (), d) := by
  by_cases hempty : path = ""
  · rw [hempty]
    exact mkdirs_empty _
  · exact makeDirs_of_isDir (isDir_iff.2 ⟨hempty, place, h.no_nul, h.leads.mono fun _ => False.elim⟩)

/-! ## A new file -/

theorem getLast?_join_ne (entry : Path.Entry n) : (Utf8.encode (join base n)).getLast? ≠ some slash := by
  intro h
  obtain ⟨front, hfront⟩ := List.getLast?_eq_some_iff.1 h
  obtain ⟨before, hsegs, -⟩ := splitPath_join base entry.relative
  rw [splitPath_entry entry, hfront, splitPath, List.splitOnP_append_cons _ _ (by decide)] at hsegs
  have hlast : [] = Utf8.encode n := by
    have := congrArg List.getLast? hsegs
    simpa [List.splitOnP_nil] using this
  have hidle := (isIdle_encodeChars n.toList).trans entry.not_idle
  rw [← Utf8.encode, ← hlast] at hidle
  cases hidle

theorem LeadsTo.create_join (h : d.LeadsTo off base place) (entry : Path.Entry n)
    (plain : d.Plain (place ++ [Utf8.encode n])) (content : Bytes) (mode : Nat) :
    d.create (Utf8.encode (join base n)) content mode =
      match d.entry place (Utf8.encode n) with
      | .error e => .error e
      | .ok found =>
        match found.tree with
        | some _ => .error .alreadyExists
        | none => .ok { d with root := d.root.modify (fun _ => some (.file content mode)) found.path } := by
  unfold create
  rw [h.find_join entry plain false]
  cases d.entry place (Utf8.encode n) with
  | error e => rfl
  | ok found =>
    cases htree : found.tree with
    | some t => simp only [bind, Except.bind, htree]
    | none => simp only [bind, Except.bind, htree, beq_iff_eq, if_neg (getLast?_join_ne entry)]

end CodeSearch.Files.Disk
