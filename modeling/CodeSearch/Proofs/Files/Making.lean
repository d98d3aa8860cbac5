import CodeSearch.Files.Directories
import CodeSearch.Proofs.Files.Texts

/-!
# Making directories

A path that leads upwards only from directories that are there is made once at most: when there is a
directory afterwards it is new and empty, and when there is none the next attempt fails as the first one did
and changes nothing.
-/

namespace CodeSearch.Files

/-- Inside a directory, at whatever depth. -/
def Below (place q : List Name) : Prop := place <+: q ∧ q ≠ place

namespace Disk

/-- A path leads to a directory, by no place that is off the way. -/
structure LeadsTo (d : Disk) (off : List Name → Prop) (path : String) (place : List Name) : Prop where
  no_nul : ∀ name ∈ pathNames path, 0 ∉ name
  leads : Leads d.root.node? off place maxLinks (startOf (Utf8.encode path) d.cwd) (splitPath (Utf8.encode path))

/-- On the way of a path there is a name too long for an entry. -/
structure Stuck (d : Disk) (path : String) : Prop where
  no_nul : ∀ name ∈ pathNames path, 0 ∉ name
  long : ∃ before name behind middle, pathNames path = before ++ name :: behind ∧ maxName < name.length ∧
    Leads d.root.node? (fun _ => False) middle maxLinks (startOf (Utf8.encode path) d.cwd) before

variable {d d' : Disk} {follow : Bool} {path p q : String} {place : List Name} {off : List Name → Prop}

theorem encode_isEmpty : (Utf8.encode path).isEmpty = true ↔ path = "" := by
  rw [List.isEmpty_iff, Utf8.encode, Utf8.encodeChars_eq_nil, String.toList_eq_nil_iff]

theorem find_of_no_nul (nonempty : path ≠ "") (no_nul : ∀ name ∈ pathNames path, 0 ∉ name) :
    d.find follow (Utf8.encode path) =
      walk d.root follow maxLinks (startOf (Utf8.encode path) d.cwd) (splitPath (Utf8.encode path)) := by
  have hnul : ¬(Utf8.encode path).contains 0 = true := by
    rw [contains_nul_iff]
    rintro ⟨name, hname, h⟩
    exact no_nul name hname h
  rw [find, if_neg hnul, if_neg (mt encode_isEmpty.1 nonempty)]

theorem walk_of_find {found : Found} (h : d.find follow (Utf8.encode path) = .ok found) :
    path ≠ "" ∧ (∀ name ∈ pathNames path, 0 ∉ name) ∧
      walk d.root follow maxLinks (startOf (Utf8.encode path) d.cwd) (splitPath (Utf8.encode path)) =
        .ok found := by
  unfold find at h
  split at h
  · cases h
  rename_i hnul
  split at h
  · cases h
  rename_i hempty
  refine ⟨mt encode_isEmpty.2 hempty, fun name hname h => hnul ?_, h⟩
  exact contains_nul_iff.2 ⟨name, hname, h⟩

theorem LeadsTo.of_names (h : d.LeadsTo off p place) (same : pathNames q = pathNames p)
    (start : startOf (Utf8.encode q) d.cwd = startOf (Utf8.encode p) d.cwd) : d.LeadsTo off q place where
  no_nul := same ▸ h.no_nul
  leads := start ▸ h.leads.of_names same

theorem LeadsTo.mono {other : List Name → Prop} (h : d.LeadsTo off path place) (less : ∀ q, other q → off q) :
    d.LeadsTo other path place := ⟨h.no_nul, h.leads.mono less⟩

theorem LeadsTo.find (h : d.LeadsTo off path place) (nonempty : path ≠ "") :
    ∃ t, d.find true (Utf8.encode path) = .ok ⟨place, some t⟩ ∧ t.isDir = true := by
  obtain ⟨t, hat, hdir⟩ := Tree.node?_eq_some_dir h.leads.there.1
  obtain ⟨fewer, -, hwalk⟩ := h.leads.walk_append true [] (.inl rfl)
  refine ⟨t, ?_, hdir⟩
  rw [find_of_no_nul nonempty h.no_nul, ← List.append_nil (splitPath _), hwalk, walk_nil, hat]

theorem isDir_of_find {t : Tree} (h : d.find true (Utf8.encode path) = .ok ⟨place, some t⟩) :
    d.isDir path = t.isDir := by
  rw [isDir, isDirBytes, look, h]
  rfl

theorem leadsTo_of_find {t : Tree} (h : d.find true (Utf8.encode path) = .ok ⟨place, some t⟩) (dir : t.isDir = true) :
    d.LeadsTo (fun _ => False) path place := by
  obtain ⟨-, no_nul, hwalk⟩ := walk_of_find h
  exact ⟨no_nul, Leads.of_walk hwalk (fun _ _ h => ⟨h, id⟩) (Tree.node?_of_isDir (at?_of_walk hwalk) dir) id⟩

theorem isDir_iff : d.isDir path = true ↔ path ≠ "" ∧ ∃ place, d.LeadsTo (fun _ => False) path place := by
  constructor
  · intro h
    unfold isDir isDirBytes look at h
    cases hfind : d.find true (Utf8.encode path) with
    | error e =>
      rw [hfind] at h
      cases h
    | ok found =>
      obtain ⟨place, tree⟩ := found
      cases tree with
      | none =>
        rw [hfind] at h
        cases h
      | some t =>
        rw [hfind] at h
        exact ⟨(walk_of_find hfind).1, place, leadsTo_of_find hfind h⟩
  · rintro ⟨nonempty, place, h⟩
    obtain ⟨t, hfind, hdir⟩ := h.find nonempty
    rw [isDir_of_find hfind, hdir]

theorem Stuck.find (h : d.Stuck path) : d.find follow (Utf8.encode path) = .error .nameTooLong := by
  obtain ⟨before, name, behind, middle, hnames, hlong, hleads⟩ := h.long
  have hnonempty : path ≠ "" := by
    rintro rfl
    cases before <;> cases hnames
  obtain ⟨first, last, hsegs, hfirst, -⟩ := names_eq_append_cons hnames
  have hbefore : names first = names before := by
    rw [← hfirst, names_names]
  obtain ⟨t, hat, hdir⟩ := Tree.node?_eq_some_dir hleads.there.1
  obtain ⟨fewer, -, hwalk⟩ := (hleads.of_names hbefore).walk_append follow (name :: last) (.inr (by simp))
  rw [find_of_no_nul hnonempty h.no_nul, hsegs, hwalk, walk_long hat hdir hlong]

theorem Stuck.isDir_eq_false (h : d.Stuck path) : d.isDir path = false := by
  rw [isDir, isDirBytes, look, h.find]
  rfl

/-! ## One directory -/

theorem mkdir_error {e : FileError} (h : d.find false (Utf8.encode path) = .error e) :
    d.mkdir (Utf8.encode path) = .error e := by
  rw [mkdir, h]
  rfl

theorem mkdir_missing (h : d.find false (Utf8.encode path) = .ok ⟨place, none⟩) :
    d.mkdir (Utf8.encode path) = .ok { d with root := d.root.modify (fun _ => some (.dir [])) place } := by
  rw [mkdir, h]
  rfl

theorem isSome_start_of_find {found : Found} (h : d.find follow (Utf8.encode path) = .ok found) :
    (d.root.at? (startOf (Utf8.encode path) d.cwd)).isSome = true := by
  obtain ⟨-, -, hwalk⟩ := walk_of_find h
  obtain ⟨seg, rest, hsegs⟩ := List.exists_cons_of_ne_nil
    (List.splitOnP_ne_nil (· == slash) (Utf8.encode path))
  rw [splitPath, hsegs] at hwalk
  obtain ⟨t, hat, -⟩ := exists_dir_of_walk hwalk
  rw [hat]
  rfl

/-- Where a path leads to nothing there is a directory above. -/
theorem above_of_find (h : d.find follow (Utf8.encode path) = .ok ⟨place, none⟩) :
    ∃ above name t, place = above ++ [name] ∧ d.root.at? above = some t ∧ t.isDir = true :=
  above_of_walk (walk_of_find h).2.2 (isSome_start_of_find h) rfl

/-- A directory that was made is new and empty, and its path leads there by what was there before. -/
structure New (path : String) (d' : Disk) (place : List Name) : Prop where
  leads : d'.LeadsTo (Below place) path place
  empty : ∀ q, Below place q → d'.root.node? q = none

/-- A directory that is made stands where nothing was, and it is empty. -/
theorem node?_mkdir (h : d.find false (Utf8.encode path) = .ok ⟨place, none⟩) (q : List Name) :
    (d.root.modify (fun _ => some (.dir [])) place).node? q =
      if place <+: q then if q = place then some .dir else none else d.root.node? q := by
  obtain ⟨above, name, t, rfl, hat, hdir⟩ := above_of_find h
  rw [Tree.node?_modify hat hdir]
  by_cases hin : above ++ [name] <+: q
  · obtain ⟨more, rfl⟩ := hin
    rw [if_pos (List.prefix_append ..), if_pos (List.prefix_append ..), List.drop_left' (by simp)]
    cases more with
    | nil => simp [Tree.node?_nil, Tree.node]
    | cons first more =>
      rw [if_neg (by simp), Tree.node?_cons]
      rfl
  · rw [if_neg hin, if_neg hin]

theorem node?_of_find_none (h : d.find false (Utf8.encode path) = .ok ⟨place, none⟩) {q : List Name}
    (below : place <+: q) : d.root.node? q = none := by
  obtain ⟨more, rfl⟩ := below
  have hnone : d.root.at? place = none := at?_of_walk (walk_of_find h).2.2
  rw [Tree.node?, Tree.at?_append, hnone]
  rfl

theorem mkdir_eq_ok_iff : d.mkdir (Utf8.encode path) = .ok d' ↔
    ∃ place, d.find false (Utf8.encode path) = .ok ⟨place, none⟩ ∧
      d' = { d with root := d.root.modify (fun _ => some (.dir [])) place } := by
  refine ⟨fun h => ?_, fun ⟨place, hfind, heq⟩ => heq ▸ mkdir_missing hfind⟩
  unfold mkdir at h
  cases hfind : d.find false (Utf8.encode path) with
  | error e =>
    rw [hfind] at h
    cases h
  | ok found =>
    rw [hfind] at h
    obtain ⟨place, _ | t⟩ := found
    · cases h
      exact ⟨place, rfl, rfl⟩
    · cases h

theorem new_of_mkdir (h : d.mkdir (Utf8.encode path) = .ok d') : ∃ place, New path d' place := by
  obtain ⟨place, hfind, rfl⟩ := mkdir_eq_ok_iff.1 h
  obtain ⟨-, no_nul, hwalk⟩ := walk_of_find hfind
  have hnew := node?_mkdir hfind
  refine ⟨place, ⟨no_nul, Leads.of_walk hwalk ?_ ?_ ?_⟩, ?_⟩
  · intro q node hq
    have hout : ¬place <+: q := fun hin => by
      rw [node?_of_find_none hfind hin] at hq
      cases hq
    rw [hnew, if_neg hout]
    exact ⟨hq, fun hin => hout hin.1⟩
  · rw [hnew, if_pos (List.prefix_refl _), if_pos rfl]
  · exact fun hin => hin.2 rfl
  · rintro q ⟨hin, hne⟩
    rw [hnew, if_pos hin, if_neg hne]

/-! ## All directories above -/

inductive Made (d : Disk) (path : String) : Except FileError Unit → Disk → Prop
  /-- Nothing changed: it was there, or it cannot be made. -/
  | nothing {result : Except FileError Unit} (there : result = .ok () → path = "" ∨ d.isDir path = true) :
      Made d path result d
  | made {d' : Disk} {place : List Name} (new : New path d' place) : Made d path (.ok ()) d'
  /-- Directories above were made, and then a name was too long. -/
  | stuck {d' : Disk} (stuck : d'.Stuck path) : Made d path (.error .nameTooLong) d'

theorem makeHere_ok (h : d.mkdir (Utf8.encode path) = .ok d') : d.makeHere path = (.ok (), d') := by
  rw [makeHere, h]

theorem makeHere_error {e : FileError} (h : d.mkdir (Utf8.encode path) = .error e) :
    d.makeHere path = (if d.isDir path then .ok () else .error e, d) := by
  rw [makeHere, h]

theorem made_nothing {e : FileError} (h : d.mkdir (Utf8.encode path) = .error e) :
    Made d path (d.makeHere path).1 (d.makeHere path).2 := by
  rw [makeHere_error h]
  refine .nothing fun hok => .inr ?_
  cases hdir : d.isDir path with
  | true => rfl
  | false =>
    rw [hdir] at hok
    cases hok

theorem made_makeHere (d : Disk) (path : String) : Made d path (d.makeHere path).1 (d.makeHere path).2 := by
  cases h : d.mkdir (Utf8.encode path) with
  | ok d' =>
    obtain ⟨place, new⟩ := new_of_mkdir h
    rw [makeHere_ok h]
    exact .made new
  | error e => exact made_nothing h

theorem made_in_new {last : Name} (new : New q d' place)
    (names_eq : pathNames p = pathNames q ++ [last])
    (start : startOf (Utf8.encode q) d'.cwd = startOf (Utf8.encode p) d'.cwd)
    (no_nul : ∀ name ∈ pathNames p, 0 ∉ name) (not_up : last ≠ dotDotName) :
    Made d p (d'.makeHere p).1 (d'.makeHere p).2 := by
  obtain ⟨before, behind, hsegs, hbefore, hbehind⟩ := names_eq_append_cons names_eq
  have hnonempty : p ≠ "" := by
    rintro rfl
    cases hq : pathNames q <;> rw [hq] at names_eq <;> cases names_eq
  have hidle : isIdle last = false := by
    have hmem : last ∈ pathNames p := by simp [names_eq]
    simpa using (List.mem_filter.1 hmem).2
  have hleads := start ▸ new.leads.leads.of_names (show names before = names _ from hbefore)
  obtain ⟨t, hat, hdir⟩ := Tree.node?_eq_some_dir new.leads.leads.there.1
  by_cases hlong : maxName < last.length
  · have hstuck : d'.Stuck p := by
      refine ⟨no_nul, pathNames q, last, [], place, names_eq, hlong, ?_⟩
      exact (start ▸ new.leads.leads.of_names (names_names _)).mono fun _ => False.elim
    rw [makeHere_error (mkdir_error hstuck.find), hstuck.isDir_eq_false]
    exact .stuck hstuck
  · have hplain : PlainName last := ⟨hidle, by simpa using not_up, Nat.not_lt.1 hlong⟩
    have hchild : t.child? last = none := by
      have := new.empty (place ++ [last]) ⟨List.prefix_append .., by simp⟩
      rwa [Tree.node?_concat hat, Option.map_eq_none_iff] at this
    obtain ⟨fewer, -, hwalk⟩ := hleads.walk_append false (last :: behind) (.inr (by simp))
    have hfind : d'.find false (Utf8.encode p) = .ok ⟨place ++ [last], none⟩ := by
      have hrest : behind.all isIdle = true := by
        simpa [names, List.filter_eq_nil_iff] using hbehind
      rw [find_of_no_nul hnonempty no_nul, hsegs, hwalk, walk_cons_plain hat hdir hplain, hchild]
      simp only [hrest, if_true]
    obtain ⟨other, hnew⟩ := new_of_mkdir (mkdir_missing hfind)
    rw [makeHere_ok (mkdir_missing hfind)]
    exact .made hnew

theorem Stuck.of_names {last : Name} (stuck : d'.Stuck q) (names_eq : pathNames p = pathNames q ++ [last])
    (start : startOf (Utf8.encode q) d'.cwd = startOf (Utf8.encode p) d'.cwd)
    (no_nul : ∀ name ∈ pathNames p, 0 ∉ name) : d'.Stuck p := by
  obtain ⟨before, name, behind, middle, hnames, hlong, hleads⟩ := stuck.long
  refine ⟨no_nul, before, name, behind ++ [last], middle, ?_, hlong, start ▸ hleads⟩
  rw [names_eq, hnames, List.append_assoc, List.cons_append]

theorem no_nul_of_notFound (h : d.mkdir (Utf8.encode path) = .error .notFound) :
    ∀ name ∈ pathNames path, 0 ∉ name := by
  intro name hname hnul
  have hfind : d.find false (Utf8.encode path) = .error .nulInName :=
    if_pos (contains_nul_iff.2 ⟨name, hname, hnul⟩)
  rw [mkdir_error hfind] at h
  cases h

/-- A path leads upwards only from directories that are there. -/
def Grounded (d : Disk) (path : String) : Prop :=
  ∀ before after, pathNames path = before ++ dotDotName :: after →
    ∃ place, Leads d.root.node? (fun _ => False) place maxLinks (startOf (Utf8.encode path) d.cwd) before

theorem grounded_of_notMem (h : dotDotName ∉ pathNames path) : d.Grounded path := fun before after hnames =>
  absurd (by simp [hnames]) h

theorem Grounded.of_names (grounded : d.Grounded p) (same : pathNames q = pathNames p)
    (start : startOf (Utf8.encode q) d.cwd = startOf (Utf8.encode p) d.cwd) : d.Grounded q := by
  intro before after hnames
  rw [start]
  exact grounded before after (same ▸ hnames)

theorem Grounded.above (grounded : d.Grounded p) (parent : Path.parent? p = some q) (some : pathNames p ≠ []) :
    d.Grounded q := by
  intro before after hnames
  obtain ⟨last, hlast⟩ := pathNames_parent? parent some
  rw [startOf_parent? parent some]
  exact grounded before (after ++ [last]) (by rw [hlast, hnames, List.append_assoc, List.cons_append])

theorem dir_dropLast {root : Tree} (dir : root.node? place = some .dir) :
    root.node? place.dropLast = some .dir := by
  rcases List.eq_nil_or_concat' place with rfl | ⟨above, name, rfl⟩
  · exact dir
  · obtain ⟨t, hat, -⟩ := Tree.node?_eq_some_dir dir
    have hthere : (root.at? (above ++ [name])).isSome = true := by simp [hat]
    obtain ⟨s, hs⟩ := Option.isSome_iff_exists.1 (Tree.isSome_at?_of_prefix (List.prefix_append ..) hthere)
    rw [List.dropLast_concat]
    exact Tree.node?_of_isDir hs (Tree.isDir_of_at?_append hs hthere (by simp))

theorem Grounded.last_ne {before : List Name} {last : Name} (grounded : d.Grounded p)
    (missing : d.mkdir (Utf8.encode p) = .error .notFound) (names_eq : pathNames p = before ++ [last]) :
    last ≠ dotDotName := by
  rintro rfl
  obtain ⟨place, hleads⟩ := grounded before [] names_eq
  obtain ⟨first, behind, hsegs, hfirst, hbehind⟩ := names_eq_append_cons names_eq
  have hnonempty : p ≠ "" := by
    rintro rfl
    cases before <;> cases names_eq
  have hbefore : names first = names before := by rw [← hfirst, names_names]
  obtain ⟨t, hat, hdir⟩ := Tree.node?_eq_some_dir hleads.there.1
  obtain ⟨fewer, -, hwalk⟩ := (hleads.of_names hbefore).walk_append false (dotDotName :: behind) (.inr (by simp))
  -- up from the directory there is one, and idle segments lead nowhere else
  have hup : Leads d.root.node? (fun _ => False) place.dropLast fewer place.dropLast (behind ++ []) :=
    Leads.idles (.here (dir_dropLast hleads.there.1) id) hbehind
  obtain ⟨found, u, hfound, hthere⟩ := hup.walk_there false
  rw [List.append_nil] at hfound
  rw [mkdir, find_of_no_nul hnonempty (no_nul_of_notFound missing), hsegs, hwalk, walk_up hat hdir,
    hfound] at missing
  simp only [bind, Except.bind, hthere] at missing
  cases missing

theorem mkdirs_empty (fuel : Nat) : d.mkdirs fuel "" = (.ok (), d) := by
  cases fuel <;> rfl

/-- Unless something above is missing one attempt decides. -/
theorem mkdirs_eq_makeHere {fuel : Nat} (nonempty : path ≠ "")
    (found : fuel = 0 ∨ d.mkdir (Utf8.encode path) ≠ .error .notFound) :
    d.mkdirs fuel path = d.makeHere path := by
  unfold mkdirs
  rw [if_neg (mt String.isEmpty_iff.1 nonempty)]
  split
  · rename_i hmissing
    exact absurd hmissing (found.resolve_left (Nat.succ_ne_zero _))
  · rfl

theorem mkdirs_orphan {fuel : Nat} (nonempty : p ≠ "") (missing : d.mkdir (Utf8.encode p) = .error .notFound)
    (parent : Path.parent? p = none) : d.mkdirs (fuel + 1) p = (.error .notFound, d) := by
  unfold mkdirs
  rw [if_neg (mt String.isEmpty_iff.1 nonempty), missing, parent]

theorem mkdirs_above {fuel : Nat} (nonempty : p ≠ "") (missing : d.mkdir (Utf8.encode p) = .error .notFound)
    (parent : Path.parent? p = some q) (made : d.mkdirs fuel q = (.ok (), d')) :
    d.mkdirs (fuel + 1) p = d'.makeHere p := by
  conv_lhs => unfold mkdirs
  rw [if_neg (mt String.isEmpty_iff.1 nonempty), missing, parent]
  simp only [made]

theorem mkdirs_above_error {fuel : Nat} {e : FileError} (nonempty : p ≠ "")
    (missing : d.mkdir (Utf8.encode p) = .error .notFound) (parent : Path.parent? p = some q)
    (failed : d.mkdirs fuel q = (.error e, d')) : d.mkdirs (fuel + 1) p = (.error e, d') := by
  conv_lhs => unfold mkdirs
  rw [if_neg (mt String.isEmpty_iff.1 nonempty), missing, parent]
  simp only [failed]

theorem made_after (missing : d.mkdir (Utf8.encode p) = .error .notFound) (parent : Path.parent? p = some q)
    (some : pathNames p ≠ []) (grounded : d.Grounded p) (above : Made d q (.ok ()) d') :
    Made d p (d'.makeHere p).1 (d'.makeHere p).2 := by
  obtain ⟨last, hlast⟩ := pathNames_parent? parent some
  cases above with
  | nothing there => exact made_nothing missing
  | made new =>
    exact made_in_new new hlast (startOf_parent? parent some) (no_nul_of_notFound missing)
      (grounded.last_ne missing hlast)

theorem made_after_error {e : FileError} (missing : d.mkdir (Utf8.encode p) = .error .notFound)
    (parent : Path.parent? p = some q) (some : pathNames p ≠ []) (above : Made d q (.error e) d') :
    Made d p (.error e) d' := by
  obtain ⟨last, hlast⟩ := pathNames_parent? parent some
  cases above with
  | nothing there => exact .nothing nofun
  | stuck stuck =>
    exact .stuck (stuck.of_names hlast (startOf_parent? parent some) (no_nul_of_notFound missing))

theorem made_mkdirs {fuel : Nat} (grounded : d.Grounded p) :
    Made d p (d.mkdirs fuel p).1 (d.mkdirs fuel p).2 := by
  induction fuel generalizing p with
  | zero =>
    by_cases hempty : p = ""
    · rw [hempty, mkdirs_empty]
      exact .nothing fun _ => .inl rfl
    · rw [mkdirs_eq_makeHere hempty (.inl rfl)]
      exact made_makeHere d p
  | succ fuel ih =>
    by_cases hempty : p = ""
    · rw [hempty, mkdirs_empty]
      exact .nothing fun _ => .inl rfl
    by_cases hmissing : d.mkdir (Utf8.encode p) = .error .notFound
    · cases hparent : Path.parent? p with
      | none =>
        rw [mkdirs_orphan hempty hmissing hparent]
        exact .nothing nofun
      | some q =>
        by_cases hnames : pathNames p = []
        · have hnothing : d.mkdirs fuel q = (.ok (), d) := by rw [empty_of_parent? hparent hnames, mkdirs_empty]
          rw [mkdirs_above hempty hmissing hparent hnothing]
          exact made_nothing hmissing
        · -- the path of the directory above is shorter, and is made first
          have habove := ih (grounded.above hparent hnames)
          rcases hmade : d.mkdirs fuel q with ⟨result, d'⟩
          rw [hmade] at habove
          cases result with
          | ok u =>
            rw [mkdirs_above hempty hmissing hparent hmade]
            exact made_after hmissing hparent hnames grounded habove
          | error e =>
            rw [mkdirs_above_error hempty hmissing hparent hmade]
            exact made_after_error hmissing hparent hnames habove
    · rw [mkdirs_eq_makeHere hempty (.inr hmissing)]
      exact made_makeHere d p

/-- When a path leads to no directory, making it either makes a new one, or fails in a way in which it fails
from then on. -/
theorem makeDirs_cases (nonempty : p ≠ "") (absent : d.isDir p = false) (grounded : d.Grounded p) :
    (∃ d' place, d.makeDirs p = (.ok (), d') ∧ New p d' place) ∨
      ∃ e d', d.makeDirs p = (.error e, d') ∧ d'.makeDirs p = (.error e, d') ∧ d'.isDir p = false := by
  have hmade : Made d p (d.makeDirs p).1 (d.makeDirs p).2 := made_mkdirs grounded
  rcases hmakes : d.makeDirs p with ⟨result, d'⟩
  rw [hmakes] at hmade
  cases hmade with
  | nothing there =>
    cases result with
    | ok u =>
      rcases there rfl with h | h
      · exact absurd h nonempty
      · rw [absent] at h
        cases h
    | error e => exact .inr ⟨e, d', rfl, hmakes, absent⟩
  | made new => exact .inl ⟨d', _, rfl, new⟩
  | stuck stuck =>
    refine .inr ⟨_, d', rfl, ?_, stuck.isDir_eq_false⟩
    have hmkdir := mkdir_error (d := d') stuck.find
    rw [makeDirs, mkdirs_eq_makeHere nonempty (.inr (by rw [hmkdir]; nofun)), makeHere_error hmkdir,
      stuck.isDir_eq_false]
    rfl

theorem makeDirs_of_isDir (there : d.isDir p = true) : d.makeDirs p = (.ok (), d) := by
  obtain ⟨nonempty, place, h⟩ := isDir_iff.1 there
  obtain ⟨found, t, hwalk, hfound⟩ := h.leads.walk_there false
  have hmkdir : d.mkdir (Utf8.encode p) = .error .alreadyExists := by
    rw [mkdir, find_of_no_nul nonempty h.no_nul, hwalk]
    simp only [bind, Except.bind, hfound]
  rw [makeDirs, mkdirs_eq_makeHere nonempty (.inr (by rw [hmkdir]; nofun)), makeHere_error hmkdir, there]
  rfl

/-! ## What is left alone -/

/-- All that was there is as it was, and all that is new are directories. -/
structure Grows (d d' : Disk) : Prop where
  cwd : d'.cwd = d.cwd
  nodes : ∀ q, d'.root.node? q = d.root.node? q ∨ d.root.node? q = none ∧ d'.root.node? q = some .dir

theorem Grows.refl (d : Disk) : Grows d d := ⟨rfl, fun _ => .inl rfl⟩

theorem Grows.trans {d'' : Disk} (first : Grows d d') (second : Grows d' d'') : Grows d d'' where
  cwd := second.cwd.trans first.cwd
  nodes q := by
    rcases second.nodes q with hsame | ⟨hnone, hdir⟩
    · rw [hsame]
      exact first.nodes q
    · rcases first.nodes q with hsame | ⟨-, hdir'⟩
      · exact .inr ⟨hsame ▸ hnone, hdir⟩
      · cases hnone.symm.trans hdir'

theorem grows_of_mkdir (h : d.mkdir (Utf8.encode path) = .ok d') : Grows d d' := by
  obtain ⟨place, hfind, rfl⟩ := mkdir_eq_ok_iff.1 h
  refine ⟨rfl, fun q => ?_⟩
  simp only [node?_mkdir hfind]
  by_cases hin : place <+: q
  · rw [if_pos hin, node?_of_find_none hfind hin]
    by_cases heq : q = place
    · exact .inr ⟨rfl, if_pos heq⟩
    · exact .inl (if_neg heq)
  · exact .inl (if_neg hin)

theorem grows_makeHere (d : Disk) (path : String) : Grows d (d.makeHere path).2 := by
  cases h : d.mkdir (Utf8.encode path) with
  | ok d' => rw [makeHere_ok h]; exact grows_of_mkdir h
  | error e => rw [makeHere_error h]; exact .refl d

theorem grows_mkdirs (fuel : Nat) (d : Disk) (path : String) : Grows d (d.mkdirs fuel path).2 := by
  induction fuel generalizing path with
  | zero =>
    by_cases hempty : path = ""
    · rw [hempty, mkdirs_empty]
      exact .refl d
    · rw [mkdirs_eq_makeHere hempty (.inl rfl)]
      exact grows_makeHere d path
  | succ fuel ih =>
    by_cases hempty : path = ""
    · rw [hempty, mkdirs_empty]
      exact .refl d
    by_cases hmissing : d.mkdir (Utf8.encode path) = .error .notFound
    · cases hparent : Path.parent? path with
      | none => rw [mkdirs_orphan hempty hmissing hparent]; exact .refl d
      | some above =>
        have habove := ih above
        rcases hmade : d.mkdirs fuel above with ⟨_ | _, d'⟩ <;> rw [hmade] at habove
        · rw [mkdirs_above_error hempty hmissing hparent hmade]
          exact habove
        · rw [mkdirs_above hempty hmissing hparent hmade]
          exact habove.trans (grows_makeHere d' path)
    · rw [mkdirs_eq_makeHere hempty (.inr hmissing)]
      exact grows_makeHere d path

/-- To make a directory with all above it leaves all else alone, whatever the path. -/
theorem grows_makeDirs (d : Disk) (path : String) : Grows d (d.makeDirs path).2 := grows_mkdirs ..

end Disk

end CodeSearch.Files
