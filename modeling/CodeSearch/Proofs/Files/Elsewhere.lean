import CodeSearch.Proofs.Files.Making

/-!
# Paths read elsewhere

A program that is started in another directory reads an absolute path as before. It reads a relative one as
if that were joined to the directory it was started in, except that it follows as many links as ever from
there on.
-/

namespace CodeSearch.Files

variable {root : Tree} {follow : Bool} {links more : Nat} {here segs : List Name}

/-- A walk that does not run out of links is the same with more of them. -/
theorem walk_more (enough : walk root follow links here segs ≠ .error .tooManyLinks) (le : links ≤ more) :
    walk root follow more here segs = walk root follow links here segs := by
  induction links, here, segs using walk_induction generalizing more with
  | nil links here => rw [walk_nil, walk_nil]
  | cons links here seg rest shorter fewer =>
    cases above : root.at? here with
    | none => cases links <;> cases more <;> simp [walk, walkSegments, above]
    | some t =>
      cases dir : t.isDir with
      | false => cases links <;> cases more <;> simp [walk, walkSegments, above, dir]
      | true =>
        rw [walk_cons above dir] at enough ⊢
        rw [walk_cons above dir]
        by_cases idle : isIdle seg = true
        · simp only [if_pos idle] at enough ⊢
          exact shorter _ enough le
        by_cases up : (seg == dotDotName) = true
        · simp only [if_neg idle, if_pos up] at enough ⊢
          exact shorter _ enough le
        by_cases long : maxName < seg.length
        · simp only [if_neg idle, if_neg up, if_pos long]
        simp only [if_neg idle, if_neg up, if_neg long] at enough ⊢
        cases child : t.child? seg with
        | none => rfl
        | some s =>
          simp only [child] at enough
          cases s with
          | link target =>
            by_cases stop : (!follow && rest.isEmpty) = true
            · simp only [if_pos stop]
            · simp only [if_neg stop] at enough ⊢
              -- only here one of the links is used up
              cases links with
              | zero => exact absurd rfl enough
              | succ links =>
                obtain ⟨more, rfl⟩ := Nat.exists_eq_add_of_lt (Nat.lt_of_succ_le le)
                exact fewer links rfl _ _ enough (by omega)
          | file content mode => exact shorter _ enough le
          | dir entries => exact shorter _ enough le

namespace Disk

variable {d : Disk} {base path : String} {place : List Name} {off : List Name → Prop}

/-- The same files for a program that is started in another directory. -/
def startedIn (d : Disk) (place : List Name) : Disk := { d with cwd := place }

theorem find_startedIn_of_absolute (absolute : Path.isAbsolute path = true) (place : List Name) :
    (d.startedIn place).find follow (Utf8.encode path) = d.find follow (Utf8.encode path) := by
  have hstart (here : List Name) : startOf (Utf8.encode path) here = [] := by rw [startOf_encode, if_pos absolute]
  simp only [find, startedIn, hstart]

/-- What a relative path is for a program that is started in a directory, it is behind the path of that. -/
theorem find_startedIn (leads : d.LeadsTo off base place) (relative : Path.isAbsolute path = false)
    (nonempty : path ≠ "") (enough : d.find follow (Utf8.encode (Path.join base path)) ≠ .error .tooManyLinks) :
    (d.startedIn place).find follow (Utf8.encode path) = d.find follow (Utf8.encode (Path.join base path)) := by
  obtain ⟨before, hsegs, hbefore⟩ := splitPath_join base relative
  have hjoin_names : pathNames (Path.join base path) = pathNames base ++ pathNames path := by
    rw [pathNames, hsegs, names_append, hbefore]
    rfl
  by_cases nul : (Utf8.encode path).contains 0 = true
  · obtain ⟨name, hname, hzero⟩ := contains_nul_iff.1 nul
    have hjoin_name : name ∈ pathNames (Path.join base path) := hjoin_names ▸ List.mem_append_right _ hname
    have hjoin_nul : (Utf8.encode (Path.join base path)).contains 0 = true :=
      contains_nul_iff.2 ⟨name, hjoin_name, hzero⟩
    rw [find, find, if_pos nul, if_pos hjoin_nul]
  have hno_nul : ∀ name ∈ pathNames path, 0 ∉ name := fun name hname hzero =>
    nul (contains_nul_iff.2 ⟨name, hname, hzero⟩)
  have hjoin_no_nul : ∀ name ∈ pathNames (Path.join base path), 0 ∉ name := by
    intro name hname
    rw [hjoin_names, List.mem_append] at hname
    rcases hname with hname | hname
    · exact leads.no_nul name hname
    · exact hno_nul name hname
  have hstart : startOf (Utf8.encode path) place = place := by
    rw [startOf_encode, relative]
    rfl
  obtain ⟨fewer, hfewer, hwalk⟩ := (leads.leads.of_names (show names before = names _ from hbefore)).walk_append
    follow (splitPath (Utf8.encode path)) (.inr (List.splitOnP_ne_nil _ _))
  rw [find_of_no_nul (Path.join_ne_empty nonempty) hjoin_no_nul, hsegs, startOf_join relative, hwalk] at enough ⊢
  rw [find_of_no_nul nonempty hno_nul]
  change walk d.root follow maxLinks (startOf (Utf8.encode path) place) _ = _
  rw [hstart]
  exact walk_more enough hfewer

end Disk

end CodeSearch.Files
