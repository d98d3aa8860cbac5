import CodeSearch.Proofs.Files.Paths

/-!
# Where segments lead

Segments that lead to a directory, and the places that they come by. What stands elsewhere does not matter,
and neither do idle segments.
-/

namespace CodeSearch.Files

/-- Segments lead from a place to a directory, over some links at most, and by no place that is off the
way. -/
inductive Leads (look : List Name → Option Node) (off : List Name → Prop) (place : List Name) :
    Nat → List Name → List Name → Prop
  | here {links : Nat} (dir : look place = some .dir) (clear : ¬off place) :
      Leads look off place links place []
  | idle {links : Nat} {here rest : List Name} {seg : Name} (idle : isIdle seg = true)
      (dir : look here = some .dir) (clear : ¬off here) (next : Leads look off place links here rest) :
      Leads look off place links here (seg :: rest)
  | up {links : Nat} {here rest : List Name} (dir : look here = some .dir) (clear : ¬off here)
      (next : Leads look off place links here.dropLast rest) :
      Leads look off place links here (dotDotName :: rest)
  | down {links : Nat} {here rest : List Name} {seg : Name} (plain : PlainName seg)
      (dir : look here = some .dir) (clear : ¬off here)
      (next : Leads look off place links (here ++ [seg]) rest) :
      Leads look off place links here (seg :: rest)
  | link {links : Nat} {here rest : List Name} {seg : Name} {target : Bytes} (plain : PlainName seg)
      (dir : look here = some .dir) (clear : ¬off here)
      (found : look (here ++ [seg]) = some (.link target)) (aside : ¬off (here ++ [seg]))
      (next : Leads look off place links (startOf target here) (splitPath target ++ rest)) :
      Leads look off place (links + 1) here (seg :: rest)

def names (segs : List Name) : List Name := segs.filter fun seg => !isIdle seg

variable {root : Tree} {follow : Bool} {links : Nat} {here place : List Name} {seg : Name}
  {segs rest more : List Name} {look after : List Name → Option Node} {off : List Name → Prop}

theorem names_append : names (segs ++ more) = names segs ++ names more := List.filter_append ..

theorem names_idle (idle : isIdle seg = true) : names (seg :: segs) = names segs := by
  simp [names, idle]

theorem names_cons (busy : ¬isIdle seg = true) : names (seg :: segs) = seg :: names segs := by
  simp [names, busy]

@[simp] theorem names_names (segs : List Name) : names (names segs) = names segs := by
  simp [names]

/-- The segments up to one that is not idle are those that are not, with idle ones among them. -/
theorem names_eq_append_cons (h : names segs = rest ++ seg :: more) :
    ∃ before behind, segs = before ++ seg :: behind ∧ names before = rest ∧ names behind = more := by
  obtain ⟨first, last, rfl, hfirst, hlast⟩ := List.filter_eq_append_iff.1 h
  obtain ⟨idles, behind, rfl, hidle, -, hbehind⟩ := List.filter_eq_cons_iff.1 hlast
  refine ⟨first ++ idles, behind, (List.append_assoc ..).symm, ?_, hbehind⟩
  have hnone : names idles = [] := List.filter_eq_nil_iff.2 hidle
  rw [names_append, hnone, List.append_nil]
  exact hfirst

theorem names_eq_cons (h : names segs = seg :: more) :
    ∃ idles behind, segs = idles ++ seg :: behind ∧ names idles = [] ∧ names behind = more :=
  names_eq_append_cons (show names segs = [] ++ seg :: more from h)

namespace Leads

theorem dir (h : Leads look off place links here segs) : look here = some .dir := by
  cases h <;> assumption

theorem clear (h : Leads look off place links here segs) : ¬off here := by
  cases h <;> assumption

theorem there (h : Leads look off place links here segs) : look place = some .dir ∧ ¬off place := by
  induction h with
  | here dir clear => exact ⟨dir, clear⟩
  | _ => assumption

/-- What is off the way may change. -/
theorem congr (h : Leads look off place links here segs) (same : ∀ q, ¬off q → after q = look q) :
    Leads after off place links here segs := by
  induction h with
  | here dir clear => exact .here (same _ clear ▸ dir) clear
  | idle idle dir clear next ih => exact .idle idle (same _ clear ▸ dir) clear ih
  | up dir clear next ih => exact .up (same _ clear ▸ dir) clear ih
  | down plain dir clear next ih => exact .down plain (same _ clear ▸ dir) clear ih
  | link plain dir clear found aside next ih =>
    exact .link plain (same _ clear ▸ dir) clear (same _ aside ▸ found) aside ih

theorem mono {other : List Name → Prop} (h : Leads look off place links here segs) (less : ∀ q, other q → off q) :
    Leads look other place links here segs := by
  induction h with
  | here dir clear => exact .here dir (mt (less _) clear)
  | idle idle dir clear next ih => exact .idle idle dir (mt (less _) clear) ih
  | up dir clear next ih => exact .up dir (mt (less _) clear) ih
  | down plain dir clear next ih => exact .down plain dir (mt (less _) clear) ih
  | link plain dir clear found aside next ih =>
    exact .link plain dir (mt (less _) clear) found (mt (less _) aside) ih

theorem left (h : Leads look off place links here (segs ++ more)) :
    ∃ middle, Leads look off middle links here segs := by
  generalize hall : segs ++ more = all at h
  induction h generalizing segs with
  | here dir clear =>
    obtain rfl := (List.append_eq_nil_iff.1 hall).1
    exact ⟨_, .here dir clear⟩
  | idle idle dir clear next ih =>
    cases segs with
    | nil => exact ⟨_, .here dir clear⟩
    | cons first segs =>
      cases hall
      obtain ⟨middle, hmiddle⟩ := ih rfl
      exact ⟨middle, .idle idle dir clear hmiddle⟩
  | up dir clear next ih =>
    cases segs with
    | nil => exact ⟨_, .here dir clear⟩
    | cons first segs =>
      cases hall
      obtain ⟨middle, hmiddle⟩ := ih rfl
      exact ⟨middle, .up dir clear hmiddle⟩
  | down plain dir clear next ih =>
    cases segs with
    | nil => exact ⟨_, .here dir clear⟩
    | cons first segs =>
      cases hall
      obtain ⟨middle, hmiddle⟩ := ih rfl
      exact ⟨middle, .down plain dir clear hmiddle⟩
  | link plain dir clear found aside next ih =>
    cases segs with
    | nil => exact ⟨_, .here dir clear⟩
    | cons first segs =>
      cases hall
      obtain ⟨middle, hmiddle⟩ := ih (List.append_assoc ..)
      exact ⟨middle, .link plain dir clear found aside hmiddle⟩

theorem idles {idles : List Name} (h : Leads look off place links here segs) (idle : names idles = []) :
    Leads look off place links here (idles ++ segs) := by
  induction idles with
  | nil => exact h
  | cons seg idles ih =>
    by_cases hidle : isIdle seg = true
    · rw [names_idle hidle] at idle
      exact .idle hidle h.dir h.clear (ih idle)
    · rw [names_cons hidle] at idle
      cases idle

/-- Only segments that are not idle count. -/
theorem of_names (h : Leads look off place links here segs) (same : names more = names segs) :
    Leads look off place links here more := by
  induction h generalizing more with
  | @here links dir clear =>
    rw [← List.append_nil more]
    exact Leads.idles (.here dir clear) same
  | idle idle dir clear next ih => exact ih (same.trans (names_idle idle))
  | up dir clear next ih =>
    rw [names_cons (by decide)] at same
    obtain ⟨idles, behind, rfl, hidle, hrest⟩ := names_eq_cons same
    exact Leads.idles (.up dir clear (ih hrest)) hidle
  | down plain dir clear next ih =>
    rw [names_cons plain.not_isIdle] at same
    obtain ⟨idles, behind, rfl, hidle, hrest⟩ := names_eq_cons same
    exact Leads.idles (.down plain dir clear (ih hrest)) hidle
  | link plain dir clear found aside next ih =>
    rw [names_cons plain.not_isIdle] at same
    obtain ⟨idles, behind, rfl, hidle, hrest⟩ := names_eq_cons same
    refine Leads.idles (.link plain dir clear found aside (ih ?_)) hidle
    rw [names_append, names_append, hrest]

/-- A walk that begins with segments that lead somewhere goes on from there, with no more links. -/
theorem walk_append (h : Leads root.node? off place links here segs) (follow : Bool) (rest : List Name)
    (goes : follow = true ∨ rest ≠ []) :
    ∃ fewer ≤ links, walk root follow links here (segs ++ rest) = walk root follow fewer place rest := by
  induction h with
  | @here links dir clear => exact ⟨links, Nat.le_refl links, rfl⟩
  | idle idle dir clear next ih =>
    obtain ⟨t, above, hdir⟩ := Tree.node?_eq_some_dir dir
    rwa [List.cons_append, walk_idle above hdir idle]
  | up dir clear next ih =>
    obtain ⟨t, above, hdir⟩ := Tree.node?_eq_some_dir dir
    rwa [List.cons_append, walk_up above hdir]
  | down plain dir clear next ih =>
    obtain ⟨t, above, hdir⟩ := Tree.node?_eq_some_dir dir
    obtain ⟨s, hs, hnode⟩ := Option.map_eq_some_iff.1 (Tree.node?_concat above ▸ next.dir)
    rwa [List.cons_append, walk_plain above plain hs (by rintro target rfl; cases hnode)]
  | @link links here behind seg target plain dir clear found aside next ih =>
    obtain ⟨t, above, hdir⟩ := Tree.node?_eq_some_dir dir
    obtain ⟨s, hs, hnode⟩ := Option.map_eq_some_iff.1 (Tree.node?_concat above ▸ found)
    have hgoes : (!follow && (behind ++ rest).isEmpty) = false := by
      rcases goes with rfl | hrest
      · rfl
      · cases follow <;> simp [hrest]
    cases s with
    | link target =>
      cases hnode
      rw [List.cons_append, walk_link above plain hs hgoes, ← List.append_assoc]
      obtain ⟨fewer, hle, hwalk⟩ := ih
      exact ⟨fewer, Nat.le_succ_of_le hle, hwalk⟩
    | _ => cases hnode

/-- A walk along segments that lead somewhere finds something, if only a last link that it does not follow. -/
theorem walk_there (h : Leads root.node? off place links here segs) (follow : Bool) :
    ∃ found t, walk root follow links here segs = .ok found ∧ found.tree = some t := by
  induction h with
  | here dir clear =>
    obtain ⟨t, above, -⟩ := Tree.node?_eq_some_dir dir
    exact ⟨_, t, walk_nil, above⟩
  | idle idle dir clear next ih =>
    obtain ⟨t, above, hdir⟩ := Tree.node?_eq_some_dir dir
    rwa [walk_idle above hdir idle]
  | up dir clear next ih =>
    obtain ⟨t, above, hdir⟩ := Tree.node?_eq_some_dir dir
    rwa [walk_up above hdir]
  | down plain dir clear next ih =>
    obtain ⟨t, above, hdir⟩ := Tree.node?_eq_some_dir dir
    obtain ⟨s, hs, hnode⟩ := Option.map_eq_some_iff.1 (Tree.node?_concat above ▸ next.dir)
    rwa [walk_plain above plain hs (by rintro target rfl; cases hnode)]
  | @link links here rest seg target plain dir clear found aside next ih =>
    obtain ⟨t, above, hdir⟩ := Tree.node?_eq_some_dir dir
    obtain ⟨s, hs, hnode⟩ := Option.map_eq_some_iff.1 (Tree.node?_concat above ▸ found)
    cases s with
    | link target =>
      cases hnode
      cases hstop : !follow && rest.isEmpty with
      | true =>
        refine ⟨⟨here ++ [seg], some (.link target)⟩, .link target, ?_, rfl⟩
        rw [walk_cons_plain above hdir plain, hs]
        simp only [hstop, if_true]
      | false => rwa [walk_link above plain hs hstop]
    | _ => cases hnode

/-- A walk that ends at a directory, or at nothing where a directory stands afterwards, shows where its
segments lead. -/
theorem of_walk {found : Option Tree} (h : walk root follow links here segs = .ok ⟨place, found⟩)
    (kept : ∀ q node, root.node? q = some node → look q = some node ∧ ¬off q)
    (dir : look place = some .dir) (clear : ¬off place) : Leads look off place links here segs := by
  induction links, here, segs using walk_induction with
  | nil links here =>
    cases walk_nil.symm.trans h
    exact .here dir clear
  | cons links here seg rest shorter fewer =>
    obtain ⟨t, above, isDir, stride⟩ := stride_of_walk h
    obtain ⟨hhere, hclear⟩ := kept here .dir (Tree.node?_of_isDir above isDir)
    cases stride with
    | idle idle next => exact .idle idle hhere hclear (shorter _ next)
    | up up next => exact up ▸ .up hhere hclear (shorter _ next)
    | down plain child next => exact .down plain hhere hclear (shorter _ next)
    | missing plain child idle ends =>
      cases ends
      refine .down plain hhere hclear ?_
      rw [← List.append_nil rest]
      exact Leads.idles (.here dir clear) (List.filter_eq_nil_iff.2 (by simpa using idle))
    | stop plain child ends =>
      cases ends
      obtain ⟨hlook, -⟩ := kept _ (.link _) (by rw [Tree.node?_concat above, child]; rfl)
      cases hlook.symm.trans dir
    | link plain child next =>
      obtain ⟨hlook, haside⟩ := kept _ (.link _) (by rw [Tree.node?_concat above, child]; rfl)
      exact .link plain hhere hclear hlook haside (fewer _ rfl _ _ next)

end Leads

end CodeSearch.Files
