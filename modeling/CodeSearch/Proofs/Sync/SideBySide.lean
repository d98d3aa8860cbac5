import CodeSearch.Proofs.Sync.Footprints

/-!
# Working copies side by side

Synchronizations keep apart when the directory of all working copies is there and its path does not lead
through one of them, and when it is missing and its path does not lead upwards. In the second case the first
synchronization that comes to it makes it for all, or finds out for all that it cannot be made.
-/

namespace CodeSearch.Sync

open Files Config
open CodeSearch.Path (join tidy)

def OwnedByAny (known : String → Prop) (place q : List Name) : Prop := ∃ x, known x ∧ Owned place x q

/-- The directory of all working copies is there, and its path does not lead through one of them. -/
structure Ready (known : String → Prop) (base : String) (place : List Name) (s : Site) : Prop where
  leads : s.disk.LeadsTo (OwnedByAny known place) base place
  clean : ∀ x, known x → Clean place x s

/-- Only the places of some repositories have changed. -/
structure Fits (known : String → Prop) (place : List Name) (first s : Site) : Prop where
  cwd : s.disk.cwd = first.disk.cwd
  files : ∀ q, ¬OwnedByAny known place q → s.disk.root.node? q = first.disk.root.node? q
  calls : ∀ dir, (∀ x, known x → dir ≠ workPlace place x) → callsAbout dir s.calls = callsAbout dir first.calls
  clean : ∀ x, known x → Clean place x s

def Disjoint (known : String → Prop) : Prop :=
  ∀ place x y q, known x → known y → Owned place x q → Owned place y q → x = y

variable {tool : Tool} {known : String → Prop} {base x y : String} {place : List Name}
  {first here there alone s s' : Site} {script : String → SyncScript} {todo : SyncScript}

theorem Ready.fits (ready : Ready known base place first) : Fits known place first first :=
  ⟨rfl, fun _ _ => rfl, fun _ _ => rfl, ready.clean⟩

theorem Fits.leads (fits : Fits known place first s) (ready : Ready known base place first) :
    s.disk.LeadsTo (OwnedByAny known place) base place where
  no_nul := ready.leads.no_nul
  leads := by
    rw [fits.cwd]
    exact ready.leads.leads.congr fits.files

theorem workPlace_ne (disjoint : Disjoint known) (hx : known x) (hy : known y) (ne : y ≠ x) :
    workPlace place y ≠ workPlace place x := fun h =>
  ne (disjoint place y x _ hy hx (.inl (List.prefix_refl _)) (.inl (h ▸ List.prefix_refl _)))

theorem Fits.touch (fits : Fits known place first s) (disjoint : Disjoint known) (hx : known x)
    (touches : Touches place x s s') : Fits known place first s' where
  cwd := touches.cwd.trans fits.cwd
  files q hq := (touches.files q fun h => hq ⟨x, hx, h⟩).trans (fits.files q hq)
  calls dir hdir := (touches.calls dir (hdir x hx)).trans (fits.calls dir hdir)
  clean y hy := by
    by_cases h : y = x
    · exact h ▸ touches.clean
    · have hclean := fits.clean y hy
      have hother : ∀ q, Owned place y q → s'.disk.root.node? q = s.disk.root.node? q := fun q hq =>
        touches.files q fun hown => h (disjoint place y x q hy hx hq hown)
      exact ⟨plain_congr hclean.work (hother _ (.inl (List.prefix_refl _))),
        plain_congr hclean.secret (hother _ (.inr (List.prefix_refl _)))⟩

theorem SameFor.touch (same : SameFor place y s alone) (disjoint : Disjoint known) (hx : known x) (hy : known y)
    (ne : y ≠ x) (touches : Touches place x s s') : SameFor place y s' alone where
  files q hq := (touches.files q fun h => ne (disjoint place y x q hy hx hq h)).trans (same.files q hq)
  calls := (touches.calls _ (workPlace_ne disjoint hx hy ne)).trans same.calls

/-! ## With the directory -/

/-- A synchronization on its way in its own places. -/
structure Late (known : String → Prop) (base : String) (place : List Name) (first : Site) (x : String)
    (here : Site) (todo : SyncScript) (alone : Site) : Prop where
  owned : todo.OwnedBy base x
  fits : Fits known place first here
  fits_alone : Fits known place first alone
  same : SameFor place x here alone

namespace Late

variable {dir label : String} {args : List String} {action : Action} {next : Bool → SyncScript}
  {goOn : Except Failure String → SyncScript}

theorem test (ready : Ready known base place first) (hx : known x)
    (late : Late known base place first x here (.test dir next) alone) :
    here.disk.isDir dir = alone.disk.isDir dir ∧
      Late known base place first x here (next (here.disk.isDir dir)) alone := by
  obtain ⟨howned, hhere, halone, hsame⟩ := late
  cases howned with
  | test kind rest =>
    subst kind
    refine ⟨Disk.isDir_congr ?_, rest _, hhere, halone, hsame⟩
    exact (hhere.leads ready).find_join_alike (halone.leads ready) (entry_workingName x) (hhere.clean x hx).work
      (halone.clean x hx).work true (hsame.files _ (.inl (List.prefix_refl _)))

theorem startPlace (ready : Ready known base place first) (hx : known x)
    (late : Late known base place first x here (.act (.call label dir args) goOn) alone) :
    Site.startPlace here.disk dir args = Site.startPlace alone.disk dir args := by
  obtain ⟨howned, hhere, halone, hsame⟩ := late
  refine Site.startPlace_congr ?_ args
  cases howned with
  | act kind rest =>
    cases kind with
    | run label args other =>
      exact (hhere.leads ready).find_join_alike (halone.leads ready) (entry_workingName x) (hhere.clean x hx).work
        (halone.clean x hx).work true (hsame.files _ (.inl (List.prefix_refl _)))
    | clone label url more => exact (hhere.leads ready).tidy.find_alike (halone.leads ready).tidy

theorem act (ready : Ready known base place first) (tool_local : tool.Local) (disjoint : Disjoint known)
    (hx : known x) (late : Late known base place first x here (.act action goOn) alone) :
    (Site.perform tool action here).1 = (Site.perform tool action alone).1 ∧
      Late known base place first x (Site.perform tool action here).2 (goOn (Site.perform tool action here).1)
        (Site.perform tool action alone).2 ∧
      Touches place x here (Site.perform tool action here).2 := by
  obtain ⟨howned, hhere, halone, hsame⟩ := late
  cases howned with
  | act kind rest =>
    obtain ⟨hanswer, hafter, htouches⟩ := perform_owned tool_local (hhere.leads ready) (halone.leads ready) hsame
      (hhere.clean x hx) (halone.clean x hx) kind
    have halone' : Touches place x alone (Site.perform tool action alone).2 :=
      (perform_owned tool_local (halone.leads ready) (halone.leads ready) ⟨fun _ _ => rfl, rfl⟩
        (halone.clean x hx) (halone.clean x hx) kind).2.2
    exact ⟨hanswer, ⟨rest _, hhere.touch disjoint hx htouches, halone.touch disjoint hx halone', hafter⟩,
      htouches⟩

theorem touch (disjoint : Disjoint known) (hx : known x) (hy : known y) (ne : y ≠ x)
    (late : Late known base place first y here todo alone) (touches : Touches place x here s') :
    Late known base place first y s' todo alone :=
  ⟨late.owned, late.fits.touch disjoint hx touches, late.fits_alone, late.same.touch disjoint hx hy ne touches⟩

theorem agree (some : ∃ x, known x)
    (ended : ∀ x, known x → ∃ a alone, Late known base place first x here (.done a) alone ∧
      Late known base place first x there (.done a) alone) : here.Alike there := by
  obtain ⟨x, hx⟩ := some
  obtain ⟨a, alone, hhere, hthere⟩ := ended x hx
  refine ⟨hhere.fits.cwd.trans hthere.fits.cwd.symm, fun q => ?_, fun dir => ?_⟩
  · by_cases hq : OwnedByAny known place q
    · obtain ⟨y, hy, hown⟩ := hq
      obtain ⟨_, _, hhere', hthere'⟩ := ended y hy
      exact (hhere'.same.files q hown).trans (hthere'.same.files q hown).symm
    · exact (hhere.fits.files q hq).trans (hthere.fits.files q hq).symm
  · by_cases hdir : ∀ y, known y → dir ≠ workPlace place y
    · exact (hhere.fits.calls dir hdir).trans (hthere.fits.calls dir hdir).symm
    · obtain ⟨y, hy, rfl⟩ : ∃ y, known y ∧ dir = workPlace place y := by simpa using hdir
      obtain ⟨_, _, hhere', hthere'⟩ := ended y hy
      exact hhere'.same.calls.trans hthere'.same.calls.symm

end Late

/-- With the directory that holds them synchronizations keep apart. -/
theorem apart_of_ready (tool_local : tool.Local) (disjoint : Disjoint known)
    (ready : Ready known base place first) (owned : ∀ x, known x → (script x).OwnedBy base x) :
    Apart tool known script first (Late known base place first) where
  start hx := ⟨owned _ hx, ready.fits, ready.fits, fun _ _ => rfl, rfl⟩
  test hx late := late.test ready hx
  place hx late := late.startPlace ready hx
  act hx late := by
    obtain ⟨hanswer, hlate, -⟩ := late.act ready tool_local disjoint hx
    exact ⟨hanswer, hlate⟩
  others hx hy ne late other := other.touch disjoint hx hy ne (late.act ready tool_local disjoint hx).2.2
  agree := Late.agree

/-! ## Without the directory -/

/-- Where the directory is missing it can be made, and then no working copy is there. -/
structure Makes (known : String → Prop) (base : String) (place : List Name) (start first : Site) : Prop where
  ready : Ready known base place first
  nonempty : tidy base ≠ ""
  missing : start.disk.isDir (tidy base) = false
  makes : Site.makeDirs (tidy base) start = (.ok (tidy base), first)
  new : ∀ x, known x → first.disk.root.node? (workPlace place x) = none

/-- A synchronization that has not come to the directory. Others may have made it. -/
structure Early (known : String → Prop) (base : String) (place : List Name) (start first : Site) (x : String)
    (here : Site) (todo : SyncScript) (alone : Site) : Prop where
  begins : Begins base x todo
  alone_eq : alone = start
  sees : here = start ∨ Fits known place first here ∧ SameFor place x here first

namespace Early

variable {start : Site} {dir : String} {action : Action} {next : Bool → SyncScript}
  {goOn : Except Failure String → SyncScript}

theorem not_fits (makes : Makes known base place start first) : ¬Fits known place first start := fun fits => by
  have htidy := (fits.leads makes.ready).tidy
  have hdir := Disk.isDir_iff.2 ⟨makes.nonempty, place, htidy.no_nul, htidy.leads.mono fun _ => False.elim⟩
  rw [makes.missing] at hdir
  cases hdir

theorem test (makes : Makes known base place start first) (hx : known x)
    (early : Early known base place start first x here (.test dir next) alone) :
    here.disk.isDir dir = alone.disk.isDir dir ∧
      Early known base place start first x here (next (here.disk.isDir dir)) alone := by
  obtain ⟨hbegins, rfl, hsees⟩ := early
  cases hbegins with
  | look there missing =>
    have hstart := Disk.isDir_join (entry_workingName x) makes.nonempty makes.missing
    have hhere : here.disk.isDir (join base (workingName x)) = false := by
      rcases hsees with rfl | ⟨hfits, hsame⟩
      · exact hstart
      · refine Bool.eq_false_iff.2 fun h => ?_
        have hdir := (hfits.leads makes.ready).dir_of_isDir_join (entry_workingName x) (hfits.clean x hx).work h
        have hnone := (hsame.files _ (.inl (List.prefix_refl _))).trans (makes.new x hx)
        cases hnone.symm.trans hdir
    rw [hhere, hstart]
    exact ⟨rfl, missing, rfl, hsees⟩

theorem act (makes : Makes known base place start first)
    (early : Early known base place start first x here (.act action goOn) alone) :
    (Site.perform tool action here).1 = (Site.perform tool action alone).1 ∧
      Late known base place first x (Site.perform tool action here).2 (goOn (Site.perform tool action here).1)
        (Site.perform tool action alone).2 ∧
      (here = start ∧ (Site.perform tool action here).2 = first ∨ (Site.perform tool action here).2 = here) := by
  obtain ⟨hbegins, rfl, hsees⟩ := early
  cases hbegins with
  | make refused made =>
    have halone : Site.perform tool (.makeDirs (tidy base)) alone = (.ok (tidy base), first) := makes.makes
    have hfirst : Fits known place first first := makes.ready.fits
    rcases hsees with rfl | ⟨hfits, hsame⟩
    · rw [halone]
      exact ⟨rfl, ⟨made _, hfirst, hfirst, fun _ _ => rfl, rfl⟩, .inl ⟨rfl, rfl⟩⟩
    · have hhere : Site.perform tool (.makeDirs (tidy base)) here = (.ok (tidy base), here) := by
        simp only [Site.perform, Site.makeDirs, (hfits.leads makes.ready).tidy.makeDirs]
      rw [halone, hhere]
      exact ⟨rfl, ⟨made _, hfits, hfirst, hsame⟩, .inr rfl⟩

end Early

/-- When the directory has to be made synchronizations keep apart. -/
theorem apart_of_makes {start : Site} (tool_local : tool.Local) (disjoint : Disjoint known)
    (makes : Makes known base place start first) (begins : ∀ x, known x → Begins base x (script x)) :
    Apart tool known script start fun x here todo alone =>
      Early known base place start first x here todo alone ∨ Late known base place first x here todo alone where
  start hx := .inl ⟨begins _ hx, rfl, .inl rfl⟩
  test hx := by
    rintro (early | late)
    · obtain ⟨hsame, hearly⟩ := early.test makes hx
      exact ⟨hsame, .inl hearly⟩
    · obtain ⟨hsame, hlate⟩ := late.test makes.ready hx
      exact ⟨hsame, .inr hlate⟩
  place hx := by
    rintro (early | late)
    · cases early.begins
    · exact late.startPlace makes.ready hx
  act hx := by
    rintro (early | late)
    · obtain ⟨hanswer, hlate, -⟩ := early.act makes
      exact ⟨hanswer, .inr hlate⟩
    · obtain ⟨hanswer, hlate, -⟩ := late.act makes.ready tool_local disjoint hx
      exact ⟨hanswer, .inr hlate⟩
  others hx hy ne := by
    rintro (early | late) (other | other)
    · -- when one has made the directory, those that have not come to it find it there
      rcases (early.act makes).2.2 with ⟨-, hafter⟩ | hafter
      · rw [hafter]
        exact .inl ⟨other.begins, other.alone_eq, .inr ⟨makes.ready.fits, fun _ _ => rfl, rfl⟩⟩
      · rw [hafter]
        exact .inl other
    · rcases (early.act makes).2.2 with ⟨rfl, -⟩ | hafter
      · exact absurd other.fits (Early.not_fits makes)
      · rw [hafter]
        exact .inr other
    · have htouches := (late.act makes.ready tool_local disjoint hx).2.2
      rcases other.sees with rfl | ⟨hfits, hsame⟩
      · exact absurd late.fits (Early.not_fits makes)
      · exact .inl ⟨other.begins, other.alone_eq,
          .inr ⟨hfits.touch disjoint hx htouches, hsame.touch disjoint hx hy ne htouches⟩⟩
    · exact .inr (other.touch disjoint hx hy ne (late.act makes.ready tool_local disjoint hx).2.2)
  agree := by
    intro here there some ended
    have hlate : ∀ x, known x → ∃ a alone, Late known base place first x here (.done a) alone ∧
        Late known base place first x there (.done a) alone := by
      intro x hx
      obtain ⟨a, alone, hhere, hthere⟩ := ended x hx
      refine ⟨a, alone, hhere.resolve_left fun early => ?_, hthere.resolve_left fun early => ?_⟩ <;>
        cases early.begins
    exact Late.agree some hlate

/-! ## Where it cannot be made -/

/-- The directory is missing and cannot be made, and trying a second time leaves everything as it is. -/
structure Blocked (base : String) (e : Failure) (start stopped : Site) : Prop where
  nonempty : tidy base ≠ ""
  missing : start.disk.isDir (tidy base) = false
  stays_missing : stopped.disk.isDir (tidy base) = false
  fails : Site.makeDirs (tidy base) start = (.error e, stopped)
  fails_again : Site.makeDirs (tidy base) stopped = (.error e, stopped)

/-- A synchronization goes on to the attempt to make the directory, and ends there. -/
inductive Stops (base : String) (start stopped : Site) (x : String) : Site → SyncScript → Site → Prop
  | before {here : Site} {todo : SyncScript} (begins : Begins base x todo) (sees : here = start ∨ here = stopped) :
      Stops base start stopped x here todo start
  | after (a : Except Failure String) : Stops base start stopped x stopped (.done a) stopped

/-- When the directory cannot be made synchronizations keep apart. -/
theorem apart_of_blocked {start stopped : Site} {e : Failure} (blocked : Blocked base e start stopped)
    (begins : ∀ x, known x → Begins base x (script x)) :
    Apart tool known script start (Stops base start stopped) where
  start hx := .before (begins _ hx) (.inl rfl)
  test _ stops := by
    cases stops with
    | before hbegins sees =>
      cases hbegins with
      | look there missing =>
        have hstart := fun x => Disk.isDir_join (entry_workingName x) blocked.nonempty blocked.missing
        have hstopped := fun x => Disk.isDir_join (entry_workingName x) blocked.nonempty blocked.stays_missing
        rcases sees with rfl | rfl
        · rw [hstart]
          exact ⟨rfl, .before missing (.inl rfl)⟩
        · rw [hstart, hstopped]
          exact ⟨rfl, .before missing (.inr rfl)⟩
  place _ stops := by
    cases stops with
    | before hbegins sees => cases hbegins
  act _ stops := by
    cases stops with
    | before hbegins sees =>
      cases hbegins with
      | make refused made =>
        simp only [Site.perform]
        rcases sees with rfl | rfl
        · rw [blocked.fails, refused]
          exact ⟨rfl, .after _⟩
        · rw [blocked.fails, blocked.fails_again, refused]
          exact ⟨rfl, .after _⟩
  others _ _ _ stops other := by
    cases stops with
    | before hbegins sees =>
      cases hbegins with
      | make refused made =>
        -- whoever comes first leaves the site stopped, and those who come later leave it as it is
        have hafter : ∀ here, here = start ∨ here = stopped →
            (Site.perform tool (.makeDirs (tidy base)) here).2 = stopped := by
          rintro here (rfl | rfl)
          · exact congrArg Prod.snd blocked.fails
          · exact congrArg Prod.snd blocked.fails_again
        rw [hafter _ sees]
        cases other with
        | before hbegins _ => exact .before hbegins (.inr rfl)
        | after a => exact .after a
  agree := by
    rintro here there ⟨x, hx⟩ ended
    obtain ⟨a, alone, hhere, hthere⟩ := ended x hx
    cases hhere with
    | before hbegins _ => cases hbegins
    | after =>
      cases hthere with
      | before hbegins _ => cases hbegins
      | after => exact .refl stopped

end CodeSearch.Sync
