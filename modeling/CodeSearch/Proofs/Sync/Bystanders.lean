import CodeSearch.Proofs.Sync.Confluence
import CodeSearch.Proofs.Sync.Options

/-!
# Repositories that are not named

What is done when some repositories are synchronized, one after another or at once, belongs to them: no call is
started for another one. With a tool that keeps to the directory that a call is about, all that belongs to the
others stays as it is. It does not matter whether a name is given more than once.
-/

namespace CodeSearch

open Files Config Sync
open CodeSearch.Path (join)

variable {config : Config} {tool : Tool} {names : List String} {site : Site}

/-! ## Calls -/

/-- The actions that belong to the synchronization of one of some repositories. -/
def OwnedByNamed (base : String) (names : List String) (action : Action) : Prop :=
  ∃ name ∈ names, Owns base name action

theorem uses_sync_named {name : String} (named : name ∈ names)
    (known : (Coordinator.ofConfig config).contains name = true) :
    ((Coordinator.ofConfig config).sync name).Uses (fun _ => True) (OwnedByNamed config.dbpath names) :=
  (begins_sync known).2.ownedBy.imp (fun _ _ => trivial) fun _ owns => ⟨name, named, owns⟩

theorem uses_syncMany_named (known : ∀ name ∈ names, (Coordinator.ofConfig config).contains name = true) :
    ((Coordinator.ofConfig config).syncMany names).Uses (fun _ => True) (OwnedByNamed config.dbpath names) :=
  Coordinator.uses_syncMany_of_named fun name named => uses_sync_named named (known name named)

/-- Whatever the tool does, the calls that are started at once are for the repositories that are named. -/
theorem Sync.Batch.startsOnly_named {moves : List BatchMove} {b : Batch}
    (known : ∀ name ∈ names, (Coordinator.ofConfig config).contains name = true)
    (run : runMoves (Batch.step (.ofConfig config) tool) (Batch.start (.ofConfig config) names site) moves = some b) :
    site.StartsOnly (OwnedByNamed config.dbpath names) b.site := by
  have huses : ∀ name ∈ names, ∀ target, (Coordinator.ofConfig config).find name = .ok target →
      (Coordinator.syncTarget target).Uses (fun _ => True) (OwnedByNamed config.dbpath names) := by
    intro name named target found
    have hsync := uses_sync_named named (known name named)
    rwa [Coordinator.sync, found] at hsync
  exact startsOnly_of_named huses run

/-! ## Files -/

namespace Sync

variable {known : String → Prop} {base x y label dir : String} {place : List Name} {args : List String}
  {first s s' : Site} {old new : Phase} {task after : Task} {action : Action}

/-- An action of a synchronization touches what belongs to its repository. -/
theorem Fits.perform (fits : Fits known place first s) (ready : Ready known base place first)
    (tool_local : tool.Local) (hx : known x) (owns : Owns base x action) :
    Touches place x s (Site.perform tool action s).2 :=
  (perform_owned tool_local (fits.leads ready) (fits.leads ready) ⟨fun _ _ => rfl, rfl⟩ (fits.clean x hx)
    (fits.clean x hx) owns).2.2

theorem Fits.run {α : Type} {script : Script α} {looks : String → Prop} (fits : Fits known place first s)
    (ready : Ready known base place first) (tool_local : tool.Local) (disjoint : Disjoint known)
    (uses : script.Uses looks fun action => ∃ x, known x ∧ Owns base x action) :
    Fits known place first (script.run tool s).2 := by
  induction uses generalizing s with
  | done a => exact fits
  | act kind _ ih =>
    obtain ⟨x, hx, owns⟩ := kind
    exact ih _ (fits.touch disjoint hx (fits.perform ready tool_local hx owns))
  | test _ _ ih => exact ih _ fits

/-- A call of one repository starts at the same place when another one is touched. -/
theorem startPlace_of_touches (ready : Ready known base place first) (disjoint : Disjoint known)
    (fits : Fits known place first s) (hx : known x) (hy : known y) (ne : y ≠ x) (touches : Touches place x s s')
    (owns : Owns base y (.call label dir args)) :
    Site.startPlace s'.disk dir args = Site.startPlace s.disk dir args := by
  have hlate : Late known base place first y s' (.act (.call label dir args) .done) s :=
    ⟨.act owns fun _ => .done _, fits.touch disjoint hx touches, fits,
      SameFor.touch ⟨fun _ _ => rfl, rfl⟩ disjoint hx hy ne touches⟩
  exact hlate.startPlace ready hy

namespace Batch

variable {c : Coordinator VcsDriver} {b b' : Batch} {i : Nat} {q : List Name}
  {next : Except Failure String → SyncScript}

/-- Every task keeps to what belongs to its repository, and where the tool works for one it would start now. -/
structure Tended (known : String → Prop) (base : String) (place : List Name) (first : Site) (b : Batch) : Prop where
  fits : Fits known place first b.site
  owned : ∀ i x phase task, b.At i x phase task → known x ∧ task.script.OwnedBy base x
  works : ∀ i x phase label dir args next q, b.At i x phase ⟨.act (.call label dir args) next, some q⟩ →
    Site.startPlace b.site.disk dir args = .ok q

theorem Sound.operating_of_works (sound : b.Sound c)
    (place : b.At i x old ⟨.act (.call label dir args) next, some q⟩) :
    ∃ operation, old = .operating operation := by
  have hfits := sound.fits _ _ _ _ place
  cases old with
  | operating operation => exact ⟨operation, rfl⟩
  | queued | locked | permitted =>
    obtain ⟨_, _, heq⟩ := hfits
    cases heq
  | looked seen => cases hfits
  | ended result | leaving result | finished result => cases hfits

/-- An advance of a task touches what belongs to its repository, if anything. -/
theorem Tended.advance (tended : Tended known base place first b) (ready : Ready known base place first)
    (tool_local : tool.Local) (here : b.At i x old task) (advance : Advance tool old task b.site new after s') :
    Touches place x b.site s' ∧ after.script.OwnedBy base x ∧
      (∀ label dir args next q, after = ⟨.act (.call label dir args) next, some q⟩ →
        Site.startPlace s'.disk dir args = .ok q) ∧
      (s' = b.site ∨ ∃ operation, old = .operating operation) := by
  obtain ⟨hx, howned⟩ := tended.owned _ _ _ _ here
  have hstays := Touches.refl (tended.fits.clean x hx)
  have hworks := tended.works i x old
  cases advance with
  | lock | permit | operate | finish | giveBack =>
    exact ⟨hstays, howned, fun label dir args next q heq => hworks _ _ _ _ _ (heq ▸ here), .inl rfl⟩
  | look | test =>
    cases howned with
    | test _ rest => exact ⟨hstays, rest _, fun _ _ _ _ _ => not_working _ _ _ _ _, .inl rfl⟩
  | act =>
    cases howned with
    | act kind rest =>
      exact ⟨tended.fits.perform ready tool_local hx kind, rest _, fun _ _ _ _ _ => not_working _ _ _ _ _,
        .inr ⟨_, rfl⟩⟩
  | launch starts =>
    refine ⟨hstays, howned, fun label dir args next q heq => ?_, .inl rfl⟩
    cases heq
    exact starts
  | @reply operation label dir args next site q =>
    have hstart := hworks _ _ _ _ _ here
    cases howned with
    | act kind rest =>
      have hwork : Site.work tool label dir args q b.site = Site.perform tool (.call label dir args) b.site := by
        simp only [Site.perform, Site.call, hstart]
      rw [hwork]
      exact ⟨tended.fits.perform ready tool_local hx kind, rest _, fun _ _ _ _ _ => not_working _ _ _ _ _,
        .inr ⟨_, rfl⟩⟩

theorem Tended.step {move : BatchMove} (tended : Tended known base place first b) (sound : b.Sound c)
    (ready : Ready known base place first) (tool_local : tool.Local) (disjoint : Disjoint known)
    (begins : ∀ x ∈ b.waiting, known x ∧ (c.sync x).OwnedBy base x) (h : Batch.step c tool b move = some b') :
    Tended known base place first b' := by
  cases sound.change_of_step h with
  | refuse _ _ change | collect _ change => exact change ▸ ⟨tended.fits, tended.owned, tended.works⟩
  | @begin k name target waiting found change =>
    subst change
    refine ⟨tended.fits, fun j y phase own there => ?_, fun j y phase label dir args next q there => ?_⟩
    · rcases (at_begin sound.length).1 there with there | ⟨-, rfl, -, rfl⟩
      · exact tended.owned _ _ _ _ there
      · obtain ⟨hknown, howned⟩ := begins _ (List.mem_of_getElem? waiting)
        rw [Coordinator.sync, found] at howned
        exact ⟨hknown, howned⟩
    · rcases (at_begin sound.length).1 there with there | ⟨-, -, -, heq⟩
      · exact tended.works _ _ _ _ _ _ _ _ there
      · cases congrArg Task.working heq
  | @advance i x old new task after here advance moves _ _ =>
    obtain ⟨htouches, howned, hworks, hstill⟩ := tended.advance ready tool_local here advance
    have hx := (tended.owned _ _ _ _ here).1
    refine ⟨tended.fits.touch disjoint hx htouches, fun j y phase own there => ?_,
      fun j y phase label dir args next q there => ?_⟩ <;> rw [moves] at there <;> split at there
    · obtain ⟨rfl, -, rfl⟩ := there
      exact ⟨hx, howned⟩
    · exact tended.owned _ _ _ _ there
    · obtain ⟨-, -, heq⟩ := there
      exact hworks _ _ _ _ _ heq.symm
    · rename_i hne
      have hbefore := tended.works _ _ _ _ _ _ _ _ there
      rcases hstill with hsame | ⟨operation, rfl⟩
      · rw [hsame]
        exact hbefore
      · -- both tasks have the lock of their repository, so it is not the same one
        obtain ⟨operation', rfl⟩ := sound.operating_of_works there
        have hother : y ≠ x := by
          rintro rfl
          exact hne (sound.machine.holds_unique ⟨_, there.1, rfl⟩ ⟨_, here.1, rfl⟩)
        obtain ⟨hy, hscript⟩ := tended.owned _ _ _ _ there
        cases hscript with
        | act owns _ => rw [startPlace_of_touches ready disjoint tended.fits hx hy hother htouches owns, hbefore]
  | @unlock i x result task here moves _ same _ =>
    refine ⟨same ▸ tended.fits, fun j y phase own there => ?_, fun j y phase label dir args next q there => ?_⟩ <;>
      rw [moves] at there <;> split at there
    · obtain ⟨rfl, -, rfl⟩ := there
      exact tended.owned _ _ _ _ here
    · exact tended.owned _ _ _ _ there
    · obtain ⟨-, -, heq⟩ := there
      rw [same]
      exact tended.works _ _ _ _ _ _ _ _ (heq ▸ here)
    · rw [same]
      exact tended.works _ _ _ _ _ _ _ _ there

theorem fits_of_run {moves : List BatchMove} (ready : Ready known base place site) (tool_local : tool.Local)
    (disjoint : Disjoint known) (begins : ∀ x ∈ names, known x ∧ (c.sync x).OwnedBy base x)
    (run : runMoves (Batch.step c tool) (Batch.start c names site) moves = some b) : Fits known place site b.site := by
  have htended : Tended known base place site (Batch.start c names site) :=
    ⟨ready.fits, fun i x phase task there => by simp [At, Batch.start, Machine.start] at there,
      fun i x phase label dir args next q there => by simp [At, Batch.start, Machine.start] at there⟩
  have hkept : b.Sound c ∧ b.waiting ⊆ names ∧ Tended known base place site b := by
    refine runMoves_keeps (motive := fun b => b.Sound c ∧ b.waiting ⊆ names ∧ Tended known base place site b)
      ⟨sound_start .., List.Subset.refl _, htended⟩ ?_ run
    rintro b move b' ⟨sound, named, tended⟩ h
    exact ⟨sound.step h, List.Subset.trans (sound.change_of_step h).waiting_subset named,
      tended.step sound ready tool_local disjoint (fun x waiting => begins x (named waiting)) h⟩
  exact hkept.2.2.fits

end Batch

/-! ## The others -/

/-- All that belongs to the repositories that are not named is as it was. -/
def LeavesOthers (config : Config) (names : List String) (s t : Site) : Prop :=
  ∃ place, s.disk.LeadsTo (fun _ => False) config.dbpath place ∧
    ∀ y, config.repos.contains y = true → y ∉ names → SameFor place y s t

section

variable (valid : config.validate = .ok ()) (driven : ∀ x ∈ names, (Coordinator.ofConfig config).contains x = true)

include valid driven

theorem leavesOthers_of_fits (ready : Ready (· ∈ names) config.dbpath place s)
    (fits : Fits (· ∈ names) place s s') : LeavesOthers config names s s' := by
  have configured : ∀ x ∈ names, config.repos.contains x = true := fun x hx => (begins_sync (driven x hx)).1
  refine ⟨place, ready.leads.mono fun _ => False.elim, fun y hy hother => ⟨fun q hq => ?_, ?_⟩⟩
  · refine (fits.files q ?_).symm
    rintro ⟨x, hx, hown⟩
    exact hother (name_eq_of_owned valid hy (configured x hx) hq hown ▸ hx)
  · refine (fits.calls _ fun x hx heq => ?_).symm
    have hwork : Owned place x (workPlace place y) := .inl (heq ▸ List.prefix_refl _)
    exact hother (name_eq_of_owned valid hy (configured x hx) (.inl (List.prefix_refl _)) hwork ▸ hx)

variable (tool_local : tool.Local) (prepared : Prepared config (· ∈ names) site)
  (made : (site.disk.makeDirs config.dbpath).1 = .ok ())

include tool_local prepared made

theorem leavesOthers_syncMany : LeavesOthers config names (site.makeDirs config.dbpath).2
    (((Coordinator.ofConfig config).syncMany names).run tool (site.makeDirs config.dbpath).2).2 := by
  obtain ⟨place, ready⟩ := prepared.ready made
  have fits := ready.fits.run ready tool_local (disjoint_of_valid valid driven) (uses_syncMany_named driven)
  exact leavesOthers_of_fits valid driven ready fits

theorem leavesOthers_of_run {moves : List BatchMove} {b : Batch}
    (run : runMoves (Batch.step (.ofConfig config) tool)
      (Batch.start (.ofConfig config) names (site.makeDirs config.dbpath).2) moves = some b) :
    LeavesOthers config names (site.makeDirs config.dbpath).2 b.site := by
  obtain ⟨place, ready⟩ := prepared.ready made
  have begins : ∀ x ∈ names, x ∈ names ∧ ((Coordinator.ofConfig config).sync x).OwnedBy config.dbpath x :=
    fun x hx => ⟨hx, (begins_sync (driven x hx)).2.ownedBy⟩
  exact leavesOthers_of_fits valid driven ready
    (Batch.fits_of_run ready tool_local (disjoint_of_valid valid driven) begins run)

end

end Sync

end CodeSearch
