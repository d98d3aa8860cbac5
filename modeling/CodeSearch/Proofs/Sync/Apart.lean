import CodeSearch.Proofs.Files.Nodes
import CodeSearch.Proofs.Sync.Targets

/-!
# Synchronizations that keep apart

When no synchronization shows another anything that it looks at, each one goes as it would go alone. So
whatever is done one after another, in any order, comes out as each synchronization by itself.
-/

namespace CodeSearch

open Files

/-- The directory that a call of git is about: the one it makes, or the one it runs in. -/
def ToolCall.target (call : ToolCall) : List Name :=
  match call.args with
  | "clone" :: _ :: _ :: _ :: name :: _ => call.place ++ [Utf8.encode name]
  | _ => call.place

def callsAbout (dir : List Name) (calls : List ToolCall) : List ToolCall := calls.filter (·.target == dir)

/-- The same files, and the same calls about each directory. -/
structure Site.Alike (s t : Site) : Prop where
  cwd : s.disk.cwd = t.disk.cwd
  files : s.disk.root.Same t.disk.root
  calls : ∀ dir, callsAbout dir s.calls = callsAbout dir t.calls

theorem Site.Alike.refl (s : Site) : s.Alike s := ⟨rfl, fun _ => rfl, fun _ => rfl⟩

namespace Sync

abbrev SyncScript := Script (Except Failure String)

/-- Synchronizations of some repositories do not get into each other's way: each sees of any site that it
can come to the same as of the site where it alone was at work. `Sim name here script alone` tells that the
synchronization of `name` is at `script`, and that `here` is for it like `alone`. -/
structure Apart (tool : Tool) (known : String → Prop) (script : String → SyncScript) (start : Site)
    (Sim : String → Site → SyncScript → Site → Prop) : Prop where
  start : ∀ {x}, known x → Sim x start (script x) start
  test : ∀ {x here dir next alone}, known x → Sim x here (.test dir next) alone →
    here.disk.isDir dir = alone.disk.isDir dir ∧ Sim x here (next (here.disk.isDir dir)) alone
  place : ∀ {x here label dir args next alone}, known x → Sim x here (.act (.call label dir args) next) alone →
    Site.startPlace here.disk dir args = Site.startPlace alone.disk dir args
  act : ∀ {x here action next alone}, known x → Sim x here (.act action next) alone →
    (Site.perform tool action here).1 = (Site.perform tool action alone).1 ∧
      Sim x (Site.perform tool action here).2 (next (Site.perform tool action here).1)
        (Site.perform tool action alone).2
  /-- What one does, the others do not see. -/
  others : ∀ {x y here action next alone rest own}, known x → known y → y ≠ x →
    Sim x here (.act action next) alone → Sim y here rest own →
    Sim y (Site.perform tool action here).2 rest own
  /-- What all have left behind is all there is. -/
  agree : ∀ {here there}, (∃ x, known x) →
    (∀ x, known x → ∃ a alone, Sim x here (.done a) alone ∧ Sim x there (.done a) alone) → here.Alike there

namespace Apart

variable {tool : Tool} {known : String → Prop} {script : String → SyncScript} {start here alone : Site}
  {Sim : String → Site → SyncScript → Site → Prop} {x : String} {todo : SyncScript}

/-- A synchronization that runs to its end ends as it would end alone, and the others see nothing of it. -/
theorem run (apart : Apart tool known script start Sim) (hx : known x) (sim : Sim x here todo alone) :
    (todo.run tool here).1 = (todo.run tool alone).1 ∧
      Sim x (todo.run tool here).2 (.done (todo.run tool here).1) (todo.run tool alone).2 ∧
      ∀ y rest own, known y → y ≠ x → Sim y here rest own → Sim y (todo.run tool here).2 rest own := by
  induction todo generalizing here alone with
  | done a => exact ⟨rfl, sim, fun _ _ _ _ _ h => h⟩
  | test dir next ih =>
    obtain ⟨hsame, hnext⟩ := apart.test hx sim
    rw [Script.run, Script.run, ← hsame]
    exact ih _ hnext
  | act action next ih =>
    obtain ⟨hsame, hnext⟩ := apart.act hx sim
    obtain ⟨hresult, hsim, hothers⟩ := ih _ hnext
    rw [Script.run, Script.run]
    simp only [← hsame]
    exact ⟨hresult, hsim, fun y rest own hy hne h => hothers y rest own hy hne (apart.others hx hy hne sim h)⟩

end Apart

end Sync

namespace Coordinator

open Sync

variable {c : Coordinator VcsDriver} {tool : Tool} {site : Site} {results : NameMap (Except Failure String)}
  {name : String} {names : List String}

def answer (c : Coordinator VcsDriver) (tool : Tool) (site : Site) (name : String) : Except Failure String :=
  ((c.sync name).run tool site).1

theorem sync_of_not_contains (h : c.contains name = false) :
    c.sync name = .done (.error (.repositoryNotFound name)) := by
  unfold sync
  cases hfind : c.find name with
  | error e => rw [(find_eq_error hfind).1]
  | ok target =>
    rw [contains_of_find hfind] at h
    cases h

/-- To synchronize names after others whose results are known. -/
def syncAfter (c : Coordinator VcsDriver) (results : NameMap (Except Failure String)) (names : List String) :
    Script (NameMap (Except Failure String)) :=
  names.foldlM (fun results name => do return results.insert name (← c.sync name)) results

theorem run_syncAfter_cons :
    (c.syncAfter results (name :: names)).run tool site =
      (c.syncAfter (results.insert name ((c.sync name).run tool site).1) names).run tool
        ((c.sync name).run tool site).2 := by
  rw [syncAfter, List.foldlM_cons]
  change (Script.bind (Script.bind (c.sync name) fun result => .done (results.insert name result))
    fun results => c.syncAfter results names).run tool site = _
  rw [Script.run_bind, Script.run_bind]
  rfl

def answers (c : Coordinator VcsDriver) (tool : Tool) (site : Site) (results : NameMap (Except Failure String))
    (names : List String) : NameMap (Except Failure String) :=
  names.foldl (fun results name => results.insert name (c.answer tool site name)) results

theorem get?_answers :
    (c.answers tool site results names).get? name =
      if name ∈ names then some (c.answer tool site name) else results.get? name := by
  induction names generalizing results with
  | nil => simp [answers]
  | cons first names ih =>
    rw [answers, List.foldl_cons]
    change (c.answers tool site _ names).get? name = _
    rw [ih, NameMap.get?_insert]
    by_cases hmem : name ∈ names
    · simp [hmem]
    · by_cases hfirst : name = first
      · subst hfirst
        simp
      · simp [hmem, hfirst]

end Coordinator

namespace Sync.Apart

variable {c : Coordinator VcsDriver} {tool : Tool} {known : String → Prop} {start : Site}
  {Sim : String → Site → SyncScript → Site → Prop} {names : List String}

/-- A synchronization has ended and left behind what it leaves alone. -/
def Done (c : Coordinator VcsDriver) (tool : Tool) (start : Site)
    (Sim : String → Site → SyncScript → Site → Prop) (here : Site) (x : String) : Prop :=
  Sim x here (.done (c.answer tool start x)) ((c.sync x).run tool start).2

theorem run_syncAfter (apart : Apart tool known c.sync start Sim) (here : Site)
    (results : NameMap (Except Failure String)) (sound : ∀ x, known x → c.contains x = true)
    (all : ∀ x ∈ names, c.contains x = true → known x) (distinct : names.Nodup)
    (todo : ∀ x, known x → x ∈ names → Sim x here (c.sync x) start)
    (ended : ∀ x, known x → x ∉ names → Done c tool start Sim here x) :
    ((c.syncAfter results names).run tool here).1 = c.answers tool start results names ∧
      (∀ x, known x → Done c tool start Sim ((c.syncAfter results names).run tool here).2 x) ∧
      ((∀ x ∈ names, ¬known x) → ((c.syncAfter results names).run tool here).2 = here) := by
  induction names generalizing here results with
  | nil => exact ⟨rfl, fun x hx => ended x hx (by simp), fun _ => rfl⟩
  | cons name names ih =>
    obtain ⟨hfresh, hdistinct⟩ := List.nodup_cons.1 distinct
    have hall : ∀ x ∈ names, c.contains x = true → known x := fun x hx => all x (List.mem_cons_of_mem _ hx)
    rw [Coordinator.run_syncAfter_cons]
    cases hname : c.contains name with
    | false =>
      -- an unknown name has its answer at once
      have hsync := Coordinator.sync_of_not_contains hname
      have hanswer : ∀ site, ((c.sync name).run tool site) = (.error (.repositoryNotFound name), site) := by
        intro site
        rw [hsync]
        rfl
      have hunknown : ¬known name := fun h => by
        rw [sound name h] at hname
        cases hname
      rw [hanswer]
      obtain ⟨hresults, hdone, hsame⟩ := ih here (results.insert name (.error (.repositoryNotFound name)))
        hall hdistinct (fun x hx hmem => todo x hx (List.mem_cons_of_mem _ hmem))
        (fun x hx hmem => ended x hx fun h => by
          rcases List.mem_cons.1 h with rfl | h
          · exact hunknown hx
          · exact hmem h)
      refine ⟨?_, hdone, fun hnone => hsame fun x hx => hnone x (List.mem_cons_of_mem _ hx)⟩
      rw [hresults, Coordinator.answers, Coordinator.answers, List.foldl_cons, Coordinator.answer, hanswer]
    | true =>
      have hknown := all name List.mem_cons_self hname
      obtain ⟨hanswer, hsim, hothers⟩ := apart.run hknown (todo name hknown List.mem_cons_self)
      obtain ⟨hresults, hdone, -⟩ := ih ((c.sync name).run tool here).2
        (results.insert name ((c.sync name).run tool here).1) hall hdistinct
        (fun x hx hmem => hothers x _ _ hx (fun h => hfresh (h ▸ hmem)) (todo x hx (List.mem_cons_of_mem _ hmem)))
        (fun x hx hmem => by
          by_cases h : x = name
          · subst h
            rw [Done, Coordinator.answer, ← hanswer]
            exact hsim
          · exact hothers x _ _ hx h (ended x hx (by simp [h, hmem])))
      refine ⟨?_, hdone, fun hnone => absurd hknown (hnone name List.mem_cons_self)⟩
      rw [hresults, hanswer]
      rfl

/-- Whatever the order, names one after another have the results that they have alone, and leave behind what
each leaves alone. -/
theorem run_syncMany (apart : Apart tool known c.sync start Sim)
    (all : ∀ x, known x ↔ x ∈ names ∧ c.contains x = true) (distinct : names.Nodup) :
    ((c.syncMany names).run tool start).1 = c.answers tool start ∅ names ∧
      (∀ x, known x → Done c tool start Sim ((c.syncMany names).run tool start).2 x) ∧
      ((∀ x, ¬known x) → ((c.syncMany names).run tool start).2 = start) := by
  obtain ⟨hresults, hdone, hsame⟩ := apart.run_syncAfter start ∅
    (fun x hx => ((all x).1 hx).2) (fun x hx hcontains => (all x).2 ⟨hx, hcontains⟩) distinct
    (fun x hx _ => apart.start hx)
    (fun x hx hmem => absurd ((all x).1 hx).1 hmem)
  exact ⟨hresults, hdone, fun hnone => hsame fun x _ => hnone x⟩

end Sync.Apart

end CodeSearch
