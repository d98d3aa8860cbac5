import CodeSearch.Proofs.Sync.Attention
import CodeSearch.Sync.Clock

/-!
# A clock makes moves

Which of the open moves is made next is up to the clock, and so is when. Whatever it is told to do, the
updates it holds are those of a run.
-/

namespace CodeSearch.Sync

variable {D : Type} {c : Coordinator D} {u v w : Updates} {k : Clock} {move : UpdateMove} {timing : Timing}
  {workers : List Worker}

namespace Updates

/-- Some moves, made one after another, lead from the first state to the second. -/
def Leads (c : Coordinator D) (u v : Updates) : Prop :=
  ∃ moves, runMoves (step c) u moves = some v

theorem Leads.refl (c : Coordinator D) (u : Updates) : u.Leads c u :=
  ⟨[], rfl⟩

theorem Leads.trans (first : u.Leads c v) (second : v.Leads c w) : u.Leads c w := by
  obtain ⟨moves, hmoves⟩ := first
  obtain ⟨more, hmore⟩ := second
  exact ⟨moves ++ more, runMoves_trans hmoves hmore⟩

/-! ## What the clock does by itself -/

theorem Leads.act (leads : u.Leads c k.updates) (move : UpdateMove) :
    u.Leads c (k.act c move).updates := by
  cases hstep : k.updates.step c move with
  | none => simpa [Clock.act, hstep] using leads
  | some v => exact leads.trans ⟨[move], by simp [Clock.act, hstep]⟩

theorem Leads.passPermit (leads : u.Leads c k.updates) : u.Leads c (k.passPermit c).updates := by
  unfold Clock.passPermit
  split
  · exact leads
  · exact leads.act _

theorem Leads.passLock (leads : u.Leads c k.updates) (repo : String) :
    u.Leads c (k.passLock c repo).updates := by
  unfold Clock.passLock
  split
  · exact leads
  · exact leads.act _

theorem Leads.record (leads : u.Leads c k.updates) (event : Event) :
    u.Leads c (k.record event).updates :=
  leads

theorem Leads.release (leads : u.Leads c k.updates) (i : Nat) (repo : String) :
    u.Leads c ((((k.act c (.sync (.giveBack i))).passPermit c).act c (.sync (.unlock i))).passLock c
      repo).updates := by
  have hgiven := (leads.act (.sync (.giveBack i))).passPermit
  exact (hgiven.act (.sync (.unlock i))).passLock repo

theorem Leads.finish (leads : u.Leads c k.updates) (timing : Timing) (i : Nat) (repo : String)
    (operation : Operation) : u.Leads c (k.finish c timing i repo operation).updates := by
  have hended (result : Except Failure String) (there : Bool) :=
    (leads.act (.sync (.finish i result there))).record (.ended repo)
  unfold Clock.finish
  dsimp only
  split
  · exact ((hended _ _).release i repo).act _
  · exact (hended _ _).release i repo

theorem Leads.goCall (leads : u.Leads c k.updates) (timing : Timing) (i : Nat) :
    u.Leads c (k.goCall c timing i).updates := by
  have hlooked := (leads.act (.sync (.look i))).act (.sync (.operate i))
  unfold Clock.goCall
  dsimp only
  split
  · split
    · exact leads.act _
    · exact leads
  · split
    · exact leads
    · split
      · exact leads.act _
      · exact leads
  · split
    · split <;> exact hlooked
    · exact hlooked
  · exact leads.finish timing i _ _
  · exact leads

theorem Leads.goRest (leads : u.Leads c k.updates) (i : Nat) : u.Leads c (k.goRest c i).updates := by
  unfold Clock.goRest
  dsimp only
  split
  · exact leads
  · split
    · exact leads.act _
    · split <;> exact leads.act _

theorem Leads.go (leads : u.Leads c k.updates) (timing : Timing) (wake : Wake) :
    u.Leads c (k.go c timing wake).updates := by
  cases wake with
  | call i => exact leads.goCall timing i
  | worker i => exact (leads.act _).act _
  | rest i => exact leads.goRest i
  | poll i => exact leads.act _

theorem updates_advance (k : Clock) : k.advance.updates = k.updates := by
  unfold Clock.advance
  split <;> rfl

theorem Leads.run (leads : u.Leads c k.updates) (timing : Timing) (done : Clock → Bool)
    (limit : Option Nat) (fuel : Nat) : u.Leads c (k.run c timing done limit fuel).updates := by
  induction fuel generalizing k with
  | zero => exact leads
  | succ fuel ih =>
    unfold Clock.run
    split
    · rename_i wake rest _
      exact ih (Leads.go (k := { k with ready := rest }) leads timing wake)
    · split
      · exact leads
      · split
        · exact leads
        · split
          · exact leads
          · exact ih (by rwa [updates_advance])

/-! ## What a clock can be told -/

theorem Leads.request (leads : u.Leads c k.updates) (repo : String) :
    u.Leads c (k.request c repo).updates := by
  unfold Clock.request
  split <;> exact leads.act _

theorem Leads.syncMany (leads : u.Leads c k.updates) (timing : Timing) (fuel : Nat) (names : List String) :
    u.Leads c (k.syncMany c timing fuel names).2.updates := by
  refine Leads.run ?_ timing _ none fuel
  refine List.foldlRecOn names _
    (motive := fun begun : List (String × Option Nat × Option Failure) × Clock =>
      u.Leads c begun.2.updates) leads ?_
  intro begun hbegun name _
  dsimp only
  split
  · exact hbegun
  · exact hbegun.act _

end Updates

inductive Clock.Task where
  | wait (span : Nat)
  | quiesce
  | request (repo : String)
  | syncMany (names : List String)

namespace Clock

def perform (c : Coordinator D) (timing : Timing) (fuel : Nat) (k : Clock) (tasks : List Task) : Clock :=
  tasks.foldl (fun k task =>
    match task with
    | .wait span => k.wait c timing fuel span
    | .quiesce => k.quiesce c timing fuel
    | .request repo => k.request c repo
    | .syncMany names => (k.syncMany c timing fuel names).2) k

end Clock

namespace Updates

theorem Leads.perform (leads : u.Leads c k.updates) (timing : Timing) (fuel : Nat)
    (tasks : List Clock.Task) : u.Leads c (k.perform c timing fuel tasks).updates := by
  refine List.foldlRecOn tasks _ (motive := fun k : Clock => u.Leads c k.updates) leads ?_
  intro k hk task _
  cases task with
  | wait span => exact hk.run timing _ _ fuel
  | quiesce => exact hk.run timing _ _ fuel
  | request repo => exact hk.request repo
  | syncMany names => exact hk.syncMany timing fuel names

/-! ## Workers that start late -/

theorem sleeper?_eq_none (awake : ∀ worker ∈ u.workers, worker.phase ≠ .asleep) (repo : String) :
    u.sleeper? repo = none := by
  refine List.findIdx?_eq_none_iff.2 fun worker hworker => ?_
  simp [awake worker hworker]

/-- A move that is open where there are no workers is open beside workers that do not sleep, and leaves
them as they are. -/
theorem step_beside (awake : ∀ worker ∈ workers, worker.phase ≠ .asleep) (alone : u.workers = [])
    (h : u.step c move = some v) :
    v.workers = [] ∧ { u with workers := workers }.step c move = some { v with workers := workers } := by
  cases step_iff.1 h with
  | @request repo listening =>
    have hnobody : u.sleeper? repo = none := sleeper?_eq_none (by simp [alone]) repo
    have hawake : { u with workers := workers }.sleeper? repo = none := sleeper?_eq_none awake repo
    exact ⟨by simp [notify, hnobody, alone], by simp [step, listening, notify, hnobody, hawake]⟩
  | sync admitted moved => exact ⟨alone, by simp [step, admitted, moved]⟩
  | _ => simp_all

theorem Leads.beside (leads : u.Leads c v) (awake : ∀ worker ∈ workers, worker.phase ≠ .asleep)
    (alone : u.workers = []) :
    v.workers = [] ∧ { u with workers := workers }.Leads c { v with workers := workers } := by
  obtain ⟨moves, hmoves⟩ := leads
  refine runMoves_keeps
    (motive := fun v => v.workers = [] ∧ { u with workers := workers }.Leads c { v with workers := workers })
    ⟨alone, .refl c _⟩ ?_ hmoves
  intro v move v' hv hstep
  obtain ⟨halone, hbeside⟩ := step_beside awake hv.1 hstep
  exact ⟨halone, hv.2.trans ⟨[move], by simp [hbeside]⟩⟩

/-- The updates of a clock are those of a run: whatever it is told before its workers start and after, and
however long the operations take. -/
theorem leads_of_perform (c : Coordinator D) (timing : Timing) (fuel : Nat) (present : NameMap Unit)
    (served : List String) (registry : Registry WorkingCopy) (before after : List Clock.Task) :
    (start c present served registry).Leads c ((((Clock.start c.permits present registry).perform c timing
      fuel before).spawn c served).perform c timing fuel after).updates := by
  refine Leads.perform ?_ timing fuel after
  have hbefore := (Leads.refl c (Clock.start c.permits present registry).updates).perform timing fuel before
  have hawake : ∀ worker ∈ workersFor c served, worker.phase ≠ .asleep := fun worker hworker => by
    simp [phase_of_mem_workersFor hworker]
  obtain ⟨halone, hbeside⟩ := hbefore.beside hawake rfl
  unfold Clock.spawn
  dsimp only
  rw [halone]
  exact hbeside

/-- At every time on a clock the locks and permits are held as they should be. -/
theorem sound_of_perform (c : Coordinator D) (timing : Timing) (fuel : Nat) (present : NameMap Unit)
    (served : List String) (registry : Registry WorkingCopy) (before after : List Clock.Task) :
    (((((Clock.start c.permits present registry).perform c timing fuel before).spawn c served).perform c
      timing fuel after).updates).Sound c := by
  obtain ⟨moves, hmoves⟩ := leads_of_perform c timing fuel present served registry before after
  exact sound_of_run hmoves

end Updates

end CodeSearch.Sync
