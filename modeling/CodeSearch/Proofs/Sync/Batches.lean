import Mathlib.Algebra.BigOperators.Group.Finset.Basic
import Mathlib.Algebra.Order.BigOperators.Group.Finset
import CodeSearch.Proofs.Sync.Exclusion
import CodeSearch.Proofs.Sync.Targets
import CodeSearch.Sync.Batch

/-!
# The course of a batch

What a move of a batch changes, and that every batch comes to an end: as long as it is not over some move is
open, and there is a bound on the number of moves.
-/

namespace CodeSearch

namespace Sync

open Coordinator

/-- Where in its script a task can be in each phase of its call. -/
def Task.Fits (task : Task) : Phase → Prop
  | .queued | .locked | .permitted => ∃ dir next, task = ⟨.test dir next, none⟩
  | .looked _ => task.working = none
  | .operating _ =>
    task.working.isSome = true → ∃ label dir args next, task.script = .act (.call label dir args) next
  | .ended result | .leaving result | .finished result => task = ⟨.done result, none⟩

/-- What a move can do to a call, its task and the files. -/
inductive Advance (tool : Tool) : Phase → Task → Site → Phase → Task → Site → Prop
  | lock {task : Task} {site : Site} : Advance tool .queued task site .locked task site
  | permit {task : Task} {site : Site} : Advance tool .locked task site .permitted task site
  | look {dir : String} {next : Bool → Script (Except Failure String)} {site : Site} (seen : Bool) :
      Advance tool .permitted ⟨.test dir next, none⟩ site (.looked seen) ⟨next (site.disk.isDir dir), none⟩ site
  | operate {task : Task} {site : Site} {seen : Bool} :
      Advance tool (.looked seen) task site (.operating (Machine.operationFor seen)) task site
  | test {operation : Operation} {dir : String} {next : Bool → Script (Except Failure String)} {site : Site} :
      Advance tool (.operating operation) ⟨.test dir next, none⟩ site (.operating operation)
        ⟨next (site.disk.isDir dir), none⟩ site
  | act {operation : Operation} {action : Action} {next : Except Failure String → Script (Except Failure String)}
      {site : Site} :
      Advance tool (.operating operation) ⟨.act action next, none⟩ site (.operating operation)
        ⟨next (Site.perform tool action site).1, none⟩ (Site.perform tool action site).2
  | launch {operation : Operation} {label dir : String} {args : List String}
      {next : Except Failure String → Script (Except Failure String)} {site : Site} {place : List Files.Name}
      (starts : Site.startPlace site.disk dir args = .ok place) :
      Advance tool (.operating operation) ⟨.act (.call label dir args) next, none⟩ site (.operating operation)
        ⟨.act (.call label dir args) next, some place⟩ site
  | reply {operation : Operation} {label dir : String} {args : List String}
      {next : Except Failure String → Script (Except Failure String)} {site : Site} {place : List Files.Name} :
      Advance tool (.operating operation) ⟨.act (.call label dir args) next, some place⟩ site
        (.operating operation) ⟨next (Site.work tool label dir args place site).1, none⟩
        (Site.work tool label dir args place site).2
  | finish {operation : Operation} {result : Except Failure String} {site : Site} :
      Advance tool (.operating operation) ⟨.done result, none⟩ site (.ended result) ⟨.done result, none⟩ site
  | giveBack {task : Task} {result : Except Failure String} {site : Site} :
      Advance tool (.ended result) task site (.leaving result) task site

namespace Batch

/-- How far a call is and where its task is. -/
def At (b : Batch) (i : Nat) (repo : String) (phase : Phase) (task : Task) : Prop :=
  b.machine.calls[i]? = some ⟨repo, phase⟩ ∧ b.tasks[i]? = some task

/-- One call and its task change, the others do not. -/
def Moves (b b' : Batch) (i : Nat) (repo : String) (phase : Phase) (task : Task) : Prop :=
  ∀ j other before own, b'.At j other before own ↔
    if j = i then other = repo ∧ before = phase ∧ own = task else b.At j other before own

/-- No task begins, and nothing is collected. -/
structure Keeps (b b' : Batch) : Prop where
  waiting : b'.waiting = b.waiting
  results : b'.results = b.results
  calls : b'.machine.calls.length = b.machine.calls.length
  tasks : b'.tasks.length = b.tasks.length

inductive Change (c : Coordinator VcsDriver) (tool : Tool) (b b' : Batch) : Prop
  | refuse {k : Nat} {name : String} (waiting : b.waiting[k]? = some name) (unknown : c.contains name = false)
      (change : b' = { b with
        waiting := b.waiting.eraseIdx k
        ended := b.ended ++ [(name, .error (.repositoryNotFound name))] })
  | begin {k : Nat} {name : String} {target : SyncTarget VcsDriver} (waiting : b.waiting[k]? = some name)
      (known : c.find name = .ok target)
      (change : b' = { b with
        waiting := b.waiting.eraseIdx k
        machine := { b.machine with calls := b.machine.calls ++ [⟨name, .queued⟩] }
        tasks := b.tasks ++ [⟨syncTarget target, none⟩] })
  | advance {i : Nat} {repo : String} {old new : Phase} {task after : Task} (place : b.At i repo old task)
      (advance : Advance tool old task b.site new after b'.site) (moves : b.Moves b' i repo new after)
      (keeps : b.Keeps b') (ended : b'.ended = b.ended)
  | unlock {i : Nat} {repo : String} {result : Except Failure String} {task : Task}
      (place : b.At i repo (.leaving result) task) (moves : b.Moves b' i repo (.finished result) task)
      (keeps : b.Keeps b') (site : b'.site = b.site) (ended : b'.ended = b.ended ++ [(repo, result)])
  | collect {k : Nat} {name : String} {result : Except Failure String} (ended : b.ended[k]? = some (name, result))
      (change : b' = { b with ended := b.ended.eraseIdx k, results := b.results.insert name result })

/-- The machine is sound, and every call has a task that fits its phase. -/
structure Sound (c : Coordinator VcsDriver) (b : Batch) : Prop where
  machine : b.machine.Sound c.permits
  length : b.tasks.length = b.machine.calls.length
  fits : ∀ i repo phase task, b.At i repo phase task → task.Fits phase

theorem sound_start (c : Coordinator VcsDriver) (names : List String) (site : Site) :
    (start c names site).Sound c where
  machine := Machine.sound_start ..
  length := rfl
  fits i repo phase task h := by simp [At, start, Machine.start] at h

variable {c : Coordinator VcsDriver} {tool : Tool} {b b' : Batch} {i : Nat} {repo : String} {old new : Phase}
  {task after : Task}

theorem Sound.exists_task (sound : b.Sound c) (call : b.machine.calls[i]? = some ⟨repo, old⟩) :
    ∃ task, b.At i repo old task := by
  obtain ⟨hi, -⟩ := List.getElem?_eq_some_iff.1 call
  exact ⟨_, call, List.getElem?_eq_getElem (sound.length ▸ hi)⟩

theorem drive_eq_some {move : Move} :
    b.drive move = some b' ↔ ∃ m, Machine.Step b.machine move m ∧ b' = { b with machine := m } := by
  rw [drive, Option.map_eq_some_iff]
  simp only [Machine.step_iff, eq_comm (b := b')]

def Sets (tasks tasks' : List Task) (i : Nat) (after : Task) : Prop :=
  ∀ j own, tasks'[j]? = some own ↔ if j = i then own = after else tasks[j]? = some own

theorem sets_self {tasks : List Task} (own : tasks[i]? = some task) : Sets tasks tasks i task := by
  intro j other
  split
  · rename_i h
    rw [h, own, Option.some.injEq, eq_comm]
  · rfl

theorem sets_set {tasks : List Task} (own : tasks[i]? = some task) : Sets tasks (tasks.set i after) i after := by
  obtain ⟨hi, -⟩ := List.getElem?_eq_some_iff.1 own
  intro j other
  rw [List.getElem?_set]
  by_cases h : j = i
  · simp [h, hi, eq_comm]
  · simp [h, Ne.symm h]

theorem moves_of_sets
    (phases : ∀ j other phase, b'.machine.calls[j]? = some ⟨other, phase⟩ ↔
      if j = i then other = repo ∧ phase = new else b.machine.calls[j]? = some ⟨other, phase⟩)
    (tasks : Sets b.tasks b'.tasks i after) : b.Moves b' i repo new after := by
  intro j other before own
  rw [At, phases, tasks]
  by_cases h : j = i
  · simp [h, and_assoc]
  · simp [h, At]

theorem length_setPhase (m : Machine) (i : Nat) (phase : Phase) :
    (m.setPhase i phase).calls.length = m.calls.length := by
  simp [Machine.setPhase]

theorem setTask_moves (place : b.At i repo old task) (after : Task) (site : Site) :
    b.Moves (b.setTask i after site) i repo old after := by
  refine moves_of_sets (fun j other phase => ?_) (sets_set place.2)
  by_cases h : j = i
  · simp [h, setTask, place.1, eq_comm]
  · simp [h, setTask]

theorem setTask_keeps {site : Site} : b.Keeps (b.setTask i after site) :=
  ⟨rfl, rfl, rfl, List.length_set ..⟩

theorem change_setTask {site : Site} (place : b.At i repo old task)
    (advance : Advance tool old task b.site old after site) : Change c tool b (b.setTask i after site) :=
  .advance place advance (setTask_moves place after site) setTask_keeps rfl

theorem setPhase_moves {m : Machine} (place : b.At i repo old task)
    (calls : m.calls = (b.machine.setPhase i new).calls) : b.Moves { b with machine := m } i repo new task := by
  refine moves_of_sets (fun j other phase => ?_) (sets_self place.2)
  rw [calls]
  exact Machine.found_setPhase place.1

theorem setPhase_keeps {m : Machine} (calls : m.calls = (b.machine.setPhase i new).calls) :
    b.Keeps { b with machine := m } :=
  ⟨rfl, rfl, by rw [calls, length_setPhase], rfl⟩

/-- A call that only goes on to its next phase makes one of the changes. -/
theorem Sound.change_setPhase {m : Machine} (sound : b.Sound c) (found : b.machine.calls[i]? = some ⟨repo, old⟩)
    (calls : m.calls = (b.machine.setPhase i new).calls)
    (advance : ∀ task, Advance tool old task b.site new task b.site) :
    Change c tool b { b with machine := m } := by
  obtain ⟨task, place⟩ := sound.exists_task found
  exact .advance place (advance task) (setPhase_moves place calls) (setPhase_keeps calls) rfl

theorem change_begin {k : Nat} (h : begin c b k = some b') : Change c tool b b' := by
  simp only [begin] at h
  split at h
  · cases h
  rename_i name hname
  split at h
  · rename_i e herror
    obtain ⟨rfl, hunknown⟩ := Coordinator.find_eq_error herror
    cases h
    exact .refuse hname hunknown rfl
  · rename_i target htarget
    obtain ⟨m, hm, rfl⟩ := drive_eq_some.1 h
    cases hm
    exact .begin hname htarget rfl

theorem change_look (h : look b i = some b') : Change c tool b b' := by
  simp only [look] at h
  split at h
  · rename_i repo dir next hcall htask
    obtain ⟨m, hm, rfl⟩ := drive_eq_some.1 h
    cases hm with
    | look found =>
      cases hcall.symm.trans found
      exact .advance ⟨hcall, htask⟩ (.look _)
        (moves_of_sets (fun _ _ _ => Machine.found_setPhase hcall) (sets_set htask))
        ⟨rfl, rfl, length_setPhase .., List.length_set ..⟩ rfl
  · cases h

theorem change_act (h : act tool b i = some b') : Change c tool b b' := by
  simp only [act] at h
  split at h
  · rename_i hcall htask
    cases h
    exact change_setTask ⟨hcall, htask⟩ .test
  · rename_i repo operation label dir args next hcall htask
    split at h
    · rename_i reason hstart
      cases h
      -- a tool that cannot be started has answered at once
      have hact : Site.perform tool (.call label dir args) b.site =
          (.error (.vcsCommand label dir reason), b.site) := by
        simp only [Site.perform, Site.call, hstart]
      have hadvance := @Advance.act tool operation (.call label dir args) next b.site
      rw [hact] at hadvance
      exact change_setTask ⟨hcall, htask⟩ hadvance
    · rename_i place hstart
      cases h
      exact change_setTask ⟨hcall, htask⟩ (.launch hstart)
  · rename_i hcall htask
    cases h
    exact change_setTask ⟨hcall, htask⟩ .act
  · cases h

theorem change_reply (h : reply tool b i = some b') : Change c tool b b' := by
  simp only [reply] at h
  split at h
  · rename_i hcall htask
    cases h
    exact change_setTask ⟨hcall, htask⟩ .reply
  · cases h

theorem change_finish (h : finish c b i = some b') : Change c tool b b' := by
  simp only [finish] at h
  split at h
  · rename_i repo phase result hcall htask
    obtain ⟨m, hm, rfl⟩ := drive_eq_some.1 h
    cases hm with
    | finish _ _ found =>
      cases hcall.symm.trans found
      exact .advance ⟨hcall, htask⟩ .finish (setPhase_moves ⟨hcall, htask⟩ rfl) (setPhase_keeps rfl) rfl
  · cases h

theorem Sound.change_unlock (sound : b.Sound c) (h : unlock b i = some b') : Change c tool b b' := by
  simp only [unlock] at h
  split at h
  · rename_i repo result hcall
    obtain ⟨m, hm, rfl⟩ := drive_eq_some.1 h
    cases hm with
    | unlock found =>
      cases hcall.symm.trans found
      obtain ⟨task, place⟩ := sound.exists_task hcall
      exact .unlock place (setPhase_moves place rfl) ⟨rfl, rfl, length_setPhase .., rfl⟩ rfl rfl
  · cases h

/-- Every open move makes one of the changes. -/
theorem Sound.change_of_step {move : BatchMove} (sound : b.Sound c) (h : step c tool b move = some b') :
    Change c tool b b' := by
  cases move with
  | begin k => exact change_begin h
  | lock i =>
    obtain ⟨m, hm, rfl⟩ := drive_eq_some.1 h
    cases hm with
    | lock found free => exact sound.change_setPhase found rfl fun _ => .lock
  | permit i =>
    obtain ⟨m, hm, rfl⟩ := drive_eq_some.1 h
    cases hm with
    | permit found free => exact sound.change_setPhase found rfl fun _ => .permit
  | look i => exact change_look h
  | operate i =>
    obtain ⟨m, hm, rfl⟩ := drive_eq_some.1 h
    cases hm with
    | operate found => exact sound.change_setPhase found rfl fun _ => .operate
  | act i => exact change_act h
  | reply i => exact change_reply h
  | finish i => exact change_finish h
  | giveBack i =>
    obtain ⟨m, hm, rfl⟩ := drive_eq_some.1 h
    cases hm with
    | giveBack found => exact sound.change_setPhase found rfl fun _ => .giveBack
  | unlock i => exact sound.change_unlock h
  | collect k =>
    simp only [step, collect] at h
    obtain ⟨⟨name, result⟩, hended, rfl⟩ := Option.map_eq_some_iff.1 h
    exact .collect hended rfl

/-! ## What every move keeps -/

/-- To find out whether there is a working copy is open to the call that has the lock and has not looked. -/
theorem sound_setPresent {m : Machine} {permits : Nat} (sound : m.Sound permits)
    (found : m.calls[i]? = some ⟨repo, .permitted⟩) (there : Bool) : (m.setPresent repo there).Sound permits where
  locks := sound.locks
  permits := sound.permits
  seen j other phase h := by
    by_cases hrepo : other = repo
    · subst hrepo
      cases hlock : phase.holdsLock with
      | false => exact Phase.fits_of_not_holdsLock _ hlock
      | true =>
        obtain rfl : j = i := sound.holds_unique ⟨phase, h, hlock⟩ ⟨_, found, rfl⟩
        cases found.symm.trans h
        trivial
    · have hsame : (m.setPresent repo there).present.contains other = m.present.contains other := by
        cases there <;> simp [Machine.setPresent, hrepo]
      rw [hsame]
      exact sound.seen j other phase h

theorem sound_of_drive {move : Move} {permits : Nat} (h : b.drive move = some b')
    (sound : b.machine.Sound permits) : b'.machine.Sound permits := by
  obtain ⟨m, hm, rfl⟩ := drive_eq_some.1 h
  exact sound.step (Machine.step_iff.2 hm)

theorem Sound.machine_of_step {move : BatchMove} (sound : b.Sound c) (h : step c tool b move = some b') :
    b'.machine.Sound c.permits := by
  cases move with
  | lock i | permit i | operate i | giveBack i => exact sound_of_drive h sound.machine
  | begin k =>
    simp only [step, begin] at h
    split at h
    · cases h
    split at h
    · cases h
      exact sound.machine
    · exact sound_of_drive h sound.machine
  | look i =>
    simp only [step, look] at h
    split at h
    · rename_i hcall htask
      exact sound_of_drive h (sound_setPresent sound.machine hcall _)
    · cases h
  | act i =>
    simp only [step, act] at h
    repeat' split at h
    all_goals first | cases h; exact sound.machine | cases h
  | reply i =>
    simp only [step, reply] at h
    split at h <;> cases h
    exact sound.machine
  | finish i =>
    simp only [step, finish] at h
    split at h
    · exact sound_of_drive h sound.machine
    · cases h
  | unlock i =>
    simp only [step, unlock] at h
    split at h
    · exact sound_of_drive h sound.machine
    · cases h
  | collect k =>
    obtain ⟨_, -, rfl⟩ := Option.map_eq_some_iff.1 h
    exact sound.machine

theorem at_begin (length : b.tasks.length = b.machine.calls.length) {name : String} {first : Task}
    {waiting : List String} {j : Nat} {other : String} {phase : Phase} {own : Task} :
    Batch.At { b with
        waiting := waiting
        machine := { b.machine with calls := b.machine.calls ++ [⟨name, .queued⟩] }
        tasks := b.tasks ++ [first] } j other phase own ↔
      b.At j other phase own ∨ j = b.machine.calls.length ∧ other = name ∧ phase = .queued ∧ own = first := by
  rw [At, Machine.found_arrive, List.getElem?_append, At, length]
  by_cases h : j < b.machine.calls.length
  · simp [h, Nat.ne_of_lt h]
  · by_cases hj : j = b.machine.calls.length
    · simp [hj, and_assoc, eq_comm]
    · simp [h, hj]

theorem Advance.fits {site site' : Site} (advance : Advance tool old task site new after site')
    (fits : task.Fits old) : after.Fits new := by
  cases advance with
  | lock | permit | giveBack => exact fits
  | look | finish => rfl
  | operate =>
    intro hworking
    rw [show task.working = none from fits] at hworking
    cases hworking
  | test | act | reply => exact nofun
  | launch => exact fun _ => ⟨_, _, _, _, rfl⟩

theorem Sound.step {move : BatchMove} (sound : b.Sound c) (h : Batch.step c tool b move = some b') :
    b'.Sound c where
  machine := sound.machine_of_step h
  length := by
    cases sound.change_of_step h with
    | refuse _ _ change => rw [change]; exact sound.length
    | begin _ _ change => simp [change, sound.length]
    | advance _ _ _ keeps _ | unlock _ _ keeps _ _ => rw [keeps.tasks, keeps.calls, sound.length]
    | collect _ change => rw [change]; exact sound.length
  fits j other phase own hat := by
    cases sound.change_of_step h with
    | refuse _ _ change | collect _ change =>
      rw [change] at hat
      exact sound.fits j other phase own hat
    | begin _ _ change =>
      rw [change, at_begin sound.length] at hat
      rcases hat with hat | ⟨-, -, rfl, rfl⟩
      · exact sound.fits j other phase own hat
      · exact ⟨_, _, rfl⟩
    | advance place advance moves _ _ =>
      rw [moves] at hat
      split at hat
      · obtain ⟨-, rfl, rfl⟩ := hat
        exact Advance.fits advance (sound.fits _ _ _ _ place)
      · exact sound.fits j other phase own hat
    | unlock place moves _ _ _ =>
      rw [moves] at hat
      split at hat
      · obtain ⟨-, rfl, rfl⟩ := hat
        exact (sound.fits _ _ _ _ place :)
      · exact sound.fits j other phase own hat

/-! ## The end -/

/-- A call that is at its operation can go on. -/
theorem exists_step_of_operating {operation : Operation} (place : b.At i repo (.operating operation) task)
    (fits : task.Fits (.operating operation)) : ∃ move b', Batch.step c tool b move = some b' := by
  obtain ⟨script, working⟩ := task
  obtain ⟨hcall, htask⟩ := place
  cases working with
  | some place =>
    obtain ⟨label, dir, args, next, rfl⟩ := fits rfl
    exact ⟨.reply i, _, by simp only [step, reply, hcall, htask]; rfl⟩
  | none =>
    cases script with
    | done result =>
      exact ⟨.finish i, _, by simp only [step, finish, hcall, htask, drive, Machine.step]; rfl⟩
    | test dir next => exact ⟨.act i, _, by simp only [step, act, hcall, htask]; rfl⟩
    | act action next =>
      cases action with
      | call label dir args =>
        cases hstart : Site.startPlace b.site.disk dir args with
        | error reason => exact ⟨.act i, _, by simp only [step, act, hcall, htask, hstart]; rfl⟩
        | ok place => exact ⟨.act i, _, by simp only [step, act, hcall, htask, hstart]; rfl⟩
      | makeDirs dir => exact ⟨.act i, _, by simp only [step, act, hcall, htask]; rfl⟩
      | keepSecret path text => exact ⟨.act i, _, by simp only [step, act, hcall, htask]; rfl⟩

/-- As long as a batch is not over a move is open. -/
theorem Sound.progress (sound : b.Sound c) (available : 0 < c.permits) (unfinished : ¬b.Over) :
    ∃ move b', Batch.step c tool b move = some b' := by
  cases hwaiting : b.waiting with
  | cons name rest =>
    refine ⟨.begin 0, ?_⟩
    cases hfind : c.find name with
    | error e => exact ⟨_, by simp only [Batch.step, begin, hwaiting, List.getElem?_cons_zero, hfind]; rfl⟩
    | ok target =>
      exact ⟨_, by
        simp only [Batch.step, begin, hwaiting, List.getElem?_cons_zero, hfind, drive, Machine.step]; rfl⟩
  | nil =>
    cases hended : b.ended with
    | cons first rest =>
      obtain ⟨name, result⟩ := first
      exact ⟨.collect 0, _, by simp only [Batch.step, collect, hended, List.getElem?_cons_zero]; rfl⟩
    | nil =>
      have hopen : ∃ call ∈ b.machine.calls, call.phase.result? = none := by
        refine Classical.byContradiction fun hnone => unfinished ⟨hwaiting, hended, fun call hcall => ?_⟩
        exact Option.isSome_iff_ne_none.2 fun h => hnone ⟨call, hcall, h⟩
      obtain ⟨move, m, hm, harrive, -⟩ := sound.machine.progress available hopen
      have hdrive : b.drive move = some { b with machine := m } := drive_eq_some.2 ⟨m, hm, rfl⟩
      cases hm with
      | arrive repo => exact absurd rfl (harrive repo)
      | @lock i _ _ _ => exact ⟨.lock i, _, hdrive⟩
      | @permit i _ _ _ => exact ⟨.permit i, _, hdrive⟩
      | @operate i _ _ _ => exact ⟨.operate i, _, hdrive⟩
      | @giveBack i _ _ _ => exact ⟨.giveBack i, _, hdrive⟩
      | @look i _ found =>
        obtain ⟨task, hcall, htask⟩ := sound.exists_task found
        obtain ⟨dir, next, rfl⟩ := sound.fits _ _ _ _ ⟨hcall, htask⟩
        exact ⟨.look i, _, by
          simp only [Batch.step, look, hcall, htask, drive, setTask, Machine.setPresent, Machine.step]; rfl⟩
      | finish result there found =>
        obtain ⟨task, hat⟩ := sound.exists_task found
        exact exists_step_of_operating hat (sound.fits _ _ _ _ hat)
      | @unlock i _ _ found =>
        exact ⟨.unlock i, _, by simp only [Batch.step, unlock, found, drive, Machine.step]; rfl⟩

/-! ## How many moves there are -/

def phaseLeft : Phase → Nat
  | .queued => 8
  | .locked => 7
  | .permitted => 6
  | .looked _ => 5
  | .operating _ => 4
  | .ended _ => 3
  | .leaving _ => 2
  | .finished _ => 0

/-- How many moves a call has before it at most. A call of the tool takes two. -/
noncomputable def callLeft (phase : Phase) (task : Task) : Nat :=
  phaseLeft phase + (2 * task.script.height - task.working.isSome.toNat)

noncomputable def leftAt (b : Batch) (i : Nat) : Nat :=
  match b.machine.calls[i]?, b.tasks[i]? with
  | some call, some task => callLeft call.phase task
  | _, _ => 0

noncomputable def callsLeft (b : Batch) : Nat := ∑ i ∈ Finset.range b.machine.calls.length, b.leftAt i

/-- How many moves a batch has before it at most: those of the tasks that have not begun, of the tasks on
their way, and of the results that are still to be collected. -/
noncomputable def left (b : Batch) : Nat := 25 * b.waiting.length + b.callsLeft + b.ended.length

def Bounded (b : Batch) : Prop :=
  ∀ i repo phase task, b.At i repo phase task → ∃ n, task.script.Within n

theorem leftAt_of_at (place : b.At i repo old task) : b.leftAt i = callLeft old task := by
  rw [leftAt, place.1, place.2]

theorem leftAt_congr {j : Nat} (same : ∀ other phase own, b'.At j other phase own ↔ b.At j other phase own) :
    b'.leftAt j = b.leftAt j := by
  by_cases h : ∃ other phase own, b.At j other phase own
  · obtain ⟨other, phase, own, hat⟩ := h
    rw [leftAt_of_at hat, leftAt_of_at ((same _ _ _).2 hat)]
  · have hnone : ∀ b : Batch, (¬∃ other phase own, b.At j other phase own) → b.leftAt j = 0 := by
      intro b h
      unfold leftAt
      split
      · rename_i call own hcall hown
        exact absurd ⟨call.repo, call.phase, own, hcall, hown⟩ h
      · rfl
    rw [hnone b h, hnone b' (by simpa only [same] using h)]

theorem Advance.left_lt {site site' : Site} {n : Nat} (advance : Advance tool old task site new after site')
    (within : task.script.Within n) : callLeft new after < callLeft old task := by
  have hidle : ∀ script : Script (Except Failure String), ∀ phase,
      callLeft phase ⟨script, none⟩ = phaseLeft phase + 2 * script.height := fun _ _ => rfl
  have hworking : ∀ (script : Script (Except Failure String)) (place : List Files.Name) (phase : Phase),
      callLeft phase ⟨script, some place⟩ = phaseLeft phase + (2 * script.height - 1) := fun _ _ _ => rfl
  cases advance with
  | lock | permit | operate | finish | giveBack =>
    simp only [callLeft, phaseLeft]
    omega
  | @look dir next site seen =>
    have hlt := within.height_test (site.disk.isDir dir)
    simp only [hidle, phaseLeft]
    omega
  | @test operation dir next site =>
    have hlt := within.height_test (site.disk.isDir dir)
    simp only [hidle, phaseLeft]
    omega
  | @act operation action next site =>
    have hlt := within.height_act (Site.perform tool action site).1
    simp only [hidle, phaseLeft]
    omega
  | launch =>
    have hlt := within.height_act (.ok "")
    simp only [hidle, hworking, phaseLeft]
    omega
  | @reply operation label dir args next site place =>
    have hlt := within.height_act (Site.work tool label dir args place site).1
    simp only [hidle, hworking, phaseLeft]
    omega

theorem Advance.within {site site' : Site} {n : Nat} (advance : Advance tool old task site new after site')
    (within : task.script.Within n) : ∃ n, after.script.Within n := by
  cases advance with
  | lock | permit | operate | finish | giveBack | launch => exact ⟨n, within⟩
  | look | test =>
    cases within with
    | test rest => exact ⟨_, rest _⟩
  | act | reply =>
    cases within with
    | act rest => exact ⟨_, rest _⟩

/-- When a call and its task change, the others have as much before them as they had. -/
theorem callsLeft_moves (place : b.At i repo old task) (moves : b.Moves b' i repo new after)
    (calls : b'.machine.calls.length = b.machine.calls.length) :
    b'.callsLeft + callLeft old task = b.callsLeft + callLeft new after := by
  have hi : i ∈ Finset.range b.machine.calls.length :=
    Finset.mem_range.2 (List.getElem?_eq_some_iff.1 place.1).1
  have hat : b'.At i repo new after := (moves i _ _ _).2 (by simp)
  have hrest : ∑ j ∈ (Finset.range b.machine.calls.length).erase i, b'.leftAt j =
      ∑ j ∈ (Finset.range b.machine.calls.length).erase i, b.leftAt j :=
    Finset.sum_congr rfl fun j hj => leftAt_congr fun other phase own => by
      rw [moves, if_neg (Finset.ne_of_mem_erase hj)]
  rw [callsLeft, callsLeft, calls, ← Finset.add_sum_erase _ _ hi, ← Finset.add_sum_erase _ b.leftAt hi, hrest,
    leftAt_of_at hat, leftAt_of_at place]
  omega

theorem Sound.left_lt {move : BatchMove} (sound : b.Sound c) (bounded : b.Bounded)
    (within : ∀ name target, c.find name = .ok target → (syncTarget target).Within 8)
    (h : Batch.step c tool b move = some b') : b'.left < b.left := by
  cases sound.change_of_step h with
  | @refuse k name waiting _ change =>
    obtain ⟨hk, -⟩ := List.getElem?_eq_some_iff.1 waiting
    subst change
    change 25 * (b.waiting.eraseIdx k).length + b.callsLeft + (b.ended ++ [_]).length <
      25 * b.waiting.length + b.callsLeft + b.ended.length
    rw [List.length_eraseIdx_of_lt hk, List.length_append, List.length_singleton]
    omega
  | @begin k name target waiting known change =>
    obtain ⟨hk, -⟩ := List.getElem?_eq_some_iff.1 waiting
    have hat := change ▸ @at_begin b sound.length name ⟨syncTarget target, none⟩ (b.waiting.eraseIdx k)
    -- the new call has at most 24 moves before it, one less than its name has counted for
    have hnew : b'.leftAt b.machine.calls.length ≤ 24 := by
      rw [leftAt_of_at (hat.2 (.inr ⟨rfl, rfl, rfl, rfl⟩))]
      have := (within name target known).height_le
      simp only [callLeft, phaseLeft]
      omega
    have hold : ∑ j ∈ Finset.range b.machine.calls.length, b'.leftAt j = b.callsLeft :=
      Finset.sum_congr rfl fun j hj => leftAt_congr fun other phase own => by
        rw [hat]
        simp [Nat.ne_of_lt (Finset.mem_range.1 hj)]
    have hcalls : b'.callsLeft = b.callsLeft + b'.leftAt b.machine.calls.length := by
      rw [callsLeft, show b'.machine.calls.length = b.machine.calls.length + 1 by simp [change],
        Finset.sum_range_succ, hold]
    have hlength : b'.waiting.length + 1 = b.waiting.length := by
      rw [change, List.length_eraseIdx_of_lt hk]
      omega
    have hended : b'.ended = b.ended := by rw [change]
    rw [left, left, hcalls, hended]
    omega
  | advance place advance moves keeps ended =>
    obtain ⟨n, hn⟩ := bounded _ _ _ _ place
    have hlt := Advance.left_lt advance hn
    have hcalls := callsLeft_moves place moves keeps.calls
    rw [left, left, keeps.waiting, ended]
    omega
  | @unlock i repo result task place moves keeps _ ended =>
    have hcalls := callsLeft_moves place moves keeps.calls
    have hlt : callLeft (.finished result) task + 2 = callLeft (.leaving result) task := by
      simp only [callLeft, phaseLeft]
      omega
    rw [left, left, keeps.waiting, ended, List.length_append, List.length_singleton]
    omega
  | @collect k name result hended change =>
    obtain ⟨hk, -⟩ := List.getElem?_eq_some_iff.1 hended
    subst change
    change 25 * b.waiting.length + b.callsLeft + (b.ended.eraseIdx k).length <
      25 * b.waiting.length + b.callsLeft + b.ended.length
    rw [List.length_eraseIdx_of_lt hk]
    omega

theorem Sound.bounded_of_step {move : BatchMove} (sound : b.Sound c) (bounded : b.Bounded)
    (within : ∀ name target, c.find name = .ok target → (syncTarget target).Within 8)
    (h : Batch.step c tool b move = some b') : b'.Bounded := by
  intro j other phase own hat
  cases sound.change_of_step h with
  | refuse _ _ change | collect _ change =>
    rw [change] at hat
    exact bounded j other phase own hat
  | begin _ known change =>
    rw [change, at_begin sound.length] at hat
    rcases hat with hat | ⟨-, -, -, rfl⟩
    · exact bounded j other phase own hat
    · exact ⟨8, within _ _ known⟩
  | advance place advance moves _ _ =>
    rw [moves] at hat
    split at hat
    · obtain ⟨-, -, rfl⟩ := hat
      obtain ⟨n, hn⟩ := bounded _ _ _ _ place
      exact Advance.within advance hn
    · exact bounded j other phase own hat
  | unlock place moves _ _ _ =>
    rw [moves] at hat
    split at hat
    · obtain ⟨-, -, rfl⟩ := hat
      exact bounded _ _ _ _ place
    · exact bounded j other phase own hat

variable {names : List String} {site : Site} {moves : List BatchMove}

theorem sound_of_run (run : runMoves (step c tool) (start c names site) moves = some b) : b.Sound c :=
  runMoves_keeps (motive := fun b => b.Sound c) (sound_start c names site) (fun _ _ _ sound h => sound.step h) run

/-- The moves of a run and those it still has before it. -/
theorem length_add_left_le (within : ∀ name target, c.find name = .ok target → (syncTarget target).Within 8)
    (run : runMoves (step c tool) (start c names site) moves = some b) :
    moves.length + b.left ≤ 25 * names.length := by
  have hall : b.Bounded ∧ moves.length + b.left ≤ 25 * names.length := by
    refine runMoves_induction (motive := fun moves b => b.Bounded ∧ moves.length + b.left ≤ 25 * names.length)
      ⟨?_, ?_⟩ ?_ run
    · intro i repo phase task h
      simp [At, start, Machine.start] at h
    · simp [left, callsLeft, start, Machine.start]
    · rintro past middle move after hpast ⟨hbounded, hlength⟩ hmove
      have sound := sound_of_run hpast
      refine ⟨sound.bounded_of_step hbounded within hmove, ?_⟩
      have hlt := sound.left_lt hbounded within hmove
      rw [List.length_append, List.length_singleton]
      omega
  exact hall.2

end Batch

end Sync

end CodeSearch
