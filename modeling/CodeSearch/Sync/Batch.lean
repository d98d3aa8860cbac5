import CodeSearch.Sync.Coordinator
import CodeSearch.Sync.Machine

/-!
# Several synchronizations at once

One task for each of some names. A task looks its repository up, waits for the lock and a permit, and then
goes through the script of a synchronization, one action after another; while the tool works for it the
others go on. What each task ends with is collected under its name. Which task moves next is open.
-/

namespace CodeSearch.Sync

/-- The way of one call through its script. -/
structure Task where
  /-- What is still to be done. -/
  script : Script (Except Failure String)
  /-- Where the tool works for it, if it does. -/
  working : Option (List Files.Name)

/-- All tasks and what they share. Tasks that have begun are calls of the machine, in the same order. -/
structure Batch where
  machine : Machine
  tasks : List Task
  site : Site
  /-- The names whose tasks have not begun. -/
  waiting : List String
  /-- Results that have not been collected. -/
  ended : List (String × Except Failure String)
  results : NameMap (Except Failure String)

inductive BatchMove where
  /-- A task begins and looks its repository up. -/
  | begin (waiting : Nat)
  | lock (call : Nat)
  | permit (call : Nat)
  /-- Looks whether there is a working copy. -/
  | look (call : Nat)
  /-- Begins the operation for what was seen. -/
  | operate (call : Nat)
  /-- Makes the next action; if it is a call of the tool, starts the tool. -/
  | act (call : Nat)
  /-- The tool has done its work. -/
  | reply (call : Nat)
  /-- The script has ended. -/
  | finish (call : Nat)
  | giveBack (call : Nat)
  /-- Gives back the lock, and the task has ended. -/
  | unlock (call : Nat)
  | collect (ended : Nat)

namespace Batch

def start (c : Coordinator VcsDriver) (names : List String) (site : Site) : Batch :=
  ⟨Machine.start c.permits ∅, [], site, names, [], ∅⟩

def Over (b : Batch) : Prop :=
  b.waiting = [] ∧ b.ended = [] ∧ ∀ call ∈ b.machine.calls, call.phase.result?.isSome = true

instance (b : Batch) : Decidable b.Over := inferInstanceAs (Decidable (_ ∧ _ ∧ _))

def there (c : Coordinator VcsDriver) (site : Site) (repo : String) : Bool :=
  match c.find repo with
  | .ok target => site.disk.isDir target.workingDir
  | .error _ => false

def setTask (b : Batch) (i : Nat) (task : Task) (site : Site) : Batch :=
  { b with tasks := b.tasks.set i task, site := site }

def drive (b : Batch) (move : Move) : Option Batch :=
  (b.machine.step move).map fun machine => { b with machine := machine }

def begin (c : Coordinator VcsDriver) (b : Batch) (k : Nat) : Option Batch :=
  match b.waiting[k]? with
  | none => none
  | some name =>
    let b := { b with waiting := b.waiting.eraseIdx k }
    match c.find name with
    | .error e => some { b with ended := b.ended ++ [(name, .error e)] }
    | .ok target =>
      drive { b with tasks := b.tasks ++ [⟨Coordinator.syncTarget target, none⟩] } (.arrive name)

def look (b : Batch) (i : Nat) : Option Batch :=
  match b.machine.calls[i]?, b.tasks[i]? with
  | some ⟨repo, .permitted⟩, some ⟨.test dir next, none⟩ =>
    let found := b.site.disk.isDir dir
    drive { b.setTask i ⟨next found, none⟩ b.site with machine := b.machine.setPresent repo found } (.look i)
  | _, _ => none

def act (tool : Tool) (b : Batch) (i : Nat) : Option Batch :=
  match b.machine.calls[i]?, b.tasks[i]? with
  | some ⟨_, .operating _⟩, some ⟨.test dir next, none⟩ =>
    some (b.setTask i ⟨next (b.site.disk.isDir dir), none⟩ b.site)
  | some ⟨_, .operating _⟩, some ⟨.act (.call label dir args) next, none⟩ =>
    match Site.startPlace b.site.disk dir args with
    | .error reason => some (b.setTask i ⟨next (.error (.vcsCommand label dir reason)), none⟩ b.site)
    | .ok place => some (b.setTask i ⟨.act (.call label dir args) next, some place⟩ b.site)
  | some ⟨_, .operating _⟩, some ⟨.act action next, none⟩ =>
    let (answer, site) := Site.perform tool action b.site
    some (b.setTask i ⟨next answer, none⟩ site)
  | _, _ => none

def reply (tool : Tool) (b : Batch) (i : Nat) : Option Batch :=
  match b.machine.calls[i]?, b.tasks[i]? with
  | some ⟨_, .operating _⟩, some ⟨.act (.call label dir args) next, some place⟩ =>
    let (answer, site) := Site.work tool label dir args place b.site
    some (b.setTask i ⟨next answer, none⟩ site)
  | _, _ => none

def finish (c : Coordinator VcsDriver) (b : Batch) (i : Nat) : Option Batch :=
  match b.machine.calls[i]?, b.tasks[i]? with
  | some ⟨repo, _⟩, some ⟨.done result, none⟩ => b.drive (.finish i result (there c b.site repo))
  | _, _ => none

def unlock (b : Batch) (i : Nat) : Option Batch :=
  match b.machine.calls[i]? with
  | some ⟨repo, .leaving result⟩ => drive { b with ended := b.ended ++ [(repo, result)] } (.unlock i)
  | _ => none

def collect (b : Batch) (k : Nat) : Option Batch :=
  b.ended[k]?.map fun (name, result) =>
    { b with ended := b.ended.eraseIdx k, results := b.results.insert name result }

def step (c : Coordinator VcsDriver) (tool : Tool) (b : Batch) : BatchMove → Option Batch
  | .begin k => begin c b k
  | .lock i => b.drive (.lock i)
  | .permit i => b.drive (.permit i)
  | .look i => look b i
  | .operate i => b.drive (.operate i)
  | .act i => act tool b i
  | .reply i => reply tool b i
  | .finish i => finish c b i
  | .giveBack i => b.drive (.giveBack i)
  | .unlock i => unlock b i
  | .collect k => collect b k

end Batch

end CodeSearch.Sync
