import CodeSearch.Search.WorkingCopy
import CodeSearch.Sync.Coordinator
import CodeSearch.Sync.Machine

/-!
# Background updates

A worker keeps one served repository up to date. It sleeps until its poll interval has passed or an update
is requested, synchronizes the repository, and hands the new revision to the searcher. A request that finds
the worker asleep calls it; any other is remembered, once, until the worker comes to rest.
-/

namespace CodeSearch.Sync

inductive WorkerPhase where
  /-- Is about to sleep, unless there is a request. -/
  | resting
  | asleep
  /-- Was asleep when an update was requested, and has not yet noticed. -/
  | called
  | woken
  /-- Its synchronization is under way as the call of that number. -/
  | syncing (call : Nat)
  deriving DecidableEq, Repr

structure Worker where
  repo : String
  phase : WorkerPhase
  deriving DecidableEq, Repr

/-- The calls, the workers, the requests that wait for a worker, and the repositories that are served. -/
structure Updates where
  machine : Machine
  workers : List Worker
  requested : NameMap Unit
  registry : Registry WorkingCopy
  /-- What was handed to searchers, newest first. -/
  refreshed : List (String × String)

inductive UpdateMove where
  /-- An update is requested and accepted. -/
  | request (repo : String)
  /-- A worker at rest finds no request. -/
  | sleep (worker : Nat)
  /-- The poll interval of a worker has passed. -/
  | tick (worker : Nat)
  /-- A worker at rest finds a request that was remembered. -/
  | notice (worker : Nat)
  /-- A worker notices that it was called. -/
  | heed (worker : Nat)
  /-- A woken worker begins to synchronize. -/
  | begin (worker : Nat)
  /-- A worker whose synchronization has ended comes to rest. -/
  | settle (worker : Nat)
  | sync (move : Move)

namespace Updates

variable {D : Type}

/-- The workers that a registry needs: one for each repository that can be updated in some way. -/
def workersFor (c : Coordinator D) (served : List String) : List Worker :=
  (served.filter fun name =>
    match c.targets.get? name with
    | some target => target.pollInterval.isSome || target.pushEnabled
    | none => false).map fun name => ⟨name, .resting⟩

def pollInterval (c : Coordinator D) (repo : String) : Option Nat :=
  (c.targets.get? repo).bind (·.pollInterval)

def listens (c : Coordinator D) (repo : String) : Bool :=
  (c.targets.get? repo).any (·.pushEnabled)

def setPhase (u : Updates) (w : Nat) (phase : WorkerPhase) : Updates :=
  { u with workers := u.workers.modify w fun worker => { worker with phase := phase } }

def sleeper? (u : Updates) (repo : String) : Option Nat :=
  u.workers.findIdx? fun w => w.repo == repo && w.phase == .asleep

/-- Calls a sleeping worker of a repository. If there is none the request is remembered. -/
def notify (u : Updates) (repo : String) : Updates :=
  match u.sleeper? repo with
  | some w => u.setPhase w .called
  | none => { u with requested := u.requested.insert repo () }

def finds (u : Updates) (c : Coordinator D) (repo : String) : Bool :=
  listens c repo && u.requested.contains repo

def start (c : Coordinator D) (present : NameMap Unit) (served : List String)
    (registry : Registry WorkingCopy) : Updates :=
  ⟨.start c.permits present, workersFor c served, ∅, registry, []⟩

/-- A repository that is not known is refused before a call for it begins. -/
def admits (c : Coordinator D) : Move → Bool
  | .arrive repo => c.contains repo
  | _ => true

def step (c : Coordinator D) (u : Updates) : UpdateMove → Option Updates
  | .request repo => if listens c repo then some (u.notify repo) else none
  | .sleep w =>
    match u.workers[w]? with
    | some ⟨repo, .resting⟩ => if u.finds c repo then none else some (u.setPhase w .asleep)
    | _ => none
  | .tick w =>
    match u.workers[w]? with
    | some ⟨repo, .resting⟩ | some ⟨repo, .asleep⟩ =>
      if (pollInterval c repo).isSome then some (u.setPhase w .woken) else none
    | some ⟨repo, .called⟩ =>
      -- the call has come too late and is passed on
      if (pollInterval c repo).isSome then some ((u.setPhase w .woken).notify repo) else none
    | _ => none
  | .notice w =>
    match u.workers[w]? with
    | some ⟨repo, .resting⟩ =>
      if u.finds c repo then some { u.setPhase w .woken with requested := u.requested.erase repo } else none
    | _ => none
  | .heed w =>
    match u.workers[w]? with
    | some ⟨_, .called⟩ => some (u.setPhase w .woken)
    | _ => none
  | .begin w =>
    match u.workers[w]? with
    | some ⟨repo, .woken⟩ =>
      (u.machine.step (.arrive repo)).map fun machine =>
        { u.setPhase w (.syncing u.machine.calls.length) with machine := machine }
    | _ => none
  | .settle w =>
    match u.workers[w]? with
    | some ⟨repo, .syncing i⟩ =>
      match (u.machine.phase? i).bind Phase.result? with
      | some (.ok revision) =>
        some { u.setPhase w .resting with
          registry := u.registry.refresh repo revision
          refreshed := (repo, revision) :: u.refreshed }
      | some (.error _) => some (u.setPhase w .resting)
      | none => none
    | _ => none
  | .sync move =>
    if admits c move then (u.machine.step move).map fun machine => { u with machine := machine }
    else none

end Updates

end CodeSearch.Sync
