import CodeSearch.Sync.Worker

/-!
# Updates on a clock

A run of workers and calls with given durations of the operations. Time passes only while all of them wait:
for a timer, for a lock, or for a permit. Locks and permits go to those who have waited longest, and what is
ready goes on in the order in which it became so.
-/

namespace CodeSearch.Sync

/-- What becomes ready to go on. -/
inductive Wake where
  | call (i : Nat)
  /-- A worker that was called or woken. -/
  | worker (w : Nat)
  /-- A worker at rest that looks whether it may sleep. -/
  | rest (w : Nat)
  /-- The poll timer of a worker. -/
  | poll (w : Nat)
  deriving DecidableEq, Repr

/-- How long the n-th operation of a repository takes, in milliseconds, and what it answers. -/
abbrev Timing := (repo : String) → (operation : Operation) → (n : Nat) → Nat × Except Failure String

inductive Event where
  | began (repo : String) (operation : Operation)
  | ended (repo : String)
  deriving DecidableEq, Repr

structure Clock where
  now : Nat
  updates : Updates
  /-- Calls that wait for a permit, longest first. -/
  waiting : List Nat
  /-- What is ready, longest first. -/
  ready : List Wake
  /-- What becomes ready at which time, in order of time. -/
  timers : List (Nat × Wake)
  /-- Newest first. -/
  events : List Event

namespace Clock

variable {D : Type}

def start (permits : Nat) (present : NameMap Unit) (registry : Registry WorkingCopy) : Clock :=
  ⟨0, ⟨.start permits present, [], ∅, registry, []⟩, [], [], [], []⟩

/-- Makes a move; one that is not open changes nothing. -/
def act (c : Coordinator D) (k : Clock) (move : UpdateMove) : Clock :=
  { k with updates := (k.updates.step c move).getD k.updates }

def later (k : Clock) (wake : Wake) : Clock := { k with ready := k.ready ++ [wake] }

def next (k : Clock) (wake : Wake) : Clock := { k with ready := wake :: k.ready }

/-- Puts a timer behind those of the same time. -/
def insertTimer (time : Nat) (wake : Wake) : List (Nat × Wake) → List (Nat × Wake)
  | [] => [(time, wake)]
  | t :: ts => if t.1 ≤ time then t :: insertTimer time wake ts else (time, wake) :: t :: ts

def setTimer (k : Clock) (delay : Nat) (wake : Wake) : Clock :=
  { k with timers := insertTimer (k.now + delay) wake k.timers }

def machine (k : Clock) : Machine := k.updates.machine

def record (k : Clock) (event : Event) : Clock := { k with events := event :: k.events }

def begun (k : Clock) (repo : String) : Nat :=
  (k.events.filter fun event =>
    match event with
    | .began name _ => name == repo
    | .ended _ => false).length

def passPermit (c : Coordinator D) (k : Clock) : Clock :=
  match k.waiting with
  | [] => k
  | i :: rest => ({ k with waiting := rest }.act c (.sync (.permit i))).later (.call i)

def passLock (c : Coordinator D) (repo : String) (k : Clock) : Clock :=
  match k.machine.firstQueued? repo with
  | none => k
  | some i => (k.act c (.sync (.lock i))).later (.call i)

def workerOf? (k : Clock) (i : Nat) : Option Nat :=
  k.updates.workers.findIdx? fun w => w.phase == .syncing i

/-- Ends the operation of a call. A clone that succeeds leaves a working copy. -/
def finish (c : Coordinator D) (timing : Timing) (k : Clock) (i : Nat) (repo : String)
    (operation : Operation) : Clock :=
  let result := (timing repo operation (k.begun repo - 1)).2
  let there := k.machine.present.contains repo || result.toBool
  let k := (k.act c (.sync (.finish i result there))).record (.ended repo)
  let k := (k.act c (.sync (.giveBack i))).passPermit c
  let k := (k.act c (.sync (.unlock i))).passLock c repo
  match k.workerOf? i with
  | some w => (k.act c (.settle w)).next (.rest w)
  | none => k

def goCall (c : Coordinator D) (timing : Timing) (k : Clock) (i : Nat) : Clock :=
  match k.machine.calls[i]? with
  | some ⟨repo, .queued⟩ =>
    if k.machine.lockFree repo then (k.act c (.sync (.lock i))).next (.call i) else k
  | some ⟨_, .locked⟩ =>
    if k.waiting.contains i then k
    else if k.waiting.isEmpty && k.machine.permitFree then
      (k.act c (.sync (.permit i))).next (.call i)
    else { k with waiting := k.waiting ++ [i] }
  | some ⟨repo, .permitted⟩ =>
    let k := (k.act c (.sync (.look i))).act c (.sync (.operate i))
    match k.machine.phase? i with
    | some (.operating operation) =>
      let delay := (timing repo operation (k.begun repo)).1
      let k := k.record (.began repo operation)
      if delay = 0 then k.next (.call i) else k.setTimer delay (.call i)
    | _ => k
  | some ⟨repo, .operating operation⟩ => k.finish c timing i repo operation
  | _ => k

def goRest (c : Coordinator D) (k : Clock) (w : Nat) : Clock :=
  match k.updates.workers[w]? with
  | none => k
  | some worker =>
    if k.updates.finds c worker.repo then (k.act c (.notice w)).next (.worker w)
    else
      let k := k.act c (.sleep w)
      match Updates.pollInterval c worker.repo with
      | some interval => k.setTimer interval (.poll w)
      | none => k

def go (c : Coordinator D) (timing : Timing) (k : Clock) : Wake → Clock
  | .call i => k.goCall c timing i
  | .worker w =>
    let i := k.machine.calls.length
    ((k.act c (.heed w)).act c (.begin w)).next (.call i)
  | .rest w => k.goRest c w
  | .poll w => (k.act c (.tick w)).next (.worker w)

/-- All timers of the next time at which there is one become ready. -/
def advance (k : Clock) : Clock :=
  match k.timers with
  | [] => k
  | (time, _) :: _ =>
    let due := k.timers.takeWhile fun t => t.1 ≤ time
    { k with
      now := time
      ready := k.ready ++ due.map (·.2)
      timers := k.timers.drop due.length }

/-- Runs until nothing is ready and either `done` or the time `limit` is reached, for at most `fuel`
turns. -/
def run (c : Coordinator D) (timing : Timing) (done : Clock → Bool) (limit : Option Nat) :
    Nat → Clock → Clock
  | 0, k => k
  | fuel + 1, k =>
    match k.ready with
    | wake :: rest => run c timing done limit fuel ({ k with ready := rest }.go c timing wake)
    | [] =>
      if done k then k
      else
        match k.timers with
        | [] => k
        | (time, _) :: _ =>
          if limit.any (· < time) then k else run c timing done limit fuel k.advance

def wait (c : Coordinator D) (timing : Timing) (fuel : Nat) (span : Nat) (k : Clock) : Clock :=
  let limit := k.now + span
  { k.run c timing (fun _ => false) (some limit) fuel with now := limit }

/-- Lets go on what can go on without time passing. -/
def quiesce (c : Coordinator D) (timing : Timing) (fuel : Nat) (k : Clock) : Clock :=
  k.run c timing (fun _ => true) none fuel

def spawn (c : Coordinator D) (served : List String) (k : Clock) : Clock :=
  let workers := Updates.workersFor c served
  let first := k.updates.workers.length
  { k with
    updates := { k.updates with workers := k.updates.workers ++ workers }
    ready := k.ready ++ (List.range workers.length).map fun w => .rest (first + w) }

/-- An accepted request. A worker that it calls needs its poll timer no more. -/
def request (c : Coordinator D) (repo : String) (k : Clock) : Clock :=
  match k.updates.sleeper? repo with
  | some w =>
    let k := k.act c (.request repo)
    { k with timers := k.timers.filter fun t => t.2 != Wake.poll w }.later (.worker w)
  | none => k.act c (.request repo)

def arrive (c : Coordinator D) (repo : String) (k : Clock) : Nat × Clock :=
  let i := k.machine.calls.length
  (i, (k.act c (.sync (.arrive repo))).later (.call i))

def result? (k : Clock) (i : Nat) : Option (Except Failure String) :=
  (k.machine.phase? i).bind Phase.result?

/-- Synchronizes several repositories at once and waits for all. -/
def syncMany (c : Coordinator D) (timing : Timing) (fuel : Nat) (names : List String) (k : Clock) :
    List (String × Except Failure String) × Clock :=
  let (begun, k) := names.foldl (fun (begun, k) name =>
    match c.find name with
    | .error e => ((name, none, some e) :: begun, k)
    | .ok _ =>
      let (i, k) := arrive c name k
      ((name, some i, none) :: begun, k)) (([] : List (String × Option Nat × Option Failure)), k)
  let calls := begun.filterMap (·.2.1)
  let k := k.run c timing (fun k => calls.all fun i => (k.result? i).isSome) none fuel
  (begun.reverse.filterMap fun (name, call, failed) =>
    match call, failed with
    | some i, _ => (k.result? i).map fun r => (name, r)
    | none, some e => some (name, .error e)
    | none, none => none, k)

end Clock

end CodeSearch.Sync
