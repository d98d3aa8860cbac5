import CodeSearch.Access
import CodeSearch.Error
import CodeSearch.Search.Options

/-!
# Searching many repositories

One task searches each repository and hands its answer off to the caller, who takes the answers in the
order of their arrival. The first failure that arrives ends the search; else every answer counts. Answers
without a match are left out of the results but not out of the count of files. There is room for the
answers of all tasks, so that none has to wait for a caller who has stopped listening.
-/

namespace CodeSearch

structure Aggregate where
  /-- Only repositories with a match. -/
  results : NameMap SearchResponse
  filesOpened : Nat

def Aggregate.empty : Aggregate := ⟨∅, 0⟩

def Aggregate.add (sum : Aggregate) (name : String) (response : SearchResponse) : Aggregate where
  results := if response.matched.isEmpty then sum.results else sum.results.insert name response
  filesOpened := sum.filesOpened + response.filesOpened

/-- How a task ends: with an answer, or without one. -/
inductive TaskEnd where
  | answered (answer : Except Failure SearchResponse)
  | lost

def lostTask : Failure := .searchFailed "search task ended without reporting a result"

structure FanOut where
  /-- How many answers can be handed off before one is taken. -/
  room : Nat
  /-- Tasks that have not ended. -/
  running : List String
  /-- Answers handed off and not yet taken, oldest first. -/
  handed : List (String × Except Failure SearchResponse)
  /-- How many answers the caller still waits for. -/
  due : Nat
  sum : Aggregate
  /-- What the caller has answered. -/
  result : Option (Except Failure Aggregate)

namespace FanOut

def start (names : List String) : FanOut where
  room := max names.length 1
  running := names
  handed := []
  due := names.length
  sum := .empty
  result := none

/-- A task ends. One that cannot hand off its answer has to wait; when nobody listens any more, the answer
is dropped. -/
def taskEnds (s : FanOut) (name : String) (ending : TaskEnd) : Option FanOut :=
  if s.running.contains name then
    let s := { s with running := s.running.erase name }
    match ending with
    | .lost => some s
    | .answered answer =>
      if s.result.isSome then some s
      else if s.handed.length < s.room then some { s with handed := s.handed ++ [(name, answer)] }
      else none
  else none

/-- The caller goes on: takes an answer, or finds that none is left to wait for. -/
def receive (s : FanOut) : Option FanOut :=
  match s.result, s.due, s.handed with
  | some _, _, _ => none
  | none, 0, _ => some { s with result := some (.ok s.sum) }
  | none, _ + 1, (_, .error e) :: rest => some { s with handed := rest, result := some (.error e) }
  | none, due + 1, (name, .ok response) :: rest =>
    some { s with handed := rest, due := due, sum := s.sum.add name response }
  | none, _ + 1, [] =>
    if s.running.isEmpty then some { s with result := some (.error lostTask) } else none

inductive Move where
  /-- The task of a repository ends. -/
  | ends (name : String)
  /-- The caller goes on. -/
  | receive

/-- The state after a move, if the move is open, where `endOf` tells how each task ends. -/
def step (endOf : String → TaskEnd) (s : FanOut) : Move → Option FanOut
  | .ends name => s.taskEnds name (endOf name)
  | .receive => s.receive

/-- The caller goes on for as long as it can, at most `fuel` times. -/
def settle : Nat → FanOut → FanOut
  | 0, s => s
  | fuel + 1, s =>
    match s.receive with
    | some s => settle fuel s
    | none => s

def hear (s : FanOut) (name : String) (ending : TaskEnd) : FanOut :=
  let s := (s.taskEnds name ending).getD s
  s.settle (s.due + 1)

def listen (s : FanOut) (arrivals : List (String × TaskEnd)) : FanOut :=
  arrivals.foldl (fun s (name, ending) => s.hear name ending) (s.settle (s.due + 1))

end FanOut

/-- Searches the named repositories, whose tasks end in the given order. -/
def searchAll (names : List String) (arrivals : List (String × TaskEnd)) : Except Failure Aggregate :=
  (((FanOut.start names).listen arrivals).result).getD (.error lostTask)

def Registry.known {S : Type} (registry : Registry S) (names : List String) : List String :=
  ((NameMap.ofList (names.map fun name => (name, ()))).filter fun name _ => registry.contains name).keys

end CodeSearch
