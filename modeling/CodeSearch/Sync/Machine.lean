import CodeSearch.Error
import CodeSearch.Store.NameMap

/-!
# Synchronizations at once

Calls that synchronize repositories, each somewhere on its way. A call first takes the lock of its
repository, then one of a bounded number of permits, then looks whether there is a working copy, and clones
or pulls. When its operation has ended it gives back its permit and then the lock. Which call moves next is
open.
-/

namespace CodeSearch.Sync

inductive Operation where
  | clone | pull
  deriving DecidableEq, Repr

inductive Phase where
  /-- Waits for the lock. -/
  | queued
  /-- Has the lock and waits for a permit. -/
  | locked
  /-- Has the lock and a permit. -/
  | permitted
  /-- Has looked whether there is a working copy. -/
  | looked (found : Bool)
  | operating (operation : Operation)
  /-- The operation has ended; lock and permit are still held. -/
  | ended (result : Except Failure String)
  /-- Has given back the permit and still holds the lock. -/
  | leaving (result : Except Failure String)
  | finished (result : Except Failure String)

namespace Phase

def holdsPermit : Phase → Bool
  | .permitted | .looked _ | .operating _ | .ended _ => true
  | _ => false

def holdsLock : Phase → Bool
  | .locked | .leaving _ => true
  | phase => phase.holdsPermit

def isQueued : Phase → Bool
  | .queued => true
  | _ => false

def isOperating : Phase → Bool
  | .operating _ => true
  | _ => false

def result? : Phase → Option (Except Failure String)
  | .finished result => some result
  | _ => none

end Phase

structure SyncCall where
  repo : String
  phase : Phase

/-- All calls in the order of their arrival. A call is known by its place among them. -/
structure Machine where
  /-- Permits that no call has. -/
  free : Nat
  calls : List SyncCall
  /-- The call that has the lock of each repository. -/
  holders : NameMap Nat
  /-- The repositories that have a working copy. -/
  present : NameMap Unit

inductive Move where
  | arrive (repo : String)
  | lock (call : Nat)
  | permit (call : Nat)
  /-- Looks whether there is a working copy. -/
  | look (call : Nat)
  /-- Begins the operation for what was seen. -/
  | operate (call : Nat)
  /-- The operation ends; `there` tells whether there is a working copy then. -/
  | finish (call : Nat) (result : Except Failure String) (there : Bool)
  /-- Gives back the permit. -/
  | giveBack (call : Nat)
  | unlock (call : Nat)

namespace Machine

def start (permits : Nat) (present : NameMap Unit) : Machine := ⟨permits, [], ∅, present⟩

def phase? (m : Machine) (i : Nat) : Option Phase := (m.calls[i]?).map (·.phase)

def setPhase (m : Machine) (i : Nat) (phase : Phase) : Machine :=
  { m with calls := m.calls.modify i fun c => { c with phase := phase } }

def lockFree (m : Machine) (repo : String) : Bool := !m.holders.contains repo

def permitFree (m : Machine) : Bool := 0 < m.free

def setPresent (m : Machine) (repo : String) (there : Bool) : Machine :=
  { m with present := if there then m.present.insert repo () else m.present.erase repo }

def operationFor (found : Bool) : Operation := if found then .pull else .clone

def step (m : Machine) : Move → Option Machine
  | .arrive repo => some { m with calls := m.calls ++ [⟨repo, .queued⟩] }
  | .lock i =>
    match m.calls[i]? with
    | some ⟨repo, .queued⟩ =>
      if m.lockFree repo then
        some { m.setPhase i .locked with holders := m.holders.insert repo i }
      else none
    | _ => none
  | .permit i =>
    match m.calls[i]? with
    | some ⟨_, .locked⟩ =>
      if m.permitFree then some { m.setPhase i .permitted with free := m.free - 1 } else none
    | _ => none
  | .look i =>
    match m.calls[i]? with
    | some ⟨repo, .permitted⟩ => some (m.setPhase i (.looked (m.present.contains repo)))
    | _ => none
  | .operate i =>
    match m.calls[i]? with
    | some ⟨_, .looked found⟩ => some (m.setPhase i (.operating (operationFor found)))
    | _ => none
  | .finish i result there =>
    match m.calls[i]? with
    | some ⟨repo, .operating _⟩ => some ((m.setPhase i (.ended result)).setPresent repo there)
    | _ => none
  | .giveBack i =>
    match m.calls[i]? with
    | some ⟨_, .ended result⟩ => some { m.setPhase i (.leaving result) with free := m.free + 1 }
    | _ => none
  | .unlock i =>
    match m.calls[i]? with
    | some ⟨repo, .leaving result⟩ =>
      some { m.setPhase i (.finished result) with holders := m.holders.erase repo }
    | _ => none

def firstQueued? (m : Machine) (repo : String) : Option Nat :=
  m.calls.findIdx? fun c => c.repo == repo && c.phase.isQueued

end Machine

end CodeSearch.Sync
