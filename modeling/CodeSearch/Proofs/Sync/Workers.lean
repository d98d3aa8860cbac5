import CodeSearch.Proofs.Sync.Exclusion

/-!
# What a move does to the workers

The moves of updates one by one, with what each needs and what it leaves behind.
-/

namespace CodeSearch.Sync

variable {D : Type} {c : Coordinator D} {u u' : Updates} {move : UpdateMove} {w j : Nat}
  {repo other : String} {phase new old : WorkerPhase}

theorem Phase.result?_eq_some_iff {phase : Phase} {result : Except Failure String} :
    phase.result? = some result ↔ phase = .finished result := by
  cases phase <;> simp [result?]

namespace Updates

inductive Step (c : Coordinator D) (u : Updates) : UpdateMove → Updates → Prop
  | request {repo : String} (listening : listens c repo = true) : Step c u (.request repo) (u.notify repo)
  | sleep {w : Nat} {repo : String} (found : u.workers[w]? = some ⟨repo, .resting⟩)
      (unasked : u.finds c repo = false) : Step c u (.sleep w) (u.setPhase w .asleep)
  | tick {w : Nat} {repo : String} {phase : WorkerPhase} (found : u.workers[w]? = some ⟨repo, phase⟩)
      (waits : phase = .resting ∨ phase = .asleep) (polls : (pollInterval c repo).isSome = true) :
      Step c u (.tick w) (u.setPhase w .woken)
  | pass {w : Nat} {repo : String} (found : u.workers[w]? = some ⟨repo, .called⟩)
      (polls : (pollInterval c repo).isSome = true) :
      Step c u (.tick w) ((u.setPhase w .woken).notify repo)
  | notice {w : Nat} {repo : String} (found : u.workers[w]? = some ⟨repo, .resting⟩)
      (asked : u.finds c repo = true) :
      Step c u (.notice w) { u.setPhase w .woken with requested := u.requested.erase repo }
  | heed {w : Nat} {repo : String} (found : u.workers[w]? = some ⟨repo, .called⟩) :
      Step c u (.heed w) (u.setPhase w .woken)
  | begin {w : Nat} {repo : String} (found : u.workers[w]? = some ⟨repo, .woken⟩) :
      Step c u (.begin w) { u.setPhase w (.syncing u.machine.calls.length) with
        machine := { u.machine with calls := u.machine.calls ++ [⟨repo, .queued⟩] } }
  | refresh {w : Nat} {repo : String} {i : Nat} {revision : String}
      (found : u.workers[w]? = some ⟨repo, .syncing i⟩)
      (finished : u.machine.phase? i = some (.finished (.ok revision))) :
      Step c u (.settle w) { u.setPhase w .resting with
        registry := u.registry.refresh repo revision
        refreshed := (repo, revision) :: u.refreshed }
  | fail {w : Nat} {repo : String} {i : Nat} {e : Failure}
      (found : u.workers[w]? = some ⟨repo, .syncing i⟩)
      (finished : u.machine.phase? i = some (.finished (.error e))) :
      Step c u (.settle w) (u.setPhase w .resting)
  | sync {m : Move} {machine : Machine} (admitted : admits c m = true)
      (moved : u.machine.step m = some machine) : Step c u (.sync m) { u with machine := machine }

theorem step_iff : u.step c move = some u' ↔ Step c u move u' := by
  constructor
  · intro h
    cases move <;> simp only [step] at h
    case request repo =>
      split at h <;> cases h
      exact .request ‹_›
    case sleep w =>
      split at h <;> try contradiction
      split at h <;> cases h
      exact .sleep ‹_› (Bool.eq_false_iff.2 ‹_›)
    case tick w =>
      split at h <;> try contradiction
      · split at h <;> cases h
        exact .tick ‹_› (.inl rfl) ‹_›
      · split at h <;> cases h
        exact .tick ‹_› (.inr rfl) ‹_›
      · split at h <;> cases h
        exact .pass ‹_› ‹_›
    case notice w =>
      split at h <;> try contradiction
      split at h <;> cases h
      exact .notice ‹_› ‹_›
    case heed w =>
      split at h <;> cases h
      exact .heed ‹_›
    case begin w =>
      split at h <;> cases h
      exact .begin ‹_›
    case settle w =>
      split at h <;> try contradiction
      rename_i repo i found
      obtain ⟨result, hresult⟩ : ∃ result, (u.machine.phase? i).bind Phase.result? = some result := by
        cases hresult : (u.machine.phase? i).bind Phase.result? with
        | none => simp [hresult] at h
        | some result => exact ⟨result, rfl⟩
      obtain ⟨phase, hphase, hended⟩ := Option.bind_eq_some_iff.1 hresult
      rw [Phase.result?_eq_some_iff.1 hended] at hphase
      rw [hresult] at h
      cases result with
      | ok revision =>
        cases h
        exact .refresh found hphase
      | error e =>
        cases h
        exact .fail found hphase
    case sync m =>
      split at h <;> try contradiction
      obtain ⟨machine, hmoved, rfl⟩ := Option.map_eq_some_iff.1 h
      exact .sync ‹_› hmoved
  · intro h
    cases h with
    | request listening => simp [step, listening]
    | sleep found unasked => simp [step, found, unasked]
    | tick found waits polls => rcases waits with rfl | rfl <;> simp [step, found, polls]
    | pass found polls => simp [step, found, polls]
    | notice found asked => simp [step, found, asked]
    | heed found => simp [step, found]
    | begin found => simp [step, found, Machine.step]
    | refresh found finished => simp [step, found, finished, Phase.result?]
    | fail found finished => simp [step, found, finished, Phase.result?]
    | sync admitted moved => simp [step, admitted, moved]

/-! ## Workers and their repositories -/

theorem getElem?_setPhase (u : Updates) (w j : Nat) (new : WorkerPhase) :
    (u.setPhase w new).workers[j]? =
      if w = j then (u.workers[j]?).map fun worker => { worker with phase := new } else u.workers[j]? := by
  simp only [setPhase, List.getElem?_modify]
  split <;> cases u.workers[j]? <;> rfl

theorem found_setPhase (found : u.workers[w]? = some ⟨repo, old⟩) :
    (u.setPhase w new).workers[j]? = some ⟨other, phase⟩ ↔
      if j = w then other = repo ∧ phase = new else u.workers[j]? = some ⟨other, phase⟩ := by
  rw [getElem?_setPhase]
  by_cases h : j = w
  · subst h
    simp [found, eq_comm]
  · simp [h, Ne.symm h]

theorem repos_setPhase (u : Updates) (w : Nat) (phase : WorkerPhase) :
    (u.setPhase w phase).workers.map (·.repo) = u.workers.map (·.repo) := by
  apply List.ext_getElem?
  intro j
  rw [List.getElem?_map, List.getElem?_map, getElem?_setPhase]
  split <;> cases u.workers[j]? <;> rfl

theorem machine_notify (u : Updates) (repo : String) : (u.notify repo).machine = u.machine := by
  unfold notify
  cases u.sleeper? repo <;> rfl

theorem registry_notify (u : Updates) (repo : String) : (u.notify repo).registry = u.registry := by
  unfold notify
  cases u.sleeper? repo <;> rfl

theorem refreshed_notify (u : Updates) (repo : String) : (u.notify repo).refreshed = u.refreshed := by
  unfold notify
  cases u.sleeper? repo <;> rfl

theorem repos_notify (u : Updates) (repo : String) :
    (u.notify repo).workers.map (·.repo) = u.workers.map (·.repo) := by
  unfold notify
  cases u.sleeper? repo with
  | none => rfl
  | some w => exact repos_setPhase u w _

end Updates

end CodeSearch.Sync
