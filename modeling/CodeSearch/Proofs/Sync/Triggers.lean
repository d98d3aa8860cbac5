import Mathlib.Data.List.Basic
import CodeSearch.Proofs.Sync.Attention
import CodeSearch.Services
import CodeSearch.Web.Api

/-!
# No request is lost

A request for a repository that a worker listens for leads to a synchronization that begins after it, however
requests, poll intervals and synchronizations mingle. Requests that find one pending are folded into it. What
is handed to a searcher are the revisions of the successful synchronizations of its worker, in their order, and
it searches at the last of them.
-/

namespace CodeSearch.Sync

variable {D : Type} {c : Coordinator D} {present : NameMap Unit} {served : List String}
  {registry : Registry WorkingCopy} {u u' : Updates} {move : UpdateMove} {moves : List UpdateMove} {w j : Nat}
  {repo other : String} {phase phase' : WorkerPhase}

def WorkerPhase.call? : WorkerPhase → Option Nat
  | .syncing i => some i
  | _ => none

/-- A worker that has woken up, or will as soon as it notices, and has not begun to synchronize. -/
def WorkerPhase.isUp : WorkerPhase → Bool
  | .called | .woken => true
  | _ => false

namespace Updates

variable {v v' : View}

/-! ## No request is lost -/

/-- Something is due: a request is remembered, or the worker is up for one. -/
def View.Due (v : View) : Prop := v.pending = true ∨ v.phase.isUp = true

theorem Turn.due_of_request (turn : Turn c u w repo (.request repo) v v') : v'.Due := by
  cases turn with
  | call listening => exact .inr rfl
  | remember awake => exact .inl rfl
  | other unconcerned => simp [concerns] at unconcerned

theorem Turn.due (turn : Turn c u w repo move v v') (due : v.Due) : move = .begin w ∨ v'.Due := by
  cases turn with
  | begin => exact .inl rfl
  | call listening => exact .inr (.inr rfl)
  | remember awake => exact .inr (.inl rfl)
  | pass => exact .inr (.inl rfl)
  | tick waits => exact .inr (.inr rfl)
  | notice => exact .inr (.inr rfl)
  | heed => exact .inr (.inr rfl)
  | sleep => simp [View.Due, WorkerPhase.isUp] at due
  | settle finished =>
    rcases due with hpending | hup
    · exact .inr (.inl hpending)
    · cases hup
  | other unconcerned => exact .inr due

/-! ## Counting -/

def isRequest (repo : String) : UpdateMove → Bool
  | .request name => name == repo
  | _ => false

def isTick (w : Nat) : UpdateMove → Bool
  | .tick v => v == w
  | _ => false

def isBegin (w : Nat) : UpdateMove → Bool
  | .begin v => v == w
  | _ => false

def fresh (repo : String) (u : Updates) (move : UpdateMove) : Option Unit :=
  if isRequest repo move && !u.requested.contains repo then some () else none

/-- How many synchronizations are still due without any further request or poll interval. -/
def View.debt (v : View) : Nat := v.pending.toNat + v.phase.isUp.toNat

theorem isBegin_eq_false (unconcerned : concerns w repo move = false) : isBegin w move = false := by
  cases move with
  | begin v => exact unconcerned
  | _ => rfl

theorem Turn.debt_le (turn : Turn c u w repo move v v') (pending : v.pending = u.requested.contains repo) :
    v'.debt + [move].countP (isBegin w) ≤
      v.debt + [move].countP (isTick w) + (fresh repo u move).toList.length := by
  simp only [List.countP_singleton]
  cases turn with
  | call listening => simp [View.debt, WorkerPhase.isUp, isBegin, isTick, fresh, isRequest, ← pending]
  | @remember phase remembered revisions awake =>
    have hremembered : u.requested.contains repo = remembered := pending.symm
    cases remembered <;> simp [View.debt, isBegin, isTick, fresh, isRequest, hremembered]
    omega
  | tick waits => rcases waits with rfl | rfl <;> simp [View.debt, WorkerPhase.isUp, isBegin, isTick]
  | @pass remembered revisions =>
    have hremembered := remembered.toNat_le
    simp only [View.debt, WorkerPhase.isUp, isBegin, isTick, Bool.toNat_true, beq_self_eq_true, if_true,
      Bool.false_eq_true, if_false]
    omega
  | other unconcerned =>
    rw [isBegin_eq_false unconcerned]
    simp only [Bool.false_eq_true, if_false]
    omega
  | _ => simp [View.debt, WorkerPhase.isUp, isBegin, isTick]

theorem debt_le_of_run (distinct : served.Nodup)
    (run : runMoves (step c) (start c present served registry) moves = some u)
    (found : u.workers[w]? = some ⟨repo, phase⟩) :
    (u.view repo phase).debt + moves.countP (isBegin w) ≤ moves.countP (isTick w) +
      (observed (step c) (fresh repo) (start c present served registry) moves).length := by
  refine runMoves_induction
    (motive := fun past t => ∀ phase, t.workers[w]? = some ⟨repo, phase⟩ →
      (t.view repo phase).debt + past.countP (isBegin w) ≤ past.countP (isTick w) +
        (observed (step c) (fresh repo) (start c present served registry) past).length) ?_ ?_ run phase found
  · intro phase found
    obtain rfl := phase_of_mem_workersFor (List.mem_of_getElem? found)
    exact Nat.le_refl 0
  · intro past t move t' hpast ih hmove phase' found
    obtain ⟨phase, hbefore, turn⟩ := (attentive_of_run distinct hpast).turn_of_found hmove found
    have hpaid := turn.debt_le rfl
    have hpast' := ih phase hbefore
    rw [observed_concat hpast, List.length_append, List.countP_append, List.countP_append]
    omega

theorem length_fresh_le {start : Updates} :
    (observed (step c) (fresh repo) start moves).length ≤ moves.countP (isRequest repo) := by
  refine length_observed_le fun t move h => ?_
  unfold fresh at h
  split at h
  · rename_i hrequest
    exact (Bool.and_eq_true_iff.1 hrequest).1
  · cases h

/-! ## What is handed to searchers -/

def begun (w : Nat) (u : Updates) (move : UpdateMove) : Option Nat :=
  if isBegin w move then some u.machine.calls.length else none

end Updates

namespace Machine

variable {m m' : Machine} {move : Move} {i : Nat} {phase old new : Phase}

def revision? (m : Machine) (i : Nat) : Option String :=
  match m.phase? i with
  | some (.finished (.ok revision)) => some revision
  | _ => none

/-- The call is still that of its repository, and has not moved if it was finished. -/
def Keeps (m : Machine) (i : Nat) (repo : String) (phase : Phase) : Prop :=
  ∃ phase', m.calls[i]? = some ⟨repo, phase'⟩ ∧ ∀ result, phase = .finished result → phase' = .finished result

theorem keeps_setPhase (found : m.calls[i]? = some ⟨repo, phase⟩) (moved : m.calls[j]? = some ⟨other, old⟩)
    (unfinished : ∀ result, old ≠ .finished result) : (m.setPhase j new).Keeps i repo phase := by
  by_cases h : i = j
  · subst h
    cases found.symm.trans moved
    exact ⟨new, (found_setPhase found).2 (by simp), fun result h => absurd h (unfinished result)⟩
  · exact ⟨phase, (found_setPhase moved).2 (by simp [h, found]), fun _ h => h⟩

theorem keeps_step (h : m.step move = some m') (found : m.calls[i]? = some ⟨repo, phase⟩) :
    m'.Keeps i repo phase := by
  cases step_iff.1 h with
  | arrive name => exact ⟨phase, found_arrive.2 (.inl found), fun _ h => h⟩
  | lock moved free => exact keeps_setPhase found moved nofun
  | permit moved free => exact keeps_setPhase found moved nofun
  | look moved => exact keeps_setPhase found moved nofun
  | operate moved => exact keeps_setPhase found moved nofun
  | finish result there moved => exact keeps_setPhase found moved nofun
  | giveBack moved => exact keeps_setPhase found moved nofun
  | unlock moved => exact keeps_setPhase found moved nofun

end Machine

namespace Updates

variable {v v' : View}

theorem keeps_step {phase : Phase} (h : u.step c move = some u')
    (found : u.machine.calls[i]? = some ⟨repo, phase⟩) : u'.machine.Keeps i repo phase := by
  rcases (step_spec h).2 with hsame | ⟨m, hm, -⟩
  · exact ⟨phase, hsame ▸ found, fun _ h => h⟩
  · exact Machine.keeps_step hm found

/-- What a turn does to the call that the worker waits for. -/
theorem Turn.calls (turn : Turn c u w repo move v v') :
    begun w u move = none ∧ v'.phase.call? = v.phase.call? ∧ v'.revisions = v.revisions ∨
      move = .begin w ∧ v.phase.call? = none ∧ v'.phase.call? = some u.machine.calls.length ∧
        v'.revisions = v.revisions ∨
      begun w u move = none ∧ ∃ i result, v.phase.call? = some i ∧ v'.phase.call? = none ∧
        u.machine.phase? i = some (.finished result) ∧
        v'.revisions = result.toOption.toList ++ v.revisions := by
  cases turn with
  | begin => exact .inr (.inl ⟨rfl, rfl, rfl, rfl⟩)
  | settle finished => exact .inr (.inr ⟨rfl, _, _, rfl, rfl, finished, rfl⟩)
  | tick waits => rcases waits with rfl | rfl <;> exact .inl ⟨rfl, rfl, rfl⟩
  | other unconcerned => exact .inl ⟨by simp [begun, isBegin_eq_false unconcerned], rfl, rfl⟩
  | _ => exact .inl ⟨rfl, rfl, rfl⟩

/-- The calls that a worker has begun, in order: those that have ended and been settled, whose revisions its
searcher was handed, and the one under way. -/
structure Settles (u : Updates) (repo : String) (phase : WorkerPhase) (calls settled : List Nat) : Prop where
  calls_eq : calls = settled ++ phase.call?.toList
  own : ∀ i ∈ calls, ∃ phase, u.machine.calls[i]? = some ⟨repo, phase⟩
  finished : ∀ i ∈ settled, ∃ result, u.machine.calls[i]? = some ⟨repo, .finished result⟩
  revisions : (u.revisions repo).reverse = settled.filterMap u.machine.revision?

theorem Settles.keep {calls settled : List Nat} (settles : u.Settles repo phase calls settled)
    (h : u.step c move = some u') :
    (∀ i ∈ calls, ∃ phase, u'.machine.calls[i]? = some ⟨repo, phase⟩) ∧
      (∀ i ∈ settled, ∃ result, u'.machine.calls[i]? = some ⟨repo, .finished result⟩) ∧
      settled.filterMap u'.machine.revision? = settled.filterMap u.machine.revision? := by
  refine ⟨fun i hi => ?_, fun i hi => ?_, List.filterMap_congr fun i hi => ?_⟩
  · obtain ⟨phase, hfound⟩ := settles.own i hi
    obtain ⟨phase', hfound', -⟩ := keeps_step h hfound
    exact ⟨phase', hfound'⟩
  · obtain ⟨result, hfound⟩ := settles.finished i hi
    obtain ⟨phase', hfound', hkept⟩ := keeps_step h hfound
    exact ⟨result, hkept result rfl ▸ hfound'⟩
  · obtain ⟨result, hfound⟩ := settles.finished i hi
    obtain ⟨phase', hfound', hkept⟩ := keeps_step h hfound
    rw [hkept result rfl] at hfound'
    simp [Machine.revision?, Machine.phase?, hfound, hfound']

theorem calls_of_begin (h : u.step c (.begin w) = some u') (found : u.workers[w]? = some ⟨repo, phase⟩) :
    u'.machine.calls = u.machine.calls ++ [⟨repo, .queued⟩] := by
  cases step_iff.1 h with
  | begin moved =>
    cases found.symm.trans moved
    rfl

/-- A move adds the call that it begins, or settles the one under way. -/
theorem Settles.turn {calls settled : List Nat} (settles : u.Settles repo phase calls settled)
    (h : u.step c move = some u') (found : u.workers[w]? = some ⟨repo, phase⟩)
    (turn : Turn c u w repo move (u.view repo phase) (u'.view repo phase')) :
    ∃ settled', u'.Settles repo phase' (calls ++ (begun w u move).toList) settled' := by
  obtain ⟨hown, hfinished, hrevisions⟩ := settles.keep h
  rcases turn.calls with ⟨hbegun, hcall, hsame⟩ | ⟨rfl, hcall, hcall', hsame⟩ |
    ⟨hbegun, i, result, hcall, hcall', hended, hhanded⟩
  · -- no call of the worker begins or ends
    have hcall : phase'.call? = phase.call? := hcall
    refine ⟨settled, ?_, by simpa [hbegun] using hown, hfinished, ?_⟩
    · rw [hbegun, Option.toList_none, List.append_nil, settles.calls_eq, hcall]
    · rw [hrevisions, ← settles.revisions]
      exact congrArg List.reverse hsame
  · -- the worker begins a call
    have hcall : phase.call? = none := hcall
    have hcall' : phase'.call? = some u.machine.calls.length := hcall'
    have hbegun : begun w u (.begin w) = some u.machine.calls.length := by simp [begun, isBegin]
    refine ⟨settled, ?_, ?_, hfinished, ?_⟩
    · rw [hbegun, settles.calls_eq, hcall, hcall', Option.toList_none, List.append_nil]
    · intro i hi
      rw [hbegun] at hi
      rcases List.mem_append.1 hi with hold | hnew
      · exact hown i hold
      · rw [List.mem_singleton.1 hnew, calls_of_begin h found]
        exact ⟨_, List.getElem?_concat_length⟩
    · rw [hrevisions, ← settles.revisions]
      exact congrArg List.reverse hsame
  · -- the call under way has ended, and its revision is handed on if it has one
    have hcall : phase.call? = some i := hcall
    have hcall' : phase'.call? = none := hcall'
    have hcalls : calls = settled ++ [i] := by
      rw [settles.calls_eq, hcall]
      rfl
    obtain ⟨phase₀, hfound⟩ := settles.own i (by simp [hcalls])
    obtain rfl : phase₀ = .finished result := by simpa [Machine.phase?, hfound] using hended
    obtain ⟨phase₁, hafter, hkept⟩ := keeps_step h hfound
    obtain rfl := hkept result rfl
    refine ⟨settled ++ [i], ?_, by simpa [hbegun] using hown, ?_, ?_⟩
    · rw [hbegun, hcalls, hcall', Option.toList_none]
    · intro j hj
      rcases List.mem_append.1 hj with hold | hnew
      · exact hfinished j hold
      · exact ⟨result, List.mem_singleton.1 hnew ▸ hafter⟩
    · have hhanded : u'.revisions repo = result.toOption.toList ++ u.revisions repo := hhanded
      have hrevision : u'.machine.revision? i = result.toOption := by
        cases result <;> simp [Machine.revision?, Machine.phase?, hafter, Except.toOption]
      rw [hhanded, List.reverse_append, settles.revisions, List.filterMap_append, hrevisions]
      cases hresult : result.toOption <;> simp [hrevision, hresult]

theorem settles_of_run (distinct : served.Nodup)
    (run : runMoves (step c) (start c present served registry) moves = some u)
    (found : u.workers[w]? = some ⟨repo, phase⟩) :
    ∃ settled,
      u.Settles repo phase (observed (step c) (begun w) (start c present served registry) moves) settled := by
  refine runMoves_induction
    (motive := fun past t => ∀ phase, t.workers[w]? = some ⟨repo, phase⟩ →
      ∃ settled, t.Settles repo phase (observed (step c) (begun w) (start c present served registry) past) settled)
    ?_ ?_ run phase found
  · intro phase found
    obtain rfl := phase_of_mem_workersFor (List.mem_of_getElem? found)
    exact ⟨[], rfl, nofun, nofun, rfl⟩
  · intro past t move t' hpast ih hmove phase' found
    obtain ⟨phase, hbefore, turn⟩ := (attentive_of_run distinct hpast).turn_of_found hmove found
    obtain ⟨settled, settles⟩ := ih phase hbefore
    rw [observed_concat hpast]
    exact settles.turn hmove hbefore turn

/-- After a request of its repository the worker begins to synchronize, or something is due. -/
theorem begins_or_due (distinct : served.Nodup) {before after : List UpdateMove}
    (run : runMoves (step c) (start c present served registry) (before ++ .request repo :: after) = some u)
    (found : u.workers[w]? = some ⟨repo, phase⟩) :
    .begin w ∈ after ∨ (u.view repo phase).Due := by
  obtain ⟨t, hbefore, hrest⟩ := Option.bind_eq_some_iff.1 (runMoves_append ▸ run)
  obtain ⟨t', hrequest, hafter⟩ := Option.bind_eq_some_iff.1 hrest
  have hattentive := attentive_of_run distinct hbefore
  refine runMoves_induction
    (motive := fun past v => ∀ phase, v.workers[w]? = some ⟨repo, phase⟩ →
      .begin w ∈ past ∨ (v.view repo phase).Due) ?_ ?_ hafter phase found
  · intro phase found
    obtain ⟨phase₀, -, turn⟩ := hattentive.turn_of_found hrequest found
    exact .inr turn.due_of_request
  · intro past v move v' hpast ih hmove phase found
    have hreached : runMoves (step c) (start c present served registry) (before ++ .request repo :: past) = some v :=
      runMoves_trans hbefore (by rw [runMoves_cons, hrequest]; exact hpast)
    obtain ⟨phase₀, hfound, turn⟩ := (attentive_of_run distinct hreached).turn_of_found hmove found
    rcases ih phase₀ hfound with hbegun | hdue
    · exact .inl (List.mem_append_left _ hbegun)
    · rcases turn.due hdue with rfl | hdue
      · exact .inl (by simp)
      · exact .inr hdue

theorem insert_eq_of_contains {m : NameMap Unit} (h : m.contains repo = true) : m.insert repo () = m := by
  refine NameMap.ext_get? fun name => ?_
  rw [NameMap.get?_insert]
  split
  · rename_i hname
    obtain ⟨value, hvalue⟩ := NameMap.contains_iff.1 h
    rw [hname, hvalue]
  · rfl

/-- A request that finds one remembered changes nothing. -/
theorem Attentive.folded (attentive : u.Attentive c) (found : u.workers[w]? = some ⟨repo, phase⟩)
    (pending : u.requested.contains repo = true) : u.step c (.request repo) = some u := by
  refine step_iff.2 ?_
  have hnotify : u.notify repo = u := by
    rcases notify_cases attentive.distinct found with ⟨rfl, -⟩ | ⟨-, hnotify⟩
    · rw [attentive.unasked w repo found] at pending
      cases pending
    · rw [hnotify, insert_eq_of_contains pending]
  have hrequest := Step.request (u := u) (attentive.listening repo pending)
  rwa [hnotify] at hrequest

/-! ## At which revision is searched -/

/-- A move leaves the searchers as they are, or hands a revision to one of them. -/
theorem registry_step (h : u.step c move = some u') :
    u'.registry = u.registry ∧ u'.refreshed = u.refreshed ∨
      ∃ name revision, u'.registry = u.registry.refresh name revision ∧
        u'.refreshed = (name, revision) :: u.refreshed := by
  cases step_iff.1 h with
  | request _ => exact .inl ⟨registry_notify u _, refreshed_notify u _⟩
  | pass _ _ => exact .inl ⟨registry_notify _ _, refreshed_notify _ _⟩
  | refresh _ _ => exact .inr ⟨_, _, rfl, rfl⟩
  | _ => exact .inl ⟨rfl, rfl⟩

theorem revisions_cons {name revision : String} (handed : u'.refreshed = (name, revision) :: u.refreshed) :
    u'.revisions other = if name = other then revision :: u.revisions other else u.revisions other := by
  rw [revisions, handed]
  by_cases h : name = other <;> simp [revisions, h]

/-- A searcher searches at the revision that it was handed last, or else at the one that it began with. -/
theorem searches_of_run (run : runMoves (step c) (start c present served registry) moves = some u)
    (name : String) : u.registry.get? name = (registry.get? name).map fun r =>
      { r with searcher := { r.searcher with
          revision := (u.revisions name).head?.getD r.searcher.revision } } := by
  refine runMoves_keeps (motive := fun v => ∀ name, v.registry.get? name = (registry.get? name).map fun r =>
    { r with searcher := { r.searcher with
        revision := (v.revisions name).head?.getD r.searcher.revision } }) ?_ ?_ run name
  · intro name
    exact Option.map_id'.symm
  · intro v move v' ih h name
    rcases registry_step h with ⟨hregistry, hrefreshed⟩ | ⟨handed, revision, hregistry, hrefreshed⟩
    · rw [hregistry, ih, revisions, revisions, hrefreshed]
    · rw [hregistry, Registry.refresh, NameMap.get?_map, ih, Option.map_map, revisions_cons hrefreshed]
      congr 1
      funext r
      by_cases hname : handed = name
      · simp [hname, WorkingCopy.refresh]
      · simp [hname, Ne.symm hname]

/-! ## The services that are updated -/

/-- What holds at the end of a run of the worker number `w`, which is that of `repo`. -/
structure Attends (c : Coordinator D) (s : Updates) (moves : List UpdateMove) (u : Updates) (w : Nat)
    (repo : String) : Prop where
  /-- It can be woken. -/
  wakes : (pollInterval c repo).isSome = true ∨ listens c repo = true
  alone : ∀ (j : Nat) (phase : WorkerPhase), u.workers[j]? = some ⟨repo, phase⟩ → j = w
  /-- No request is lost. -/
  begun_after : ∀ before after, moves = before ++ .request repo :: after →
    .begin w ∈ after ∨ u.requested.contains repo = true ∨
      u.workers[w]? = some ⟨repo, .called⟩ ∨ u.workers[w]? = some ⟨repo, .woken⟩
  not_asleep : u.requested.contains repo = true → u.workers[w]? ≠ some ⟨repo, .asleep⟩
  /-- Requests coalesce. -/
  folded : u.requested.contains repo = true → u.step c (.request repo) = some u
  /-- What a worker begins is owed to a poll interval or to a request that found none remembered. -/
  begins_le : moves.countP (isBegin w) ≤
    moves.countP (isTick w) + (observed (step c) (fresh repo) s moves).length
  fresh_le : (observed (step c) (fresh repo) s moves).length ≤ moves.countP (isRequest repo)
  /-- Its searcher is handed the revisions of the calls that ended well, in order. -/
  settles : ∃ phase settled, u.workers[w]? = some ⟨repo, phase⟩ ∧
    u.Settles repo phase (observed (step c) (begun w) s moves) settled

theorem repos_of_run (run : runMoves (step c) (start c present served registry) moves = some u) :
    u.workers.map (·.repo) = (workersFor c served).map (·.repo) :=
  runMoves_keeps (motive := fun v => v.workers.map (·.repo) = (workersFor c served).map (·.repo)) rfl
    (fun _ _ _ hrepos h => (step_spec h).1.trans hrepos) run

/-- A worker is there for the repositories that are served and can be updated in some way. -/
theorem mem_repos_workersFor : repo ∈ (workersFor c served).map (·.repo) ↔
    repo ∈ served ∧ ((pollInterval c repo).isSome = true ∨ listens c repo = true) := by
  rw [repos_workersFor, List.mem_filter, pollInterval, listens]
  cases c.targets.get? repo <;> simp

theorem attends_of_found (distinct : served.Nodup)
    (run : runMoves (step c) (start c present served registry) moves = some u)
    (found : u.workers[w]? = some ⟨repo, phase⟩) : Attends c (start c present served registry) moves u w repo := by
  have attentive := attentive_of_run distinct run
  have hrepo : repo ∈ (workersFor c served).map (·.repo) :=
    repos_of_run run ▸ List.mem_map.2 ⟨_, List.mem_of_getElem? found, rfl⟩
  refine ⟨(mem_repos_workersFor.1 hrepo).2, ?_, ?_, ?_, attentive.folded found, ?_, length_fresh_le, ?_⟩
  · exact fun j phase' hj => eq_of_repo_eq attentive.distinct hj found
  · rintro before after rfl
    rcases begins_or_due distinct run found with hbegun | hpending | hup
    · exact .inl hbegun
    · exact .inr (.inl hpending)
    · have hphase : phase = .called ∨ phase = .woken := by
        cases phase with
        | called => exact .inl rfl
        | woken => exact .inr rfl
        | _ => cases hup
      rcases hphase with rfl | rfl
      · exact .inr (.inr (.inl found))
      · exact .inr (.inr (.inr found))
  · intro hpending hasleep
    rw [attentive.unasked w repo hasleep] at hpending
    cases hpending
  · exact Nat.le_trans (Nat.le_add_left _ _) (debt_le_of_run distinct run found)
  · obtain ⟨settled, settles⟩ := settles_of_run distinct run found
    exact ⟨phase, settled, found, settles⟩

end Updates

end CodeSearch.Sync

namespace CodeSearch

open Sync

namespace Services

theorem listens_of_requestUpdate {s : Services WorkingCopy} {st st' : ApiState} {repo : String}
    (accepted : Api.requestUpdate s st repo = .ok st') :
    repo ∈ s.registry.keys ∧ Updates.listens s.coordinator repo = true := by
  unfold Api.requestUpdate at accepted
  split at accepted
  · cases accepted
  · rename_i hserved
    split at accepted <;> try contradiction
    rename_i haccepts
    refine ⟨NameMap.mem_keys.2 (by simpa using hserved), ?_⟩
    unfold Coordinator.accepts Coordinator.find at haccepts
    cases htarget : s.coordinator.targets.get? repo with
    | none => simp [htarget, Except.map] at haccepts
    | some target =>
      simp only [htarget, Except.map, Except.ok.injEq] at haccepts
      simp [Updates.listens, htarget, haccepts]

/-- The workers of some services attend to every request that is accepted, and the searchers search at what
the workers have synchronized last. -/
theorem attends_of_run (s : Services WorkingCopy) (present : NameMap Unit) (moves : List UpdateMove)
    (u : Updates)
    (run : runMoves (Updates.step s.coordinator)
      (Updates.start s.coordinator present s.registry.keys s.registry) moves = some u) :
    (∀ (w : Nat) (worker : Worker), u.workers[w]? = some worker →
      Updates.Attends s.coordinator (Updates.start s.coordinator present s.registry.keys s.registry) moves u w
        worker.repo) ∧
    (∀ (st st' : ApiState) (repo : String), Api.requestUpdate s st repo = .ok st' →
      Updates.listens s.coordinator repo = true ∧
        (∃ (w : Nat) (phase : WorkerPhase), u.workers[w]? = some ⟨repo, phase⟩) ∧
        ∃ u', u.step s.coordinator (.request repo) = some u') ∧
    ∀ name, u.registry.get? name = (s.registry.get? name).map fun r =>
      { r with searcher := { r.searcher with
          revision := (u.revisions name).head?.getD r.searcher.revision } } := by
  refine ⟨?_, ?_, Updates.searches_of_run run⟩
  · intro w worker found
    exact Updates.attends_of_found (NameMap.keys_nodup _) run found
  · intro st st' repo accepted
    obtain ⟨hserved, hlistens⟩ := listens_of_requestUpdate accepted
    refine ⟨hlistens, ?_, _, Updates.step_iff.2 (.request hlistens)⟩
    have hrepo : repo ∈ u.workers.map (·.repo) := by
      rw [Updates.repos_of_run run]
      exact Updates.mem_repos_workersFor.2 ⟨hserved, .inr hlistens⟩
    obtain ⟨⟨_, phase⟩, hworker, rfl⟩ := List.mem_map.1 hrepo
    obtain ⟨w, hw⟩ := List.mem_iff_getElem?.1 hworker
    exact ⟨w, phase, hw⟩

def pushed : RepoConfig := { RepoConfig.ofUrl "https://example.org/a" with enablePushUpdates := some true }

def onePushed : Services WorkingCopy :=
  let config := { Config.default with repos := .ofList [("a", pushed)] }
  ⟨config, .ofList [("a", ⟨pushed, ⟨"/db/a", [], false, 1000, "r0"⟩⟩)], .ofConfig config, none⟩

/-- Two requests lead to one synchronization, and one that comes while it is under way to the next. -/
def threeRequests : List UpdateMove :=
  [.request "a", .request "a", .notice 0, .begin 0, .sync (.lock 0), .request "a", .sync (.permit 0),
    .sync (.look 0), .sync (.operate 0), .sync (.finish 0 (.ok "r1") true), .sync (.giveBack 0),
    .sync (.unlock 0), .settle 0, .notice 0, .begin 0]

theorem attends_of_threeRequests :
    ∃ u, runMoves (Updates.step onePushed.coordinator)
        (Updates.start onePushed.coordinator ∅ onePushed.registry.keys onePushed.registry) threeRequests =
          some u ∧
      Updates.Attends onePushed.coordinator
        (Updates.start onePushed.coordinator ∅ onePushed.registry.keys onePushed.registry) threeRequests u 0
        "a" ∧
      (u.registry.get? "a").map (·.searcher.revision) = some "r1" := by
  obtain ⟨u, run, found, handed⟩ : ∃ u, runMoves (Updates.step onePushed.coordinator)
      (Updates.start onePushed.coordinator ∅ onePushed.registry.keys onePushed.registry) threeRequests =
        some u ∧ u.workers[0]? = some ⟨"a", .syncing 1⟩ ∧ u.revisions "a" = ["r1"] := ⟨_, rfl, rfl, rfl⟩
  obtain ⟨attends, -, searches⟩ := attends_of_run onePushed ∅ threeRequests u run
  refine ⟨u, run, attends 0 _ found, ?_⟩
  rw [searches, handed]
  rfl

end Services

end CodeSearch
