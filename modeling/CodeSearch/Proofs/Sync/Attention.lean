import CodeSearch.Proofs.Sync.Safety

/-!
# What a worker sees

Each repository has one worker, and of all moves the worker sees its own and the requests of its repository.
To it every move is one of a few turns, of which each changes its phase and whether a request is remembered.
A worker that sleeps has nothing to do.
-/

namespace CodeSearch.Sync

variable {D : Type} {c : Coordinator D} {present : NameMap Unit} {served : List String}
  {registry : Registry WorkingCopy} {u u' : Updates} {move : UpdateMove} {moves : List UpdateMove} {w j : Nat}
  {repo other : String} {phase phase' : WorkerPhase}

namespace Updates

/-! ## One worker for each repository -/

theorem eq_of_repo_eq (distinct : (u.workers.map (·.repo)).Nodup) (hw : u.workers[w]? = some ⟨repo, phase⟩)
    (hj : u.workers[j]? = some ⟨repo, phase'⟩) : w = j := by
  have hlt : w < (u.workers.map (·.repo)).length := by
    rw [List.length_map]
    exact (List.getElem?_eq_some_iff.1 hw).1
  refine (List.getElem?_inj hlt distinct).1 ?_
  rw [List.getElem?_map, List.getElem?_map, hw, hj]
  rfl

/-- A request calls the worker of the repository if it sleeps, and is remembered otherwise. -/
theorem notify_cases (distinct : (u.workers.map (·.repo)).Nodup)
    (found : u.workers[w]? = some ⟨repo, phase⟩) :
    phase = .asleep ∧ u.notify repo = u.setPhase w .called ∨
      phase ≠ .asleep ∧ u.notify repo = { u with requested := u.requested.insert repo () } := by
  unfold notify
  cases hsleeper : u.sleeper? repo with
  | some j =>
    obtain ⟨hlt, hasleep, -⟩ := List.findIdx?_eq_some_iff_getElem.1 hsleeper
    obtain ⟨hrepo, hphase⟩ : u.workers[j].repo = repo ∧ u.workers[j].phase = .asleep := by
      simpa using hasleep
    have hj : u.workers[j]? = some ⟨repo, .asleep⟩ := by
      rw [List.getElem?_eq_getElem hlt, ← hrepo, ← hphase]
    obtain rfl := eq_of_repo_eq distinct found hj
    cases found.symm.trans hj
    exact .inl ⟨rfl, rfl⟩
  | none =>
    refine .inr ⟨?_, rfl⟩
    rintro rfl
    have hawake := List.findIdx?_eq_none_iff.1 hsleeper _ (List.mem_of_getElem? found)
    simp at hawake

/-- What holds of the workers at all times: a worker that sleeps has nothing to do. -/
structure Attentive (c : Coordinator D) (u : Updates) : Prop where
  distinct : (u.workers.map (·.repo)).Nodup
  listening : ∀ repo, u.requested.contains repo = true → listens c repo = true
  called : ∀ (w : Nat) (repo : String), u.workers[w]? = some ⟨repo, .called⟩ → listens c repo = true
  unasked : ∀ (w : Nat) (repo : String), u.workers[w]? = some ⟨repo, .asleep⟩ →
    u.requested.contains repo = false

theorem Attentive.pending_eq_finds (attentive : u.Attentive c) (repo : String) :
    u.requested.contains repo = u.finds c repo := by
  cases hpending : u.requested.contains repo with
  | false => simp [finds, hpending]
  | true => simp [finds, hpending, attentive.listening repo hpending]

def revisions (u : Updates) (repo : String) : List String :=
  (u.refreshed.filter (·.1 == repo)).map (·.2)

/-- What matters to one worker: its phase, whether a request is remembered for it, and what was handed to
its searcher. -/
structure View where
  phase : WorkerPhase
  pending : Bool
  revisions : List String

def view (u : Updates) (repo : String) (phase : WorkerPhase) : View :=
  ⟨phase, u.requested.contains repo, u.revisions repo⟩

def concerns (w : Nat) (repo : String) : UpdateMove → Bool
  | .request name => name == repo
  | .sleep v | .tick v | .notice v | .heed v | .begin v | .settle v => v == w
  | .sync _ => false

/-- The moves as one worker sees them. -/
inductive Turn (c : Coordinator D) (u : Updates) (w : Nat) (repo : String) : UpdateMove → View → View → Prop
  | call {revisions : List String} (listening : listens c repo = true) :
      Turn c u w repo (.request repo) ⟨.asleep, false, revisions⟩ ⟨.called, false, revisions⟩
  | remember {phase : WorkerPhase} {pending : Bool} {revisions : List String} (awake : phase ≠ .asleep) :
      Turn c u w repo (.request repo) ⟨phase, pending, revisions⟩ ⟨phase, true, revisions⟩
  | sleep {revisions : List String} :
      Turn c u w repo (.sleep w) ⟨.resting, false, revisions⟩ ⟨.asleep, false, revisions⟩
  | tick {phase : WorkerPhase} {pending : Bool} {revisions : List String}
      (waits : phase = .resting ∨ phase = .asleep) :
      Turn c u w repo (.tick w) ⟨phase, pending, revisions⟩ ⟨.woken, pending, revisions⟩
  | pass {pending : Bool} {revisions : List String} :
      Turn c u w repo (.tick w) ⟨.called, pending, revisions⟩ ⟨.woken, true, revisions⟩
  | notice {revisions : List String} :
      Turn c u w repo (.notice w) ⟨.resting, true, revisions⟩ ⟨.woken, false, revisions⟩
  | heed {pending : Bool} {revisions : List String} :
      Turn c u w repo (.heed w) ⟨.called, pending, revisions⟩ ⟨.woken, pending, revisions⟩
  | begin {pending : Bool} {revisions : List String} :
      Turn c u w repo (.begin w) ⟨.woken, pending, revisions⟩
        ⟨.syncing u.machine.calls.length, pending, revisions⟩
  | settle {i : Nat} {result : Except Failure String} {pending : Bool} {revisions : List String}
      (finished : u.machine.phase? i = some (.finished result)) :
      Turn c u w repo (.settle w) ⟨.syncing i, pending, revisions⟩
        ⟨.resting, pending, result.toOption.toList ++ revisions⟩
  | other {move : UpdateMove} {view : View} (unconcerned : concerns w repo move = false) :
      Turn c u w repo move view view

theorem setPhase_self (found : u.workers[w]? = some ⟨repo, phase⟩) :
    (u.setPhase w phase').workers[w]? = some ⟨repo, phase'⟩ :=
  (found_setPhase found).2 (by simp)

theorem setPhase_of_ne (ne : j ≠ w) : (u.setPhase j phase).workers[w]? = u.workers[w]? := by
  rw [getElem?_setPhase, if_neg ne]

theorem repo_ne_of_ne (distinct : (u.workers.map (·.repo)).Nodup)
    (found : u.workers[w]? = some ⟨repo, phase⟩) (moved : u.workers[j]? = some ⟨other, phase'⟩)
    (ne : j ≠ w) : other ≠ repo := by
  rintro rfl
  exact ne (eq_of_repo_eq distinct moved found)

theorem notify_of_ne (found : u.workers[w]? = some ⟨repo, phase⟩) (ne : other ≠ repo) :
    (u.notify other).workers[w]? = some ⟨repo, phase⟩ ∧
      (u.notify other).view repo phase = u.view repo phase := by
  unfold notify
  cases hsleeper : u.sleeper? other with
  | none => exact ⟨found, by simp [view, revisions, ne.symm]⟩
  | some j =>
    obtain ⟨hlt, hasleep, -⟩ := List.findIdx?_eq_some_iff_getElem.1 hsleeper
    have hother : u.workers[j].repo = other := by
      simp only [Bool.and_eq_true, beq_iff_eq] at hasleep
      exact hasleep.1
    have hne : j ≠ w := by
      rintro rfl
      rw [List.getElem?_eq_getElem hlt, Option.some_inj] at found
      rw [found] at hother
      exact ne hother.symm
    exact ⟨(setPhase_of_ne hne).trans found, rfl⟩

/-- A move that does not concern a worker leaves it as it is. -/
theorem Attentive.frame (attentive : u.Attentive c) (h : u.step c move = some u')
    (found : u.workers[w]? = some ⟨repo, phase⟩) (unconcerned : concerns w repo move = false) :
    u'.workers[w]? = some ⟨repo, phase⟩ ∧ u'.view repo phase = u.view repo phase := by
  cases step_iff.1 h with
  | request listening => exact notify_of_ne found (by simpa [concerns] using unconcerned)
  | sync admitted moved => exact ⟨found, rfl⟩
  | @pass v name moved polls =>
    have hne : v ≠ w := by simpa [concerns] using unconcerned
    exact notify_of_ne ((setPhase_of_ne hne).trans found) (repo_ne_of_ne attentive.distinct found moved hne)
  | @notice v name moved asked =>
    have hne : v ≠ w := by simpa [concerns] using unconcerned
    have hname := repo_ne_of_ne attentive.distinct found moved hne
    exact ⟨(setPhase_of_ne hne).trans found, by simp [view, revisions, setPhase, hname.symm]⟩
  | @refresh v name i revision moved finished =>
    have hne : v ≠ w := by simpa [concerns] using unconcerned
    have hname := repo_ne_of_ne attentive.distinct found moved hne
    exact ⟨(setPhase_of_ne hne).trans found, by simp [view, revisions, setPhase, hname]⟩
  | _ =>
    refine ⟨(setPhase_of_ne ?_).trans found, rfl⟩
    simpa [concerns] using unconcerned

theorem Attentive.turn_request (attentive : u.Attentive c) (found : u.workers[w]? = some ⟨repo, phase⟩)
    (listening : listens c repo = true) :
    ∃ phase', (u.notify repo).workers[w]? = some ⟨repo, phase'⟩ ∧
      Turn c u w repo (.request repo) (u.view repo phase) ((u.notify repo).view repo phase') := by
  rcases notify_cases attentive.distinct found with ⟨rfl, hnotify⟩ | ⟨hawake, hnotify⟩
  · refine ⟨.called, hnotify ▸ setPhase_self found, ?_⟩
    have hpending := attentive.unasked w repo found
    rw [hnotify]
    simp only [view, setPhase, revisions, hpending]
    exact .call listening
  · refine ⟨phase, by rw [hnotify]; exact found, ?_⟩
    rw [hnotify]
    simp only [view, revisions, NameMap.contains_insert, beq_self_eq_true, Bool.true_or]
    exact .remember hawake

/-- A poll interval that has passed when the worker had been called: the call is remembered. -/
theorem Attentive.turn_pass (attentive : u.Attentive c) (found : u.workers[w]? = some ⟨repo, .called⟩) :
    ∃ phase', ((u.setPhase w .woken).notify repo).workers[w]? = some ⟨repo, phase'⟩ ∧
      Turn c u w repo (.tick w) (u.view repo .called) (((u.setPhase w .woken).notify repo).view repo phase') := by
  have hfound : (u.setPhase w .woken).workers[w]? = some ⟨repo, .woken⟩ := setPhase_self found
  have hdistinct : ((u.setPhase w .woken).workers.map (·.repo)).Nodup := by
    rw [repos_setPhase]
    exact attentive.distinct
  obtain ⟨h, -⟩ | ⟨-, hnotify⟩ := notify_cases hdistinct hfound
  · cases h
  · rw [hnotify]
    refine ⟨.woken, hfound, ?_⟩
    simp only [view, revisions, NameMap.contains_insert, beq_self_eq_true, Bool.true_or]
    exact .pass

theorem own_of_concerns (concerned : (j == w) = true) (found : u.workers[w]? = some ⟨repo, phase⟩)
    (moved : u.workers[j]? = some ⟨other, phase'⟩) : w = j ∧ repo = other ∧ phase = phase' := by
  obtain rfl := beq_iff_eq.1 concerned
  cases found.symm.trans moved
  exact ⟨rfl, rfl, rfl⟩

/-- Every move is a turn of each worker. -/
theorem Attentive.turn (attentive : u.Attentive c) (h : u.step c move = some u')
    (found : u.workers[w]? = some ⟨repo, phase⟩) :
    ∃ phase', u'.workers[w]? = some ⟨repo, phase'⟩ ∧
      Turn c u w repo move (u.view repo phase) (u'.view repo phase') := by
  cases hconcerns : concerns w repo move with
  | false =>
    obtain ⟨hfound, hview⟩ := attentive.frame h found hconcerns
    exact ⟨phase, hfound, hview ▸ .other hconcerns⟩
  | true =>
    cases step_iff.1 h with
    | request listening =>
      obtain rfl : _ = repo := by simpa [concerns] using hconcerns
      exact attentive.turn_request found listening
    | sleep moved unasked =>
      obtain ⟨rfl, rfl, rfl⟩ := own_of_concerns hconcerns found moved
      refine ⟨_, setPhase_self found, ?_⟩
      change Turn c u w repo _ _ ⟨.asleep, u.requested.contains repo, u.revisions repo⟩
      rw [view, attentive.pending_eq_finds, unasked]
      exact .sleep
    | tick moved waits polls =>
      obtain ⟨rfl, rfl, rfl⟩ := own_of_concerns hconcerns found moved
      exact ⟨_, setPhase_self found, .tick waits⟩
    | pass moved polls =>
      obtain ⟨rfl, rfl, rfl⟩ := own_of_concerns hconcerns found moved
      exact attentive.turn_pass found
    | notice moved asked =>
      obtain ⟨rfl, rfl, rfl⟩ := own_of_concerns hconcerns found moved
      refine ⟨_, setPhase_self found, ?_⟩
      change Turn c u w repo _ _ ⟨.woken, (u.requested.erase repo).contains repo, u.revisions repo⟩
      rw [view, attentive.pending_eq_finds, asked]
      simp only [NameMap.contains_erase, bne_self_eq_false, Bool.false_and]
      exact .notice
    | heed moved =>
      obtain ⟨rfl, rfl, rfl⟩ := own_of_concerns hconcerns found moved
      exact ⟨_, setPhase_self found, .heed⟩
    | begin moved =>
      obtain ⟨rfl, rfl, rfl⟩ := own_of_concerns hconcerns found moved
      exact ⟨_, setPhase_self found, .begin⟩
    | @refresh _ _ _ revision moved finished =>
      obtain ⟨rfl, rfl, rfl⟩ := own_of_concerns hconcerns found moved
      refine ⟨_, setPhase_self found, ?_⟩
      have hrevisions : revisions { u.setPhase w .resting with
          registry := u.registry.refresh repo revision
          refreshed := (repo, revision) :: u.refreshed } repo = revision :: u.revisions repo := by
        simp [revisions]
      rw [view, view, hrevisions]
      exact .settle finished
    | fail moved finished =>
      obtain ⟨rfl, rfl, rfl⟩ := own_of_concerns hconcerns found moved
      exact ⟨_, setPhase_self found, .settle finished⟩
    | sync admitted moved => cases hconcerns

/-! ## The invariant -/

theorem requested_notify (h : (u.notify other).requested.contains repo = true) :
    repo = other ∨ u.requested.contains repo = true := by
  unfold notify at h
  split at h
  · exact .inr h
  · simpa using h

variable {v v' : View}

theorem Turn.listening (turn : Turn c u w repo move v v')
    (before : v.phase = .called → listens c repo = true) (after : v'.phase = .called) :
    listens c repo = true := by
  cases turn with
  | call listening => exact listening
  | remember awake => exact before after
  | other unconcerned => exact before after
  | _ => cases after

theorem Turn.unasked (turn : Turn c u w repo move v v') (before : v.phase = .asleep → v.pending = false)
    (after : v'.phase = .asleep) : v'.pending = false := by
  cases turn with
  | sleep => rfl
  | remember awake => exact absurd after awake
  | other unconcerned => exact before after
  | _ => cases after

theorem exists_found (h : u.step c move = some u') (found : u'.workers[w]? = some ⟨repo, phase'⟩) :
    ∃ phase, u.workers[w]? = some ⟨repo, phase⟩ := by
  have hrepo : (u.workers.map (·.repo))[w]? = some repo := by
    rw [← (step_spec h).1, List.getElem?_map, found]
    rfl
  rw [List.getElem?_map, Option.map_eq_some_iff] at hrepo
  obtain ⟨worker, hworker, rfl⟩ := hrepo
  exact ⟨worker.phase, hworker⟩

theorem Attentive.turn_of_found (attentive : u.Attentive c) (h : u.step c move = some u')
    (found : u'.workers[w]? = some ⟨repo, phase'⟩) :
    ∃ phase, u.workers[w]? = some ⟨repo, phase⟩ ∧
      Turn c u w repo move (u.view repo phase) (u'.view repo phase') := by
  obtain ⟨phase, hbefore⟩ := exists_found h found
  obtain ⟨phase'', hafter, turn⟩ := attentive.turn h hbefore
  cases found.symm.trans hafter
  exact ⟨phase, hbefore, turn⟩

theorem Attentive.step (attentive : u.Attentive c) (h : u.step c move = some u') : u'.Attentive c := by
  refine ⟨(step_spec h).1 ▸ attentive.distinct, ?_, ?_, ?_⟩
  · intro repo hrequested
    cases step_iff.1 h with
    | request listening =>
      rcases requested_notify hrequested with rfl | hold
      · exact listening
      · exact attentive.listening repo hold
    | pass moved polls =>
      rcases requested_notify hrequested with rfl | hold
      · exact attentive.called _ _ moved
      · exact attentive.listening repo hold
    | notice moved asked =>
      simp only [NameMap.contains_erase, Bool.and_eq_true] at hrequested
      exact attentive.listening repo hrequested.2
    | _ => exact attentive.listening repo hrequested
  · intro w repo hfound
    obtain ⟨phase, hbefore, turn⟩ := attentive.turn_of_found h hfound
    exact turn.listening (fun hphase => attentive.called w repo (hphase ▸ hbefore)) rfl
  · intro w repo hfound
    obtain ⟨phase, hbefore, turn⟩ := attentive.turn_of_found h hfound
    exact turn.unasked (fun hphase => attentive.unasked w repo (hphase ▸ hbefore)) rfl

theorem repos_workersFor : (workersFor c served).map (·.repo) = served.filter fun name =>
    match c.targets.get? name with
    | some target => target.pollInterval.isSome || target.pushEnabled
    | none => false := by
  rw [workersFor, List.map_map]
  exact List.map_id _

theorem phase_of_mem_workersFor {worker : Worker} (h : worker ∈ workersFor c served) :
    worker.phase = .resting := by
  obtain ⟨name, -, rfl⟩ := List.mem_map.1 h
  rfl

theorem attentive_start (c : Coordinator D) (present : NameMap Unit) (distinct : served.Nodup)
    (registry : Registry WorkingCopy) : (start c present served registry).Attentive c where
  distinct := by
    rw [start, repos_workersFor]
    exact distinct.filter _
  listening repo h := by cases h
  called w repo h := by cases phase_of_mem_workersFor (List.mem_of_getElem? h)
  unasked w repo h := by cases phase_of_mem_workersFor (List.mem_of_getElem? h)

theorem attentive_of_run (distinct : served.Nodup)
    (run : runMoves (step c) (start c present served registry) moves = some u) : u.Attentive c :=
  runMoves_keeps (motive := Attentive c) (attentive_start c present distinct registry)
    (fun _ _ _ hattentive h => hattentive.step h) run

end Updates

end CodeSearch.Sync
