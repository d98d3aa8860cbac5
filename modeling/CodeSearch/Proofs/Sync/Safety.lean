import CodeSearch.Proofs.Sync.Workers

/-!
# Safe updates

The calls of a coordinator made from a checked configuration, whoever begins them: the worker of a
repository, or a synchronization that was asked for. At every point of every run they exclude each other as
their locks and permits say, a clone runs only where no working copy was found, and nothing is stuck.
-/

namespace CodeSearch.Sync

variable {D : Type} {c : Coordinator D} {present : NameMap Unit} {served : List String}
  {registry : Registry WorkingCopy} {u u' : Updates} {move : UpdateMove} {moves : List UpdateMove}

namespace Updates

/-! ## What a move does to the calls and to the workers -/

/-- Each worker keeps its repository. The calls stay as they are, or one of them moves, or a worker begins
one. -/
theorem step_spec (h : u.step c move = some u') :
    u'.workers.map (·.repo) = u.workers.map (·.repo) ∧
      (u'.machine = u.machine ∨
        ∃ m, u.machine.step m = some u'.machine ∧
          (move = .sync m ∧ admits c m = true ∨ ∃ worker ∈ u.workers, m = .arrive worker.repo)) := by
  cases step_iff.1 h with
  | request _ => exact ⟨repos_notify u _, .inl (machine_notify u _)⟩
  | pass _ _ => exact ⟨(repos_notify _ _).trans (repos_setPhase u _ _), .inl (machine_notify _ _)⟩
  | begin found =>
    exact ⟨repos_setPhase u _ _, .inr ⟨_, rfl, .inr ⟨_, List.mem_of_getElem? found, rfl⟩⟩⟩
  | sync admitted moved => exact ⟨rfl, .inr ⟨_, moved, .inl ⟨rfl, admitted⟩⟩⟩
  | _ => exact ⟨repos_setPhase u _ _, .inl rfl⟩

/-! ## The invariant -/

/-- The calls are sound, and they and the workers are for known repositories. -/
structure Sound (c : Coordinator D) (u : Updates) : Prop where
  machine : u.machine.Sound c.permits
  calls : ∀ repo ∈ u.machine.calls.map (·.repo), c.contains repo = true
  workers : ∀ repo ∈ u.workers.map (·.repo), c.contains repo = true

theorem contains_of_mem_workersFor {worker : Worker} (h : worker ∈ workersFor c served) :
    c.contains worker.repo = true := by
  obtain ⟨name, hname, rfl⟩ := List.mem_map.1 h
  have hneeds := (List.mem_filter.1 hname).2
  split at hneeds
  · rename_i target htarget
    exact NameMap.contains_iff.2 ⟨target, htarget⟩
  · cases hneeds

theorem sound_start (c : Coordinator D) (present : NameMap Unit) (served : List String)
    (registry : Registry WorkingCopy) : (start c present served registry).Sound c where
  machine := Machine.sound_start c.permits present
  calls := by simp [start, Machine.start]
  workers repo h := by
    obtain ⟨worker, hworker, rfl⟩ := List.mem_map.1 h
    exact contains_of_mem_workersFor hworker

theorem Sound.step (sound : u.Sound c) (h : u.step c move = some u') : u'.Sound c := by
  obtain ⟨hrepos, hmachine⟩ := step_spec h
  have hworkers : ∀ repo ∈ u'.workers.map (·.repo), c.contains repo = true := by
    rw [hrepos]
    exact sound.workers
  rcases hmachine with hsame | ⟨m, hm, horigin⟩
  · exact ⟨hsame ▸ sound.machine, hsame ▸ sound.calls, hworkers⟩
  · refine ⟨sound.machine.step hm, ?_, hworkers⟩
    rcases Machine.repos_step hm with hkept | ⟨repo, rfl, hadded⟩
    · rw [hkept]
      exact sound.calls
    · have hknown : c.contains repo = true := by
        rcases horigin with ⟨-, hadmits⟩ | ⟨worker, hworker, harrive⟩
        · exact hadmits
        · rw [Move.arrive.inj harrive]
          exact sound.workers _ (List.mem_map_of_mem hworker)
      intro other hother
      rw [hadded] at hother
      rcases List.mem_append.1 hother with hold | hnew
      · exact sound.calls other hold
      · rwa [List.mem_singleton.1 hnew]

theorem sound_of_run (run : runMoves (step c) (start c present served registry) moves = some u) : u.Sound c :=
  runMoves_keeps (motive := Sound c) (sound_start c present served registry)
    (fun _ _ _ hsound h => hsound.step h) run

/-! ## What a call has looked at -/

/-- The call looked for a working copy and found none, and has had the lock of its repository since. -/
def SawNothing (c : Coordinator D) (s : Updates) (moves : List UpdateMove) (i : Nat) (repo : String) : Prop :=
  ∃ before later v, moves = before ++ .sync (.look i) :: later ∧ runMoves (step c) s before = some v ∧
    v.machine.present.contains repo = false ∧
    Throughout (step c) v (.sync (.look i) :: later) fun w => w.machine.holders.get? repo = some i

variable {i : Nat} {repo : String} {phase : Phase}

theorem Sound.holder (sound : u.Sound c) (found : u.machine.calls[i]? = some ⟨repo, phase⟩)
    (locked : phase.holdsLock = true) : u.machine.holders.get? repo = some i :=
  (sound.machine.locks repo i).2 ⟨phase, found, locked⟩

theorem sawNothing_step (h : u.step c move = some u')
    (after : u'.machine.calls[i]? = some ⟨repo, phase⟩) (saw : phase.sawNothing = true) :
    (move = .sync (.look i) ∧ u.machine.calls[i]? = some ⟨repo, .permitted⟩ ∧
        u.machine.present.contains repo = false) ∨
      ∃ before, u.machine.calls[i]? = some ⟨repo, before⟩ ∧ before.sawNothing = true := by
  rcases (step_spec h).2 with hsame | ⟨m, hm, horigin⟩
  · exact .inr ⟨phase, hsame ▸ after, saw⟩
  · rcases Machine.sawNothing_step hm after saw with ⟨rfl, hfound, habsent⟩ | hold
    · rcases horigin with ⟨hsync, -⟩ | ⟨_, -, harrive⟩
      · exact .inl ⟨hsync, hfound, habsent⟩
      · cases harrive
    · exact .inr hold

/-- A call that has found nothing looked under the lock that it still has. By induction on the run: its last
move is the look itself, or the call had found nothing before it. -/
theorem sawNothing_of_run (run : runMoves (step c) (start c present served registry) moves = some u)
    (found : u.machine.calls[i]? = some ⟨repo, phase⟩) (saw : phase.sawNothing = true) :
    SawNothing c (start c present served registry) moves i repo := by
  refine runMoves_induction
    (motive := fun past v => ∀ phase, v.machine.calls[i]? = some ⟨repo, phase⟩ → phase.sawNothing = true →
      SawNothing c (start c present served registry) past i repo) ?_ ?_ run phase found saw
  · intro phase found
    cases found
  · intro past v move w hpast ih hmove phase found saw
    have hv := sound_of_run hpast
    have hheld := (hv.step hmove).holder found (Phase.holdsLock_of_sawNothing saw)
    rcases sawNothing_step hmove found saw with ⟨rfl, hlooked, habsent⟩ | ⟨before, hfound, hsaw⟩
    · refine ⟨past, [], v, rfl, hpast, habsent, ?_⟩
      exact throughout_singleton (hv.holder hlooked rfl) hmove hheld
    · obtain ⟨earlier, later, x, rfl, hearlier, habsent, hlater⟩ := ih before hfound hsaw
      have hrest : runMoves (step c) x (.sync (.look i) :: later) = some v := by
        rw [runMoves_append, hearlier] at hpast
        exact hpast
      refine ⟨earlier, later ++ [move], x, by simp, hearlier, habsent, ?_⟩
      exact throughout_concat hlater (runMoves_concat_eq_some.2 ⟨v, hrest, hmove⟩) hheld

/-! ## Safety -/

structure Safe (config : Config) (u : Updates) : Prop where
  /-- At most one operation runs on a repository. -/
  one_per_repo : ∀ (i j : Nat) (repo : String) (op other : Operation),
    u.machine.calls[i]? = some ⟨repo, .operating op⟩ →
    u.machine.calls[j]? = some ⟨repo, .operating other⟩ → i = j
  /-- At most one operation runs in a directory. -/
  one_per_dir : ∀ (i j : Nat) (repo repo' : String) (op other : Operation),
    u.machine.calls[i]? = some ⟨repo, .operating op⟩ →
    u.machine.calls[j]? = some ⟨repo', .operating other⟩ →
    config.workingDir repo = config.workingDir repo' → i = j
  /-- Not too many operations run. -/
  bounded : u.machine.calls.countP (·.phase.isOperating) ≤ max 1 config.maxConcurrentIndexers
  /-- Every permit is free or has a call that holds it. -/
  permits : u.machine.free + u.machine.taken = max 1 config.maxConcurrentIndexers
  /-- A call with a permit has the lock of its repository and does not wait. -/
  permit_held : ∀ (i : Nat) (repo : String) (phase : Phase),
    u.machine.calls[i]? = some ⟨repo, phase⟩ → phase.holdsPermit = true →
    u.machine.holders.get? repo = some i ∧ phase.isWaiting = false
  /-- The calls of one repository have no more than one permit. -/
  one_permit : ∀ (i j : Nat) (repo : String) (phase phase' : Phase),
    u.machine.calls[i]? = some ⟨repo, phase⟩ →
    u.machine.calls[j]? = some ⟨repo, phase'⟩ → phase.holdsPermit = true → phase'.holdsPermit = true → i = j
  /-- What is cloned is not there. -/
  cloned_absent : ∀ (i : Nat) (repo : String), u.machine.calls[i]? = some ⟨repo, .operating .clone⟩ →
    u.machine.present.contains repo = false
  /-- As long as a call is unfinished one can move. -/
  no_deadlock : (∃ call ∈ u.machine.calls, call.phase.result? = none) →
    ∃ m u', u.step (Coordinator.ofConfig config) (.sync m) = some u' ∧ (∀ name, m ≠ .arrive name) ∧
      ∀ k, m = .lock k → ∃ name, u.machine.firstQueued? name = some k

theorem step_sync {m : Move} {machine : Machine} (h : u.machine.step m = some machine)
    (admitted : admits c m = true) : u.step c (.sync m) = some { u with machine := machine } := by
  simp [step, admitted, h]

theorem Sound.no_deadlock (sound : u.Sound c) (available : 0 < c.permits)
    (unfinished : ∃ call ∈ u.machine.calls, call.phase.result? = none) :
    ∃ m u', u.step c (.sync m) = some u' ∧ (∀ name, m ≠ .arrive name) ∧
      ∀ k, m = .lock k → ∃ name, u.machine.firstQueued? name = some k := by
  obtain ⟨m, machine, hstep, harrive, hfirst⟩ := sound.machine.progress available unfinished
  have hadmitted : admits c m = true := by
    cases m with
    | arrive name => exact absurd rfl (harrive name)
    | _ => rfl
  exact ⟨m, _, step_sync (Machine.step_iff.2 hstep) hadmitted, harrive, hfirst⟩

theorem contains_of_ofConfig {config : Config} {name : String}
    (h : (Coordinator.ofConfig config).contains name = true) : config.repos.contains name = true := by
  obtain ⟨target, htarget⟩ := NameMap.contains_iff.1 h
  rw [Coordinator.ofConfig, NameMap.get?_filterMap] at htarget
  obtain ⟨repo, hrepo, -⟩ := Option.bind_eq_some_iff.1 htarget
  exact NameMap.contains_iff.2 ⟨repo, hrepo⟩

theorem Sound.configured {config : Config} (sound : u.Sound (Coordinator.ofConfig config))
    (found : u.machine.calls[i]? = some ⟨repo, phase⟩) : config.repos.contains repo = true :=
  contains_of_ofConfig (sound.calls repo (List.mem_map.2 ⟨_, List.mem_of_getElem? found, rfl⟩))

theorem Sound.unique (sound : u.Sound c) {j : Nat} {phase' : Phase}
    (hi : u.machine.calls[i]? = some ⟨repo, phase⟩) (hj : u.machine.calls[j]? = some ⟨repo, phase'⟩)
    (locked : phase.holdsLock = true) (locked' : phase'.holdsLock = true) : i = j :=
  sound.machine.holds_unique ⟨phase, hi, locked⟩ ⟨phase', hj, locked'⟩

theorem Sound.operating_le (sound : u.Sound c) :
    u.machine.calls.countP (·.phase.isOperating) ≤ c.permits := by
  calc u.machine.calls.countP (·.phase.isOperating)
      ≤ u.machine.taken := List.countP_mono_left fun _ _ => Phase.holdsPermit_of_isOperating
    _ ≤ u.machine.free + u.machine.taken := Nat.le_add_left _ _
    _ = c.permits := sound.machine.permits

theorem Sound.safe {config : Config} (sound : u.Sound (Coordinator.ofConfig config))
    (valid : config.validate = .ok ()) : u.Safe config where
  one_per_repo i j repo op other hi hj := sound.unique hi hj rfl rfl
  one_per_dir i j repo repo' op other hi hj hdir := by
    obtain rfl := Config.name_eq_of_workingDir_eq valid (sound.configured hi) (sound.configured hj) hdir
    exact sound.unique hi hj rfl rfl
  bounded := Nat.max_comm 1 _ ▸ sound.operating_le
  permits := Nat.max_comm 1 _ ▸ sound.machine.permits
  permit_held i repo phase hi hpermit :=
    ⟨sound.holder hi (Phase.holdsLock_of_holdsPermit hpermit), Phase.not_waiting_of_holdsPermit hpermit⟩
  one_permit i j repo phase phase' hi hj hpermit hpermit' :=
    sound.unique hi hj (Phase.holdsLock_of_holdsPermit hpermit) (Phase.holdsLock_of_holdsPermit hpermit')
  cloned_absent i repo hi := by
    have hfits := sound.machine.seen i repo _ hi
    cases hpresent : u.machine.present.contains repo with
    | false => rfl
    | true =>
      rw [hpresent] at hfits
      cases hfits
  no_deadlock := sound.no_deadlock (Nat.lt_of_lt_of_le Nat.zero_lt_one (Nat.le_max_right _ 1))

/-- Every run of the updates of a checked configuration is safe, and each of its clones looked first. -/
theorem safe_of_run {config : Config} {present : NameMap Unit} {served : List String}
    {registry : Registry WorkingCopy} {moves : List UpdateMove} {u : Updates}
    (valid : config.validate = .ok ())
    (run : runMoves (step (Coordinator.ofConfig config))
      (start (Coordinator.ofConfig config) present served registry) moves = some u) :
    u.Safe config ∧
      ∀ (i : Nat) (repo : String), u.machine.calls[i]? = some ⟨repo, .operating .clone⟩ →
        SawNothing (Coordinator.ofConfig config) (start (Coordinator.ofConfig config) present served registry)
          moves i repo :=
  ⟨(sound_of_run run).safe valid, fun _ _ found => sawNothing_of_run run found rfl⟩

def twoRepos : Config :=
  { Config.default with
    repos := .ofList [("a", .ofUrl "https://example.org/a"), ("b", .ofUrl "https://example.org/b")] }

/-- Both workers wake up, one more synchronization is asked for, and two of the three calls get to clone. -/
def twoClones : List UpdateMove :=
  [.tick 0, .begin 0, .sync (.arrive "a"), .tick 1, .begin 1, .sync (.lock 0), .sync (.lock 2),
    .sync (.permit 0), .sync (.look 0), .sync (.permit 2), .sync (.look 2), .sync (.operate 2),
    .sync (.operate 0)]

theorem safe_of_twoClones :
    ∃ u, runMoves (step (Coordinator.ofConfig twoRepos))
        (start (Coordinator.ofConfig twoRepos) ∅ ["a", "b"] ∅) twoClones = some u ∧
      u.Safe twoRepos ∧
      SawNothing (Coordinator.ofConfig twoRepos) (start (Coordinator.ofConfig twoRepos) ∅ ["a", "b"] ∅)
        twoClones 0 "a" := by
  have valid : twoRepos.validate = .ok () := by decide +kernel
  obtain ⟨u, run, found⟩ : ∃ u, runMoves (step (Coordinator.ofConfig twoRepos))
      (start (Coordinator.ofConfig twoRepos) ∅ ["a", "b"] ∅) twoClones = some u ∧
        u.machine.calls[0]? = some ⟨"a", .operating .clone⟩ := ⟨_, rfl, rfl⟩
  obtain ⟨safe, saw⟩ := safe_of_run valid run
  exact ⟨u, run, safe, saw 0 "a" found⟩

end Updates

end CodeSearch.Sync
