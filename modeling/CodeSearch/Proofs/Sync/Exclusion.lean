import CodeSearch.Proofs.Config.WorkingDirs
import CodeSearch.Proofs.Runs
import CodeSearch.Sync.Worker

/-!
# Exclusive synchronization

Locks and permits are what the phases of the calls say that they are, at every point of every run. So no two
operations run on one repository or in one directory, no more run than there are permits, a permit is never
held by a call that waits, and as long as a call is unfinished some call can move.
-/

namespace CodeSearch.Sync

def Phase.isWaiting : Phase → Bool
  | .queued | .locked => true
  | _ => false

/-- Has found no working copy and has not ended what it does about that. -/
def Phase.sawNothing : Phase → Bool
  | .looked false | .operating .clone => true
  | _ => false

/-- What a call has seen and does fits a repository with or without a working copy. -/
def Phase.Fits (found : Bool) : Phase → Prop
  | .looked seen => seen = found
  | .operating operation => operation = Machine.operationFor found
  | _ => True

theorem Phase.holdsLock_of_holdsPermit {phase : Phase} (h : phase.holdsPermit = true) :
    phase.holdsLock = true := by
  cases phase <;> first | rfl | cases h

theorem Phase.holdsLock_of_sawNothing {phase : Phase} (h : phase.sawNothing = true) :
    phase.holdsLock = true := by
  cases phase <;> first | rfl | cases h

theorem Phase.holdsPermit_of_isOperating {phase : Phase} (h : phase.isOperating = true) :
    phase.holdsPermit = true := by
  cases phase <;> first | rfl | cases h

theorem Phase.not_waiting_of_holdsPermit {phase : Phase} (h : phase.holdsPermit = true) :
    phase.isWaiting = false := by
  cases phase <;> first | rfl | cases h

theorem Phase.eq_queued {phase : Phase} (h : phase.isQueued = true) : phase = .queued := by
  cases phase <;> first | rfl | cases h

theorem Phase.eq_queued_of_open {phase : Phase} (idle : phase.holdsLock = false)
    (unfinished : phase.result? = none) : phase = .queued := by
  cases phase with
  | queued => rfl
  | finished result => cases unfinished
  | _ => cases idle

/-- Only a call that has the lock depends on whether there is a working copy. -/
theorem Phase.fits_of_not_holdsLock {phase : Phase} (found : Bool) (h : phase.holdsLock = false) :
    phase.Fits found := by
  cases phase <;> trivial

namespace Machine

def taken (m : Machine) : Nat := m.calls.countP (·.phase.holdsPermit)

/-- A call is on its way with the lock of a repository. -/
def Holds (m : Machine) (repo : String) (i : Nat) : Prop :=
  ∃ phase, m.calls[i]? = some ⟨repo, phase⟩ ∧ phase.holdsLock = true

/-! ## Single moves -/

inductive Step (m : Machine) : Move → Machine → Prop
  | arrive (repo : String) :
      Step m (.arrive repo) { m with calls := m.calls ++ [⟨repo, .queued⟩] }
  | lock {i : Nat} {repo : String} (found : m.calls[i]? = some ⟨repo, .queued⟩)
      (free : m.holders.get? repo = none) :
      Step m (.lock i) { m.setPhase i .locked with holders := m.holders.insert repo i }
  | permit {i : Nat} {repo : String} (found : m.calls[i]? = some ⟨repo, .locked⟩) (free : 0 < m.free) :
      Step m (.permit i) { m.setPhase i .permitted with free := m.free - 1 }
  | look {i : Nat} {repo : String} (found : m.calls[i]? = some ⟨repo, .permitted⟩) :
      Step m (.look i) (m.setPhase i (.looked (m.present.contains repo)))
  | operate {i : Nat} {repo : String} {seen : Bool} (found : m.calls[i]? = some ⟨repo, .looked seen⟩) :
      Step m (.operate i) (m.setPhase i (.operating (operationFor seen)))
  | finish {i : Nat} {repo : String} {operation : Operation} (result : Except Failure String)
      (there : Bool) (found : m.calls[i]? = some ⟨repo, .operating operation⟩) :
      Step m (.finish i result there) ((m.setPhase i (.ended result)).setPresent repo there)
  | giveBack {i : Nat} {repo : String} {result : Except Failure String}
      (found : m.calls[i]? = some ⟨repo, .ended result⟩) :
      Step m (.giveBack i) { m.setPhase i (.leaving result) with free := m.free + 1 }
  | unlock {i : Nat} {repo : String} {result : Except Failure String}
      (found : m.calls[i]? = some ⟨repo, .leaving result⟩) :
      Step m (.unlock i) { m.setPhase i (.finished result) with holders := m.holders.erase repo }

theorem lockFree_iff {m : Machine} {repo : String} :
    m.lockFree repo = true ↔ m.holders.get? repo = none := by
  simp [lockFree, NameMap.contains]

theorem step_iff {m m' : Machine} {move : Move} : m.step move = some m' ↔ Step m move m' := by
  constructor
  · intro h
    cases move <;> simp only [step] at h
    case arrive repo =>
      cases h
      exact .arrive repo
    case lock i =>
      split at h <;> try contradiction
      split at h <;> cases h
      exact .lock ‹_› (lockFree_iff.1 ‹_›)
    case permit i =>
      split at h <;> try contradiction
      split at h <;> cases h
      rename_i free
      exact .permit ‹_› (by simpa [permitFree] using free)
    case look i =>
      split at h <;> cases h
      exact .look ‹_›
    case operate i =>
      split at h <;> cases h
      exact .operate ‹_›
    case finish i result there =>
      split at h <;> cases h
      exact .finish result there ‹_›
    case giveBack i =>
      split at h <;> cases h
      exact .giveBack ‹_›
    case unlock i =>
      split at h <;> cases h
      exact .unlock ‹_›
  · intro h
    cases h with
    | arrive repo => rfl
    | lock found free => simp [step, found, lockFree_iff.2 free]
    | permit found free => simp [step, found, permitFree, free]
    | look found => simp [step, found]
    | operate found => simp [step, found]
    | finish result there found => simp [step, found]
    | giveBack found => simp [step, found]
    | unlock found => simp [step, found]

/-! ## The phase of one call -/

variable {m m' : Machine} {move : Move} {i j : Nat} {repo other : String} {old new : Phase}

theorem getElem?_setPhase (m : Machine) (i j : Nat) (new : Phase) :
    (m.setPhase i new).calls[j]? =
      if i = j then (m.calls[j]?).map fun c => { c with phase := new } else m.calls[j]? := by
  simp only [setPhase, List.getElem?_modify]
  split <;> cases m.calls[j]? <;> rfl

theorem found_setPhase {phase : Phase} (found : m.calls[i]? = some ⟨repo, old⟩) :
    (m.setPhase i new).calls[j]? = some ⟨other, phase⟩ ↔
      if j = i then other = repo ∧ phase = new else m.calls[j]? = some ⟨other, phase⟩ := by
  rw [getElem?_setPhase]
  by_cases h : j = i
  · subst h
    simp [found, eq_comm]
  · simp [h, Ne.symm h]

theorem holds_setPhase (found : m.calls[i]? = some ⟨repo, old⟩) :
    (m.setPhase i new).Holds other j ↔
      if j = i then other = repo ∧ new.holdsLock = true else m.Holds other j := by
  unfold Holds
  simp only [found_setPhase found]
  by_cases h : j = i <;> simp [h]

theorem holds_iff (found : m.calls[i]? = some ⟨repo, old⟩) :
    m.Holds other i ↔ other = repo ∧ old.holdsLock = true := by
  constructor
  · rintro ⟨phase, h, hlock⟩
    cases found.symm.trans h
    exact ⟨rfl, hlock⟩
  · rintro ⟨rfl, hlock⟩
    exact ⟨old, found, hlock⟩

theorem taken_setPhase (found : m.calls[i]? = some ⟨repo, old⟩) :
    (m.setPhase i new).taken + old.holdsPermit.toNat = m.taken + new.holdsPermit.toNat := by
  obtain ⟨hi, hcall⟩ := List.getElem?_eq_some_iff.1 found
  have hcalls : (m.setPhase i new).calls = m.calls.set i ⟨repo, new⟩ := by
    apply List.ext_getElem?
    intro j
    rw [getElem?_setPhase, List.getElem?_set]
    by_cases h : i = j
    · subst h
      simp [hi, hcall]
    · simp [h]
  have hset : (m.setPhase i new).taken = m.taken - old.holdsPermit.toNat + new.holdsPermit.toNat := by
    rw [taken, hcalls, List.countP_set hi, hcall]
    cases old.holdsPermit <;> cases new.holdsPermit <;> rfl
  have hle : old.holdsPermit.toNat ≤ m.taken := by
    have := List.boole_getElem_le_countP (p := fun c : SyncCall => c.phase.holdsPermit) hi
    rw [hcall] at this
    refine Nat.le_trans (Nat.le_of_eq ?_) this
    cases old.holdsPermit <;> rfl
  omega

/-! ## The invariant -/

/-- The locks and permits that are taken are those of the calls on their way, and what a call has seen of
the working copy is still so. -/
structure Sound (permits : Nat) (m : Machine) : Prop where
  locks : ∀ repo i, m.holders.get? repo = some i ↔ m.Holds repo i
  permits : m.free + m.taken = permits
  seen : ∀ (i : Nat) (repo : String) (phase : Phase), m.calls[i]? = some ⟨repo, phase⟩ →
    phase.Fits (m.present.contains repo)

theorem sound_start (permits : Nat) (present : NameMap Unit) : (start permits present).Sound permits where
  locks repo i := by simp [start, Holds, NameMap.get?_empty]
  permits := by simp [start, taken]
  seen i repo phase h := by simp [start] at h

variable {permits : Nat}

theorem Sound.holds_unique (sound : m.Sound permits) (hi : m.Holds repo i) (hj : m.Holds repo j) :
    i = j := by
  rw [← sound.locks] at hi hj
  exact Option.some.inj (hi.symm.trans hj)

/-- A change of phase that changes nothing of the locks keeps them right. -/
theorem Sound.locks_setPhase (sound : m.Sound permits) (found : m.calls[i]? = some ⟨repo, old⟩)
    (same : new.holdsLock = old.holdsLock) (other : String) (j : Nat) :
    m.holders.get? other = some j ↔ (m.setPhase i new).Holds other j := by
  rw [sound.locks, holds_setPhase found, same]
  split
  · rename_i h
    rw [h, holds_iff found]
  · rfl

theorem Sound.seen_setPhase (sound : m.Sound permits) (found : m.calls[i]? = some ⟨repo, old⟩)
    (fits : new.Fits (m.present.contains repo)) (j : Nat) (other : String) (phase : Phase)
    (h : (m.setPhase i new).calls[j]? = some ⟨other, phase⟩) :
    phase.Fits (m.present.contains other) := by
  rw [found_setPhase found] at h
  split at h
  · obtain ⟨rfl, rfl⟩ := h
    exact fits
  · exact sound.seen j other phase h

/-- The end of an operation changes what is there for its own repository only, and no other call with that
lock can have seen it. -/
theorem Sound.seen_setPresent (sound : m.Sound permits) (there : Bool)
    (found : m.calls[i]? = some ⟨repo, old⟩) (locked : old.holdsLock = true)
    (result : Except Failure String) (j : Nat) (other : String) (phase : Phase)
    (h : (m.setPhase i (.ended result)).calls[j]? = some ⟨other, phase⟩) :
    phase.Fits ((m.setPresent repo there).present.contains other) := by
  rw [found_setPhase found] at h
  split at h
  · obtain ⟨rfl, rfl⟩ := h
    trivial
  · rename_i hne
    by_cases hrepo : other = repo
    · subst hrepo
      cases hlock : phase.holdsLock with
      | false => exact Phase.fits_of_not_holdsLock _ hlock
      | true => exact absurd (sound.holds_unique ⟨phase, h, hlock⟩ ⟨old, found, locked⟩) hne
    · have hsame : (m.setPresent repo there).present.contains other = m.present.contains other := by
        cases there <;> simp [setPresent, hrepo]
      rw [hsame]
      exact sound.seen j other phase h

/-- A change of phase keeps the number of permits if what the call gives up or gets is booked. -/
theorem Sound.permits_setPhase (sound : m.Sound permits) (found : m.calls[i]? = some ⟨repo, old⟩)
    {free : Nat} (booked : free + new.holdsPermit.toNat = m.free + old.holdsPermit.toNat) :
    free + (m.setPhase i new).taken = permits := by
  have htaken : (m.setPhase i new).taken + old.holdsPermit.toNat = m.taken + new.holdsPermit.toNat :=
    taken_setPhase found
  have hpermits := sound.permits
  omega

theorem found_arrive {phase : Phase} :
    (m.calls ++ [⟨repo, .queued⟩])[j]? = some ⟨other, phase⟩ ↔
      m.calls[j]? = some ⟨other, phase⟩ ∨ j = m.calls.length ∧ other = repo ∧ phase = .queued := by
  rw [List.getElem?_append]
  split
  · rename_i h
    simp [Nat.ne_of_lt h]
  · rename_i h
    rw [List.getElem?_eq_none (Nat.le_of_not_lt h), List.getElem?_singleton]
    by_cases hj : j = m.calls.length
    · simp [hj, eq_comm]
    · simp [hj, show j - m.calls.length ≠ 0 by omega]

theorem Sound.arrive (sound : m.Sound permits) (repo : String) :
    Sound permits { m with calls := m.calls ++ [⟨repo, .queued⟩] } where
  locks other j := by
    rw [sound.locks]
    constructor
    · rintro ⟨phase, hj, hlock⟩
      exact ⟨phase, found_arrive.2 (.inl hj), hlock⟩
    · rintro ⟨phase, hj, hlock⟩
      rcases found_arrive.1 hj with hj | ⟨-, -, rfl⟩
      · exact ⟨phase, hj, hlock⟩
      · cases hlock
  permits := by simpa [taken, Phase.holdsPermit] using sound.permits
  seen j other phase hj := by
    rcases found_arrive.1 hj with hj | ⟨-, -, rfl⟩
    · exact sound.seen j other phase hj
    · trivial

theorem Sound.locks_lock (sound : m.Sound permits) (found : m.calls[i]? = some ⟨repo, .queued⟩)
    (free : m.holders.get? repo = none) (other : String) (j : Nat) :
    (m.holders.insert repo i).get? other = some j ↔ (m.setPhase i .locked).Holds other j := by
  -- the call has had no lock so far, and nobody that of its repository
  have hidle : ∀ name, m.holders.get? name ≠ some i := fun name hname => by
    cases ((holds_iff found).1 ((sound.locks name i).1 hname)).2
  rw [NameMap.get?_insert, holds_setPhase found, ← sound.locks]
  by_cases hother : other = repo <;> by_cases hj : j = i
  · simp [hother, hj, Phase.holdsLock]
  · simp [hother, hj, free, Ne.symm hj]
  · simp [hother, hj, hidle]
  · simp [hother, hj]

theorem Sound.locks_unlock (sound : m.Sound permits) {result : Except Failure String}
    (found : m.calls[i]? = some ⟨repo, .leaving result⟩) (other : String) (j : Nat) :
    (m.holders.erase repo).get? other = some j ↔ (m.setPhase i (.finished result)).Holds other j := by
  -- the lock of its repository is the only one that the call has
  have hheld : m.holders.get? repo = some i := (sound.locks repo i).2 ⟨_, found, rfl⟩
  have honly : ∀ name, name ≠ repo → m.holders.get? name ≠ some i := fun name hname h =>
    hname ((holds_iff found).1 ((sound.locks name i).1 h)).1
  rw [NameMap.get?_erase, holds_setPhase found, ← sound.locks]
  by_cases hother : other = repo <;> by_cases hj : j = i
  · simp [hother, hj, Phase.holdsLock, Phase.holdsPermit]
  · simp [hother, hj, hheld, Ne.symm hj]
  · simp [hother, hj, honly other hother, Phase.holdsLock, Phase.holdsPermit]
  · simp [hother, hj]

theorem Sound.step (sound : m.Sound permits) (h : m.step move = some m') : m'.Sound permits := by
  cases step_iff.1 h with
  | arrive repo => exact sound.arrive repo
  | lock found free =>
    exact ⟨sound.locks_lock found free, sound.permits_setPhase found rfl,
      sound.seen_setPhase found trivial⟩
  | permit found free =>
    refine ⟨sound.locks_setPhase found rfl, sound.permits_setPhase found ?_,
      sound.seen_setPhase found trivial⟩
    simp only [Phase.holdsPermit, Bool.toNat_true, Bool.toNat_false]
    omega
  | look found =>
    exact ⟨sound.locks_setPhase found rfl, sound.permits_setPhase found rfl,
      sound.seen_setPhase found rfl⟩
  | operate found =>
    have hseen := sound.seen _ _ _ found
    exact ⟨sound.locks_setPhase found rfl, sound.permits_setPhase found rfl,
      sound.seen_setPhase found (congrArg operationFor hseen)⟩
  | finish result there found =>
    exact ⟨sound.locks_setPhase found rfl, sound.permits_setPhase found rfl,
      sound.seen_setPresent there found rfl result⟩
  | giveBack found =>
    exact ⟨sound.locks_setPhase found rfl, sound.permits_setPhase found rfl,
      sound.seen_setPhase found trivial⟩
  | unlock found =>
    exact ⟨sound.locks_unlock found, sound.permits_setPhase found rfl,
      sound.seen_setPhase found trivial⟩

/-! ## Progress -/

theorem found_of_firstQueued (h : m.firstQueued? repo = some i) :
    m.calls[i]? = some ⟨repo, .queued⟩ := by
  obtain ⟨hi, hqueued, -⟩ := List.findIdx?_eq_some_iff_getElem.1 h
  obtain ⟨hrepo, hphase⟩ := Bool.and_eq_true_iff.1 hqueued
  rw [List.getElem?_eq_getElem hi]
  cases hcall : m.calls[i] with
  | mk name phase =>
    rw [hcall] at hrepo hphase
    obtain rfl : name = repo := by simpa using hrepo
    obtain rfl : phase = .queued := Phase.eq_queued hphase
    rfl

theorem exists_firstQueued (found : m.calls[i]? = some ⟨repo, .queued⟩) :
    ∃ k, m.firstQueued? repo = some k := by
  cases h : m.firstQueued? repo with
  | some k => exact ⟨k, rfl⟩
  | none =>
    have := List.findIdx?_eq_none_iff.1 h _ (List.mem_of_getElem? found)
    simp [Phase.isQueued] at this

/-- A call that has its lock and does not wait for a permit can move. -/
theorem exists_step_of_holdsLock {phase : Phase} (found : m.calls[i]? = some ⟨repo, phase⟩)
    (locked : phase.holdsLock = true) (busy : phase ≠ .locked) :
    ∃ move m', Step m move m' ∧ (∀ name, move ≠ .arrive name) ∧ ∀ k, move ≠ .lock k := by
  cases phase with
  | queued | finished => cases locked
  | locked => exact absurd rfl busy
  | permitted => exact ⟨_, _, .look found, nofun, nofun⟩
  | looked seen => exact ⟨_, _, .operate found, nofun, nofun⟩
  | operating operation => exact ⟨_, _, .finish (.ok "") true found, nofun, nofun⟩
  | ended result => exact ⟨_, _, .giveBack found, nofun, nofun⟩
  | leaving result => exact ⟨_, _, .unlock found, nofun, nofun⟩

/-- As long as a call is unfinished one can move, be it that a lock goes to the call that has waited for it
longest. -/
theorem Sound.progress (sound : m.Sound permits) (available : 0 < permits)
    (unfinished : ∃ c ∈ m.calls, c.phase.result? = none) :
    ∃ move m', Step m move m' ∧ (∀ name, move ≠ .arrive name) ∧
      ∀ k, move = .lock k → ∃ name, m.firstQueued? name = some k := by
  by_cases busy : ∃ c ∈ m.calls, c.phase.holdsLock = true ∧ c.phase ≠ .locked
  · obtain ⟨⟨repo, phase⟩, hmem, hlock, hne⟩ := busy
    obtain ⟨i, found⟩ := List.getElem?_of_mem hmem
    obtain ⟨move, after, hstep, harrive, hnolock⟩ := exists_step_of_holdsLock found hlock hne
    exact ⟨move, after, hstep, harrive, fun k hk => absurd hk (hnolock k)⟩
  · -- whoever has a lock waits for a permit, so no permit is taken
    have hlocked : ∀ c ∈ m.calls, c.phase.holdsLock = true → c.phase = .locked := by
      intro c hc hlock
      exact Classical.byContradiction fun hne => busy ⟨c, hc, hlock, hne⟩
    have hfree : 0 < m.free := by
      have htaken : m.taken = 0 := by
        rw [taken, List.countP_eq_zero]
        intro c hc hpermit
        rw [hlocked c hc (Phase.holdsLock_of_holdsPermit hpermit)] at hpermit
        cases hpermit
      have := sound.permits
      omega
    by_cases waiting : ∃ c ∈ m.calls, c.phase = .locked
    · obtain ⟨⟨repo, _⟩, hmem, rfl⟩ := waiting
      obtain ⟨i, found⟩ := List.getElem?_of_mem hmem
      exact ⟨_, _, .permit found hfree, nofun, nofun⟩
    · -- nobody has a lock, so the first in line gets that of its repository
      obtain ⟨⟨repo, phase⟩, hmem, hopen⟩ := unfinished
      have hidle : ∀ c ∈ m.calls, c.phase.holdsLock = false := by
        intro c hc
        cases hlock : c.phase.holdsLock with
        | false => rfl
        | true => exact absurd ⟨c, hc, hlocked c hc hlock⟩ waiting
      obtain rfl : phase = .queued := Phase.eq_queued_of_open (hidle _ hmem) hopen
      obtain ⟨i, found⟩ := List.getElem?_of_mem hmem
      obtain ⟨k, hk⟩ := exists_firstQueued found
      refine ⟨_, _, .lock (found_of_firstQueued hk) ?_, nofun, ?_⟩
      · cases hholder : m.holders.get? repo with
        | none => rfl
        | some j =>
          obtain ⟨phase, hj, hlock⟩ := (sound.locks repo j).1 hholder
          rw [hidle _ (List.mem_of_getElem? hj)] at hlock
          cases hlock
      · rintro _ ⟨⟩
        exact ⟨repo, hk⟩

/-! ## What a move leaves of the other calls -/

theorem repos_setPhase (m : Machine) (i : Nat) (new : Phase) :
    (m.setPhase i new).calls.map (·.repo) = m.calls.map (·.repo) := by
  apply List.ext_getElem?
  intro j
  rw [List.getElem?_map, List.getElem?_map, getElem?_setPhase]
  split <;> cases m.calls[j]? <;> rfl

theorem repos_step (h : m.step move = some m') :
    m'.calls.map (·.repo) = m.calls.map (·.repo) ∨
      ∃ repo, move = .arrive repo ∧ m'.calls.map (·.repo) = m.calls.map (·.repo) ++ [repo] := by
  cases step_iff.1 h with
  | arrive repo => exact .inr ⟨repo, rfl, by simp⟩
  | _ => exact .inl (repos_setPhase m _ _)

theorem sawNothing_setPhase {phase : Phase} (found : m.calls[j]? = some ⟨other, old⟩)
    (after : (m.setPhase j new).calls[i]? = some ⟨repo, phase⟩) (saw : phase.sawNothing = true)
    (kept : new.sawNothing = true → old.sawNothing = true) :
    ∃ before, m.calls[i]? = some ⟨repo, before⟩ ∧ before.sawNothing = true := by
  rw [found_setPhase found] at after
  split at after
  · rename_i h
    obtain ⟨rfl, rfl⟩ := after
    exact ⟨old, h ▸ found, kept saw⟩
  · exact ⟨phase, after, saw⟩

/-- A call comes to have found nothing only by looking where there is nothing. -/
theorem sawNothing_step {phase : Phase} (h : m.step move = some m')
    (after : m'.calls[i]? = some ⟨repo, phase⟩) (saw : phase.sawNothing = true) :
    (move = .look i ∧ m.calls[i]? = some ⟨repo, .permitted⟩ ∧ m.present.contains repo = false) ∨
      ∃ before, m.calls[i]? = some ⟨repo, before⟩ ∧ before.sawNothing = true := by
  cases step_iff.1 h with
  | arrive other =>
    rcases found_arrive.1 after with hold | ⟨-, -, rfl⟩
    · exact .inr ⟨phase, hold, saw⟩
    · cases saw
  | @look j other found =>
    by_cases hi : i = j
    · subst hi
      rw [found_setPhase found, if_pos rfl] at after
      obtain ⟨rfl, rfl⟩ := after
      refine .inl ⟨rfl, found, ?_⟩
      cases hpresent : m.present.contains repo with
      | false => rfl
      | true =>
        rw [hpresent] at saw
        cases saw
    · rw [found_setPhase found, if_neg hi] at after
      exact .inr ⟨phase, after, saw⟩
  | @operate j other seen found =>
    refine .inr (sawNothing_setPhase found after saw ?_)
    cases seen <;> exact id
  | lock found | permit found | finish _ _ found | giveBack found | unlock found =>
    exact .inr (sawNothing_setPhase found after saw nofun)

end Machine

end CodeSearch.Sync
