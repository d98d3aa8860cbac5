import CodeSearch.Proofs.Sync.Apart
import CodeSearch.Proofs.Sync.Batches

/-!
# Tasks that keep apart

Every task of a batch whose synchronizations keep apart follows the way that it would go alone. So whatever
task moves next, the batch ends with the results that each synchronization has by itself.
-/

namespace CodeSearch.Sync

namespace Batch

variable {c : Coordinator VcsDriver} {tool : Tool} {known : String → Prop} {start site site' : Site}
  {Sim : String → Site → SyncScript → Site → Prop} {names : List String} {b b' : Batch} {x : String}
  {old new : Phase} {task after : Task}

/-- A task is on the way of its synchronization alone: what it has still to do would end there as the whole
does, and if the tool works for it, it works where it would. -/
def Track (c : Coordinator VcsDriver) (tool : Tool) (start : Site)
    (Sim : String → Site → SyncScript → Site → Prop) (site : Site) (x : String) (task : Task) : Prop :=
  ∃ alone, Sim x site task.script alone ∧ task.script.run tool alone = (c.sync x).run tool start ∧
    ∀ place label dir args next, task = ⟨.act (.call label dir args) next, some place⟩ →
      Site.startPlace alone.disk dir args = .ok place

/-- Each task keeps to its way, no result but the right ones is collected, and none is missing. -/
structure Follows (c : Coordinator VcsDriver) (tool : Tool) (known : String → Prop) (start : Site)
    (Sim : String → Site → SyncScript → Site → Prop) (names : List String) (b : Batch) : Prop where
  distinct : (b.waiting ++ b.machine.calls.map (·.repo)).Nodup
  waiting : ∀ x ∈ b.waiting, x ∈ names ∧ (known x → Sim x b.site (c.sync x) start)
  calls : ∀ i x phase task, b.At i x phase task → known x ∧ Track c tool start Sim b.site x task
  begun : ∀ x, known x → x ∈ b.waiting ∨ ∃ i phase task, b.At i x phase task
  complete : ∀ x ∈ names, x ∈ b.waiting ∨ (∃ i phase task, b.At i x phase task ∧ phase.result? = none) ∨
    (x, c.answer tool start x) ∈ b.ended ∨ b.results.get? x = some (c.answer tool start x)
  ended : ∀ x a, (x, a) ∈ b.ended → x ∈ names ∧ a = c.answer tool start x
  results : ∀ x a, b.results.get? x = some a → x ∈ names ∧ a = c.answer tool start x
  idle : b.machine.calls = [] → b.site = start

theorem not_working {script : SyncScript} {alone : Site} (place : List Files.Name) (label dir : String)
    (args : List String) (next : Except Failure String → SyncScript)
    (h : (⟨script, none⟩ : Task) = ⟨.act (.call label dir args) next, some place⟩) :
    Site.startPlace alone.disk dir args = .ok place := by
  cases congrArg Task.working h

/-- A task that advances stays on its way, and the others see nothing of it. -/
theorem Track.advance (apart : Apart tool known c.sync start Sim) (hx : known x)
    (track : Track c tool start Sim site x task) (advance : Advance tool old task site new after site') :
    Track c tool start Sim site' x after ∧
      ∀ y rest own, known y → y ≠ x → Sim y site rest own → Sim y site' rest own := by
  obtain ⟨alone, hsim, hrun, hplace⟩ := track
  cases advance with
  | lock | permit | operate | finish | giveBack =>
    exact ⟨⟨alone, hsim, hrun, hplace⟩, fun _ _ _ _ _ h => h⟩
  | look | test =>
    obtain ⟨hsame, hnext⟩ := apart.test hx hsim
    refine ⟨⟨alone, hnext, ?_, not_working⟩, fun _ _ _ _ _ h => h⟩
    rw [hsame, ← hrun]
    rfl
  | act =>
    obtain ⟨hsame, hnext⟩ := apart.act hx hsim
    refine ⟨⟨_, hnext, ?_, not_working⟩, fun y rest own hy hne h => apart.others hx hy hne hsim h⟩
    rw [hsame, ← hrun]
    rfl
  | launch starts =>
    refine ⟨⟨alone, hsim, hrun, ?_⟩, fun _ _ _ _ _ h => h⟩
    intro place label dir args next heq
    cases heq
    rw [← apart.place hx hsim, starts]
  | @reply operation label dir args next site place =>
    have hstart : Site.startPlace site.disk dir args = .ok place := by
      rw [apart.place hx hsim, hplace _ _ _ _ _ rfl]
    have hwork : Site.work tool label dir args place site = Site.perform tool (.call label dir args) site := by
      simp only [Site.perform, Site.call, hstart]
    obtain ⟨hsame, hnext⟩ := apart.act hx hsim
    rw [hwork]
    refine ⟨⟨_, hnext, ?_, not_working⟩, fun y rest own hy hne h => apart.others hx hy hne hsim h⟩
    rw [hsame, ← hrun]
    rfl

theorem follows_start (apart : Apart tool known c.sync start Sim)
    (all : ∀ x, known x ↔ x ∈ names ∧ c.contains x = true) (distinct : names.Nodup) :
    Follows c tool known start Sim names (Batch.start c names start) where
  distinct := by simpa [Batch.start, Machine.start] using distinct
  waiting x hx := ⟨hx, fun h => apart.start h⟩
  calls i x phase task h := by simp [At, Batch.start, Machine.start] at h
  begun x hx := .inl ((all x).1 hx).1
  complete x hx := .inl hx
  ended x a h := by simp [Batch.start] at h
  results x a h := by simp [Batch.start, NameMap.get?_empty] at h
  idle _ := rfl

theorem perm_eraseIdx {α : Type} {l : List α} {k : Nat} {a : α} (h : l[k]? = some a) :
    (a :: l.eraseIdx k).Perm l := by
  obtain ⟨hk, rfl⟩ := List.getElem?_eq_some_iff.1 h
  exact List.getElem_cons_eraseIdx_perm hk

theorem repo_mem_of_at {i : Nat} (h : b.At i x old task) : x ∈ b.machine.calls.map (·.repo) :=
  List.mem_map.2 ⟨_, List.mem_of_getElem? h.1, rfl⟩

theorem repos_of_moves {i : Nat} (sound : b.Sound c) (place : b.At i x old task)
    (moves : b.Moves b' i x new after) (keeps : b.Keeps b') :
    b'.machine.calls.map (·.repo) = b.machine.calls.map (·.repo) := by
  refine List.ext_getElem? fun j => ?_
  rw [List.getElem?_map, List.getElem?_map]
  cases hcall : b.machine.calls[j]? with
  | none =>
    have hlength := keeps.calls ▸ List.getElem?_eq_none_iff.1 hcall
    rw [List.getElem?_eq_none hlength]
  | some call =>
    obtain ⟨own, hat⟩ := sound.exists_task hcall
    by_cases h : j = i
    · subst h
      have hrepo : call.repo = x := by
        have := hat.1.symm.trans place.1
        cases this
        rfl
      rw [((moves j x new after).2 (by simp)).1, Option.map_some, Option.map_some, hrepo]
    · rw [((moves j _ _ _).2 (by rw [if_neg h]; exact hat)).1]

theorem Advance.result?_eq_none (advance : Advance tool old task site new after site') :
    old.result? = none ∧ new.result? = none := by
  cases advance <;> exact ⟨rfl, rfl⟩

theorem calls_ne_nil_of_at {i : Nat} (place : b.At i x old task) : b.machine.calls ≠ [] := by
  intro h
  have := place.1
  rw [h] at this
  cases this

/-- Each call is where it was, but for the one that has moved. -/
theorem Moves.carries {i j : Nat} {y : String} {phase : Phase} {own : Task} (moves : b.Moves b' i x new after)
    (place : b.At i x old task) (h : b.At j y phase own) :
    y = x ∧ b'.At i x new after ∨ b'.At j y phase own := by
  by_cases hj : j = i
  · subst hj
    exact .inl ⟨congrArg SyncCall.repo (Option.some.inj (h.1.symm.trans place.1)), (moves ..).2 (by simp)⟩
  · exact .inr ((moves ..).2 (by rwa [if_neg hj]))

namespace Follows

variable (follows : Follows c tool known start Sim names b)

include follows

theorem repo_ne {i j : Nat} {y : String} {phase : Phase} {own : Task} (place : b.At i x old task)
    (other : b.At j y phase own) (ne : j ≠ i) : y ≠ x := by
  have hdistinct := (List.nodup_append.1 follows.distinct).2.1
  obtain ⟨hj, -⟩ := List.getElem?_eq_some_iff.1 other.1
  rintro rfl
  refine ne ((List.getElem?_inj (by simpa using hj) hdistinct).1 ?_)
  rw [List.getElem?_map, List.getElem?_map, place.1, other.1]
  rfl

theorem ne_of_waiting {i : Nat} {y : String} (place : b.At i x old task) (waiting : y ∈ b.waiting) : y ≠ x := by
  rintro rfl
  exact (List.nodup_append.1 follows.distinct).2.2 _ waiting _ (repo_mem_of_at place) rfl

theorem refuse (all : ∀ x, known x ↔ x ∈ names ∧ c.contains x = true) {k : Nat} {name : String}
    (waiting : b.waiting[k]? = some name) (unknown : c.contains name = false) :
    Follows c tool known start Sim names { b with
      waiting := b.waiting.eraseIdx k
      ended := b.ended ++ [(name, .error (.repositoryNotFound name))] } := by
  have hanswer : c.answer tool start name = .error (.repositoryNotFound name) := by
    rw [Coordinator.answer, Coordinator.sync_of_not_contains unknown]
    rfl
  have hwaiting : ∀ y, y ∈ b.waiting ↔ y = name ∨ y ∈ b.waiting.eraseIdx k := fun y => by
    rw [← (perm_eraseIdx waiting).mem_iff, List.mem_cons]
  constructor
  case distinct => exact follows.distinct.sublist ((List.eraseIdx_sublist ..).append (.refl _))
  case waiting => exact fun y hy => follows.waiting y ((hwaiting y).2 (.inr hy))
  case calls => exact follows.calls
  case begun =>
    intro y hy
    rcases follows.begun y hy with h | h
    · rcases (hwaiting y).1 h with rfl | h
      · rw [((all y).1 hy).2] at unknown
        cases unknown
      · exact .inl h
    · exact .inr h
  case complete =>
    intro y hy
    rcases follows.complete y hy with h | h | h | h
    · rcases (hwaiting y).1 h with rfl | h
      · exact .inr (.inr (.inl (by simp [hanswer])))
      · exact .inl h
    · exact .inr (.inl h)
    · exact .inr (.inr (.inl (List.mem_append_left _ h)))
    · exact .inr (.inr (.inr h))
  case ended =>
    intro y a h
    rcases List.mem_append.1 h with h | h
    · exact follows.ended y a h
    · obtain ⟨rfl, rfl⟩ := Prod.mk.inj (List.mem_singleton.1 h)
      exact ⟨(follows.waiting y ((hwaiting y).2 (.inl rfl))).1, hanswer.symm⟩
  case results => exact follows.results
  case idle => exact follows.idle

theorem begin (sound : b.Sound c)
    (all : ∀ x, known x ↔ x ∈ names ∧ c.contains x = true) {k : Nat} {name : String}
    {target : SyncTarget VcsDriver} (waiting : b.waiting[k]? = some name) (found : c.find name = .ok target) :
    Follows c tool known start Sim names { b with
      waiting := b.waiting.eraseIdx k
      machine := { b.machine with calls := b.machine.calls ++ [⟨name, .queued⟩] }
      tasks := b.tasks ++ [⟨Coordinator.syncTarget target, none⟩] } := by
  have hperm := perm_eraseIdx waiting
  have hwaiting : ∀ y, y ∈ b.waiting ↔ y = name ∨ y ∈ b.waiting.eraseIdx k := fun y => by
    rw [← hperm.mem_iff, List.mem_cons]
  obtain ⟨hname, hsim⟩ := follows.waiting name ((hwaiting name).2 (.inl rfl))
  have hknown := (all name).2 ⟨hname, Coordinator.contains_of_find found⟩
  have hsync : c.sync name = Coordinator.syncTarget target := by rw [Coordinator.sync, found]
  have hat := @at_begin b sound.length name ⟨Coordinator.syncTarget target, none⟩ (b.waiting.eraseIdx k)
  constructor
  case distinct =>
    refine List.Perm.nodup ?_ follows.distinct
    rw [List.map_append, List.map_singleton]
    exact ((hperm.symm.append_right _).trans List.perm_middle.symm).trans
      (List.Perm.append_left _ (List.perm_append_singleton ..).symm)
  case waiting => exact fun y hy => follows.waiting y ((hwaiting y).2 (.inr hy))
  case calls =>
    intro j y phase own h
    rcases hat.1 h with h | ⟨-, rfl, -, rfl⟩
    · exact follows.calls j y phase own h
    · exact ⟨hknown, start, hsync ▸ hsim hknown, by rw [hsync], not_working⟩
  case begun =>
    intro y hy
    rcases follows.begun y hy with h | ⟨j, phase, own, h⟩
    · rcases (hwaiting y).1 h with rfl | h
      · exact .inr ⟨_, _, _, hat.2 (.inr ⟨rfl, rfl, rfl, rfl⟩)⟩
      · exact .inl h
    · exact .inr ⟨j, phase, own, hat.2 (.inl h)⟩
  case complete =>
    intro y hy
    rcases follows.complete y hy with h | ⟨j, phase, own, h, hopen⟩ | h
    · rcases (hwaiting y).1 h with rfl | h
      · exact .inr (.inl ⟨_, _, _, hat.2 (.inr ⟨rfl, rfl, rfl, rfl⟩), rfl⟩)
      · exact .inl h
    · exact .inr (.inl ⟨j, phase, own, hat.2 (.inl h), hopen⟩)
    · exact .inr (.inr h)
  case ended => exact follows.ended
  case results => exact follows.results
  case idle => exact fun h => absurd h (by simp)

theorem advance (apart : Apart tool known c.sync start Sim) (sound : b.Sound c) {i : Nat}
    (place : b.At i x old task) (advance : Advance tool old task b.site new after b'.site)
    (moves : b.Moves b' i x new after) (keeps : b.Keeps b') (ended : b'.ended = b.ended) :
    Follows c tool known start Sim names b' := by
  obtain ⟨hknown, htrack⟩ := follows.calls _ _ _ _ place
  -- the task that moves stays on its way, and what it does is out of sight of the others
  obtain ⟨hafter, hothers⟩ := Track.advance apart hknown htrack advance
  obtain ⟨hold, hnew⟩ := Advance.result?_eq_none advance
  have hat : b'.At i x new after := (moves ..).2 (by simp)
  constructor
  case distinct =>
    rw [keeps.waiting, repos_of_moves sound place moves keeps]
    exact follows.distinct
  case waiting =>
    intro y hy
    rw [keeps.waiting] at hy
    obtain ⟨hname, hsim⟩ := follows.waiting y hy
    exact ⟨hname, fun h => hothers y _ _ h (follows.ne_of_waiting place hy) (hsim h)⟩
  case calls =>
    intro j y phase own h
    rw [moves] at h
    split at h
    · obtain ⟨rfl, rfl, rfl⟩ := h
      exact ⟨hknown, hafter⟩
    · rename_i hne
      obtain ⟨hy, alone, hsim, hrest⟩ := follows.calls j y phase own h
      exact ⟨hy, alone, hothers y _ _ hy (follows.repo_ne place h hne) hsim, hrest⟩
  case begun =>
    intro y hy
    rw [keeps.waiting]
    rcases follows.begun y hy with h | ⟨j, phase, own, h⟩
    · exact .inl h
    · rcases moves.carries place h with ⟨rfl, hmoved⟩ | hstays
      · exact .inr ⟨i, new, after, hmoved⟩
      · exact .inr ⟨j, phase, own, hstays⟩
  case complete =>
    intro y hy
    rw [keeps.waiting, ended, keeps.results]
    rcases follows.complete y hy with h | ⟨j, phase, own, h, hopen⟩ | h
    · exact .inl h
    · rcases moves.carries place h with ⟨rfl, hmoved⟩ | hstays
      · exact .inr (.inl ⟨i, new, after, hmoved, hnew⟩)
      · exact .inr (.inl ⟨j, phase, own, hstays, hopen⟩)
    · exact .inr (.inr h)
  case ended =>
    rw [ended]
    exact follows.ended
  case results =>
    rw [keeps.results]
    exact follows.results
  case idle => exact fun h => absurd h (calls_ne_nil_of_at hat)

theorem unlock (sound : b.Sound c) {i : Nat} {result : Except Failure String}
    (place : b.At i x (.leaving result) task) (moves : b.Moves b' i x (.finished result) task)
    (keeps : b.Keeps b') (site : b'.site = b.site) (ended : b'.ended = b.ended ++ [(x, result)])
    (all : ∀ x, known x ↔ x ∈ names ∧ c.contains x = true) : Follows c tool known start Sim names b' := by
  obtain ⟨hknown, alone, hsim, hrun, hplace⟩ := follows.calls _ _ _ _ place
  have hat : b'.At i x (.finished result) task := (moves ..).2 (by simp)
  -- the script has come to its end, so what it ends with is the answer that it has alone
  have hanswer : result = c.answer tool start x := by
    have htask : task = ⟨.done result, none⟩ := sound.fits _ _ _ _ place
    rw [htask] at hrun
    rw [Coordinator.answer, ← hrun]
    rfl
  constructor
  case distinct =>
    rw [keeps.waiting, repos_of_moves sound place moves keeps]
    exact follows.distinct
  case waiting =>
    rw [keeps.waiting, site]
    exact follows.waiting
  case calls =>
    intro j y phase own h
    rw [moves] at h
    rw [site]
    split at h
    · obtain ⟨rfl, rfl, rfl⟩ := h
      exact ⟨hknown, alone, hsim, hrun, hplace⟩
    · exact follows.calls j y phase own h
  case begun =>
    intro y hy
    rw [keeps.waiting]
    rcases follows.begun y hy with h | ⟨j, phase, own, h⟩
    · exact .inl h
    · rcases moves.carries place h with ⟨rfl, hmoved⟩ | hstays
      · exact .inr ⟨i, _, _, hmoved⟩
      · exact .inr ⟨j, phase, own, hstays⟩
  case complete =>
    intro y hy
    rw [keeps.waiting, ended, keeps.results]
    rcases follows.complete y hy with h | ⟨j, phase, own, h, hopen⟩ | h | h
    · exact .inl h
    · rcases moves.carries place h with ⟨rfl, -⟩ | hstays
      · exact .inr (.inr (.inl (by simp [hanswer])))
      · exact .inr (.inl ⟨j, phase, own, hstays, hopen⟩)
    · exact .inr (.inr (.inl (List.mem_append_left _ h)))
    · exact .inr (.inr (.inr h))
  case ended =>
    intro y a h
    rw [ended] at h
    rcases List.mem_append.1 h with h | h
    · exact follows.ended y a h
    · obtain ⟨rfl, rfl⟩ := Prod.mk.inj (List.mem_singleton.1 h)
      exact ⟨((all y).1 hknown).1, hanswer⟩
  case results =>
    rw [keeps.results]
    exact follows.results
  case idle => exact fun h => absurd h (calls_ne_nil_of_at hat)

theorem collect {k : Nat} {name : String} {result : Except Failure String}
    (ended : b.ended[k]? = some (name, result)) :
    Follows c tool known start Sim names { b with
      ended := b.ended.eraseIdx k
      results := b.results.insert name result } := by
  have hperm := perm_eraseIdx ended
  obtain ⟨hname, hanswer⟩ := follows.ended name result (List.mem_of_getElem? ended)
  constructor
  case distinct => exact follows.distinct
  case waiting => exact follows.waiting
  case calls => exact follows.calls
  case begun => exact follows.begun
  case complete =>
    intro y hy
    simp only [NameMap.get?_insert]
    rcases follows.complete y hy with h | h | h | h
    · exact .inl h
    · exact .inr (.inl h)
    · rcases List.mem_cons.1 (hperm.mem_iff.2 h) with h | h
      · obtain ⟨rfl, hresult⟩ := Prod.mk.inj h
        exact .inr (.inr (.inr (by simp [← hresult])))
      · exact .inr (.inr (.inl h))
    · refine .inr (.inr (.inr ?_))
      split
      · rename_i heq
        rw [heq, hanswer]
      · exact h
  case ended => exact fun y a h => follows.ended y a (hperm.subset (List.mem_cons_of_mem _ h))
  case results =>
    intro y a h
    rw [NameMap.get?_insert] at h
    split at h
    · rename_i heq
      cases h
      exact heq ▸ ⟨hname, hanswer⟩
    · exact follows.results y a h
  case idle => exact follows.idle

end Follows

theorem Follows.step {move : BatchMove} (apart : Apart tool known c.sync start Sim)
    (all : ∀ x, known x ↔ x ∈ names ∧ c.contains x = true) (sound : b.Sound c)
    (follows : Follows c tool known start Sim names b) (h : Batch.step c tool b move = some b') :
    Follows c tool known start Sim names b' := by
  cases sound.change_of_step h with
  | refuse waiting unknown change => exact change ▸ follows.refuse all waiting unknown
  | begin waiting found change => exact change ▸ follows.begin sound all waiting found
  | advance place advance moves keeps ended => exact follows.advance apart sound place advance moves keeps ended
  | unlock place moves keeps site ended => exact follows.unlock sound place moves keeps site ended all
  | collect ended change => exact change ▸ follows.collect ended

variable {moves : List BatchMove}

theorem follows_of_run (apart : Apart tool known c.sync start Sim)
    (all : ∀ x, known x ↔ x ∈ names ∧ c.contains x = true) (distinct : names.Nodup)
    (run : runMoves (Batch.step c tool) (Batch.start c names start) moves = some b) :
    Follows c tool known start Sim names b :=
  runMoves_induction (motive := fun _ b => Follows c tool known start Sim names b)
    (follows_start apart all distinct) (fun _ _ _ _ past follows h => follows.step apart all (sound_of_run past) h) run

/-- A batch that is over has all the results that the synchronizations have alone, and each has left behind
what it leaves alone. -/
theorem Follows.of_over (follows : Follows c tool known start Sim names b) (sound : b.Sound c) (ends : b.Over) :
    b.results = c.answers tool start ∅ names ∧ (∀ x, known x → Apart.Done c tool start Sim b.site x) ∧
      ((∀ x, ¬known x) → b.site = start) := by
  obtain ⟨hwaiting, hended, hfinished⟩ := ends
  refine ⟨NameMap.ext_get? fun x => ?_, fun x hx => ?_, fun hnone => ?_⟩
  · rw [Coordinator.get?_answers]
    split
    · rename_i hname
      rcases follows.complete x hname with h | ⟨i, phase, task, hat, hopen⟩ | h | h
      · simp [hwaiting] at h
      · have := hfinished _ (List.mem_of_getElem? hat.1)
        simp [hopen] at this
      · simp [hended] at h
      · exact h
    · rename_i hname
      cases hget : b.results.get? x with
      | none => rfl
      | some a => exact absurd (follows.results x a hget).1 hname
  · rcases follows.begun x hx with h | ⟨i, phase, task, hat⟩
    · simp [hwaiting] at h
    · have hresult := hfinished _ (List.mem_of_getElem? hat.1)
      cases phase with
      | finished result =>
        obtain rfl : task = ⟨.done result, none⟩ := sound.fits _ _ _ _ hat
        obtain ⟨-, alone, hsim, hrun, -⟩ := follows.calls _ _ _ _ hat
        rw [Apart.Done, Coordinator.answer, ← hrun]
        exact hsim
      | _ => cases hresult
  · refine follows.idle (List.eq_nil_iff_forall_not_mem.2 fun call hcall => ?_)
    obtain ⟨i, hi⟩ := List.getElem?_of_mem hcall
    obtain ⟨task, hat⟩ := sound.exists_task hi
    exact hnone _ (follows.calls _ _ _ _ hat).1

end Batch

end CodeSearch.Sync
