import Mathlib.Data.List.NodupEquivFin
import CodeSearch.Proofs.Sync.Following

/-!
# Collecting results

What is collected when repositories have been synchronized, one after another or at once, whatever the tool does:
under each name a result with which a synchronization of its own ended, whatever becomes of the others. A name
that is given more than once is synchronized as often, and the result that is collected last stays. A name that
is given once has the one result of its synchronization.
-/

namespace CodeSearch

open Sync

/-- Each of some names has one result, with which one of its synchronizations ended. -/
structure Gathers (names : List String) (ends : String → Except Failure String → Prop)
    (results : NameMap (Except Failure String)) : Prop where
  contains_iff : ∀ name, results.contains name = true ↔ name ∈ names
  ends_of_get? : ∀ name result, results.get? name = some result → ends name result
  named : ∀ name result, ends name result → name ∈ names
  /-- Of a name that is given once there is no other result. -/
  once : ∀ name first second, names.count name = 1 → ends name first → ends name second → first = second

namespace Gathers

variable {names : List String} {ends : String → Except Failure String → Prop}
  {results : NameMap (Except Failure String)} {name : String} {result : Except Failure String}

theorem get?_iff (gathers : Gathers names ends results) (once : names.count name = 1) :
    results.get? name = some result ↔ ends name result := by
  refine ⟨gathers.ends_of_get? name result, fun hends => ?_⟩
  have hmem : name ∈ names := List.count_pos_iff.1 (once ▸ Nat.one_pos)
  obtain ⟨other, hother⟩ := NameMap.contains_iff.1 ((gathers.contains_iff name).2 hmem)
  rw [hother, gathers.once name other result once (gathers.ends_of_get? name other hother) hends]

theorem keys_perm (gathers : Gathers names ends results) : results.keys.Perm names.dedup := by
  rw [List.perm_ext_iff_of_nodup (NameMap.keys_nodup _) (List.nodup_dedup _)]
  intro name
  rw [NameMap.mem_keys, gathers.contains_iff, List.mem_dedup]

end Gathers

/-- Each of some names has one result, and these are the results of the synchronizations that ended. -/
structure Collects (names : List String) (ends : String → Except Failure String → Prop)
    (results : NameMap (Except Failure String)) : Prop where
  contains_iff : ∀ name, results.contains name = true ↔ name ∈ names
  get?_iff : ∀ name result, results.get? name = some result ↔ ends name result

namespace Collects

variable {names : List String} {ends : String → Except Failure String → Prop}
  {results : NameMap (Except Failure String)} {name : String}

theorem exists_iff (collects : Collects names ends results) : (∃ result, ends name result) ↔ name ∈ names := by
  rw [← collects.contains_iff, NameMap.contains_iff]
  simp only [collects.get?_iff]

theorem eq_of_ends {first second : Except Failure String} (collects : Collects names ends results)
    (h : ends name first) (h' : ends name second) : first = second :=
  Option.some.inj (((collects.get?_iff ..).2 h).symm.trans ((collects.get?_iff ..).2 h'))

end Collects

/-- When no name is given twice what is collected is all that there is. -/
theorem Gathers.collects {names : List String} {ends : String → Except Failure String → Prop}
    {results : NameMap (Except Failure String)} (gathers : Gathers names ends results) (distinct : names.Nodup) :
    Collects names ends results where
  contains_iff := gathers.contains_iff
  get?_iff name result :=
    ⟨gathers.ends_of_get? name result, fun h =>
      (gathers.get?_iff (List.count_eq_one_of_mem distinct (gathers.named name result h))).2 h⟩

/-! ## One after another -/

namespace Coordinator

variable {c : Coordinator VcsDriver} {tool : Tool} {site : Site} {results : NameMap (Except Failure String)}
  {name : String} {result first second : Except Failure String} {names : List String}

/-- The state after some repositories have been synchronized, one after another. -/
def siteAfter (c : Coordinator VcsDriver) (tool : Tool) (site : Site) (names : List String) : Site :=
  names.foldl (fun site name => ((c.sync name).run tool site).2) site

/-- The synchronization of a repository ends with a result when those before it are through. -/
def EndsInTurn (c : Coordinator VcsDriver) (tool : Tool) (site : Site) (names : List String) (name : String)
    (result : Except Failure String) : Prop :=
  ∃ before rest, names = before ++ name :: rest ∧ ((c.sync name).run tool (c.siteAfter tool site before)).1 = result

theorem endsInTurn_cons {first : String} : c.EndsInTurn tool site (first :: names) name result ↔
    (name = first ∧ ((c.sync first).run tool site).1 = result) ∨
      c.EndsInTurn tool ((c.sync first).run tool site).2 names name result := by
  constructor
  · rintro ⟨before, rest, hnames, hresult⟩
    cases before with
    | nil =>
      obtain ⟨rfl, rfl⟩ := List.cons.inj hnames
      exact .inl ⟨rfl, hresult⟩
    | cons other before =>
      obtain ⟨rfl, rfl⟩ := List.cons.inj hnames
      exact .inr ⟨before, rest, rfl, hresult⟩
  · rintro (⟨rfl, hresult⟩ | ⟨before, rest, rfl, hresult⟩)
    · exact ⟨[], names, rfl, hresult⟩
    · exact ⟨first :: before, rest, rfl, hresult⟩

theorem exists_endsInTurn_iff : (∃ result, c.EndsInTurn tool site names name result) ↔ name ∈ names := by
  rw [List.mem_iff_append]
  constructor
  · rintro ⟨_, before, rest, hnames, -⟩
    exact ⟨before, rest, hnames⟩
  · rintro ⟨before, rest, hnames⟩
    exact ⟨_, before, rest, hnames, rfl⟩

theorem mem_of_endsInTurn (ends : c.EndsInTurn tool site names name result) : name ∈ names :=
  exists_endsInTurn_iff.1 ⟨result, ends⟩

/-- A later result takes the place of an earlier one, and a name that is not given keeps what it had. -/
theorem get?_run_syncAfter_cases (c : Coordinator VcsDriver) (tool : Tool) (site : Site)
    (results : NameMap (Except Failure String)) (names : List String) (name : String) :
    (name ∉ names ∧ ((c.syncAfter results names).run tool site).1.get? name = results.get? name) ∨
      ∃ result, ((c.syncAfter results names).run tool site).1.get? name = some result ∧
        c.EndsInTurn tool site names name result := by
  induction names generalizing site results with
  | nil => exact .inl ⟨List.not_mem_nil, rfl⟩
  | cons other names ih =>
    rw [run_syncAfter_cons]
    rcases ih _ _ with ⟨hfresh, hkept⟩ | ⟨result, hget, hends⟩
    · rw [hkept, NameMap.get?_insert]
      by_cases hname : name = other
      · exact .inr ⟨_, if_pos hname, endsInTurn_cons.2 (.inl ⟨hname, rfl⟩)⟩
      · exact .inl ⟨by simp [hname, hfresh], if_neg hname⟩
    · exact .inr ⟨result, hget, endsInTurn_cons.2 (.inr hends)⟩

theorem eq_of_endsInTurn (once : names.count name ≤ 1) (h : c.EndsInTurn tool site names name first)
    (h' : c.EndsInTurn tool site names name second) : first = second := by
  induction names generalizing site with
  | nil => exact absurd (mem_of_endsInTurn h) List.not_mem_nil
  | cons other names ih =>
    rw [endsInTurn_cons] at h h'
    by_cases hname : name = other
    · subst hname
      have hfresh : name ∉ names := by
        rw [List.count_cons_self] at once
        exact List.count_eq_zero.1 (by omega)
      have hnone : ∀ result, ¬c.EndsInTurn tool ((c.sync name).run tool site).2 names name result :=
        fun _ ends => hfresh (mem_of_endsInTurn ends)
      obtain ⟨-, hfirst⟩ := h.resolve_right (hnone first)
      obtain ⟨-, hsecond⟩ := h'.resolve_right (hnone second)
      exact hfirst.symm.trans hsecond
    · rw [List.count_cons_of_ne (Ne.symm hname)] at once
      exact ih once (h.resolve_left fun h => hname h.1) (h'.resolve_left fun h => hname h.1)

theorem gathers_run_syncMany :
    Gathers names (c.EndsInTurn tool site names) ((c.syncMany names).run tool site).1 := by
  have hcases := get?_run_syncAfter_cases c tool site ∅ names
  refine ⟨fun name => ?_, fun name result hget => ?_, fun _ _ => mem_of_endsInTurn,
    fun name first second once => eq_of_endsInTurn once.le⟩
  · rw [NameMap.contains_iff, syncMany, ← syncAfter]
    rcases hcases name with ⟨hfresh, hkept⟩ | ⟨result, hget, hends⟩
    · simp [hkept, hfresh, NameMap.get?_empty]
    · exact iff_of_true ⟨result, hget⟩ (mem_of_endsInTurn hends)
  · rw [syncMany, ← syncAfter] at hget
    rcases hcases name with ⟨-, hkept⟩ | ⟨other, hother, hends⟩
    · rw [hkept, NameMap.get?_empty] at hget
      cases hget
    · cases hother.symm.trans hget
      exact hends

theorem collects_run_syncMany (distinct : names.Nodup) :
    Collects names (c.EndsInTurn tool site names) ((c.syncMany names).run tool site).1 :=
  gathers_run_syncMany.collects distinct

end Coordinator

/-! ## At once -/

namespace Sync.Batch

variable {c : Coordinator VcsDriver} {tool : Tool} {names : List String} {site : Site} {b b' : Batch} {i : Nat}
  {name repo : String} {result first second : Except Failure String} {old new : Phase} {task after : Task}

/-- The task of a repository has come to the end of its script, with a result. -/
def Ends (b : Batch) (name : String) (result : Except Failure String) : Prop :=
  ∃ i, b.At i name (.finished result) ⟨.done result, none⟩

/-- When a call moves on from where it has not ended, no other one ends. -/
theorem ends_moves_iff (place : b.At i repo old task) (moves : b.Moves b' i repo new after)
    (unfinished : old.result? = none) :
    b'.Ends name result ↔
      b.Ends name result ∨ name = repo ∧ new = .finished result ∧ after = ⟨.done result, none⟩ := by
  constructor
  · rintro ⟨j, hat⟩
    rw [moves] at hat
    split at hat
    · obtain ⟨hname, hnew, hafter⟩ := hat
      exact .inr ⟨hname, hnew.symm, hafter.symm⟩
    · exact .inl ⟨j, hat⟩
  · rintro (⟨j, hat⟩ | ⟨rfl, rfl, rfl⟩)
    · refine ⟨j, (moves ..).2 ?_⟩
      rw [if_neg]
      · exact hat
      · rintro rfl
        cases hat.1.symm.trans place.1
        cases unfinished
    · exact ⟨i, (moves ..).2 (by simp)⟩

/-- Every name is waiting or has as many tasks as it is given. What is collected, or about to be, is a result
of a task that has ended, and every name whose task has ended is there. -/
structure Gathering (names : List String) (b : Batch) : Prop where
  names : (b.waiting ++ b.machine.calls.map (·.repo)).Perm names
  sound : ∀ name result, (name, result) ∈ b.ended ∨ b.results.get? name = some result → b.Ends name result
  complete : ∀ name result, b.Ends name result → (∃ other, (name, other) ∈ b.ended) ∨ b.results.contains name = true

theorem gathering_start : (start c names site).Gathering names where
  names := by simp [start, Machine.start]
  sound name result := by simp [start, Machine.start, NameMap.get?_empty]
  complete name result h := by
    obtain ⟨i, hat⟩ := h
    simp [At, start, Machine.start] at hat

theorem eq_of_ends_of_count (single : (b.machine.calls.map (·.repo)).count name ≤ 1) (h : b.Ends name first)
    (h' : b.Ends name second) : first = second := by
  obtain ⟨i, hi, -⟩ := h
  obtain ⟨j, hj, -⟩ := h'
  have hrepo : ∀ {k result}, b.machine.calls[k]? = some ⟨name, .finished result⟩ →
      ∃ hk : k < (b.machine.calls.map (·.repo)).length, name = (b.machine.calls.map (·.repo)).get ⟨k, hk⟩ := by
    intro k result hk
    obtain ⟨hlt, heq⟩ := List.getElem?_eq_some_iff.1 hk
    exact ⟨by simpa using hlt, by simp [heq]⟩
  have hnot : ¬(b.machine.calls.map (·.repo)).Duplicate name := by
    rw [List.duplicate_iff_two_le_count]
    omega
  obtain ⟨hi', hni⟩ := hrepo hi
  obtain ⟨hj', hnj⟩ := hrepo hj
  rcases Nat.lt_trichotomy i j with hlt | rfl | hlt
  · exact absurd (List.duplicate_iff_exists_distinct_get.2 ⟨⟨i, hi'⟩, ⟨j, hj'⟩, hlt, hni, hnj⟩) hnot
  · cases hi.symm.trans hj
    rfl
  · exact absurd (List.duplicate_iff_exists_distinct_get.2 ⟨⟨j, hj'⟩, ⟨i, hi'⟩, hlt, hnj, hni⟩) hnot

namespace Gathering

variable (gathering : b.Gathering names)

include gathering

theorem mem_of_waiting {k : Nat} (waiting : b.waiting[k]? = some name) : name ∈ names :=
  gathering.names.mem_iff.1 (List.mem_append_left _ (List.mem_of_getElem? waiting))

theorem mem_of_at (place : b.At i repo old task) : repo ∈ names :=
  gathering.names.mem_iff.1 (List.mem_append_right _ (repo_mem_of_at place))

theorem begin (sound : b.Sound c) {k : Nat} {task : Task} (waiting : b.waiting[k]? = some name) :
    Gathering names { b with
      waiting := b.waiting.eraseIdx k
      machine := { b.machine with calls := b.machine.calls ++ [⟨name, .queued⟩] }
      tasks := b.tasks ++ [task] } := by
  have hends : ∀ other result, Batch.Ends { b with
      waiting := b.waiting.eraseIdx k
      machine := { b.machine with calls := b.machine.calls ++ [⟨name, .queued⟩] }
      tasks := b.tasks ++ [task] } other result ↔ b.Ends other result := by
    intro other result
    simp only [Ends, at_begin sound.length]
    simp
  refine ⟨?_, fun other result h => (hends ..).2 (gathering.sound other result h),
    fun other result h => gathering.complete other result ((hends ..).1 h)⟩
  rw [List.map_append, List.map_singleton, ← List.append_assoc]
  refine (List.perm_append_singleton ..).trans (.trans ?_ gathering.names)
  exact (perm_eraseIdx waiting).append_right _

theorem advance (sound : b.Sound c) (place : b.At i repo old task)
    (advance : Advance tool old task b.site new after b'.site) (moves : b.Moves b' i repo new after)
    (keeps : b.Keeps b') (ended : b'.ended = b.ended) : Gathering names b' := by
  obtain ⟨hold, hnew⟩ := Advance.result?_eq_none advance
  have hends : ∀ other result, b'.Ends other result ↔ b.Ends other result := by
    intro other result
    have hopen : new ≠ .finished result := by
      rintro rfl
      cases hnew
    rw [ends_moves_iff place moves hold]
    simp [hopen]
  constructor
  case names =>
    rw [keeps.waiting, repos_of_moves sound place moves keeps]
    exact gathering.names
  case sound =>
    intro other result h
    rw [ended, keeps.results] at h
    exact (hends ..).2 (gathering.sound other result h)
  case complete =>
    intro other result h
    rw [ended, keeps.results]
    exact gathering.complete other result ((hends ..).1 h)

theorem unlock (sound : b.Sound c) (place : b.At i repo (.leaving result) task)
    (moves : b.Moves b' i repo (.finished result) task) (keeps : b.Keeps b')
    (ended : b'.ended = b.ended ++ [(repo, result)]) : Gathering names b' := by
  obtain rfl : task = ⟨.done result, none⟩ := sound.fits _ _ _ _ place
  have hends : ∀ other answer, b'.Ends other answer ↔ b.Ends other answer ∨ other = repo ∧ answer = result := by
    intro other answer
    rw [ends_moves_iff place moves rfl]
    simp only [Phase.finished.injEq, Task.mk.injEq, Script.done.injEq, and_true, eq_comm (a := result), and_self]
  constructor
  case names =>
    rw [keeps.waiting, repos_of_moves sound place moves keeps]
    exact gathering.names
  case sound =>
    intro other answer h
    rw [ended, keeps.results, List.mem_append, List.mem_singleton, Prod.mk.injEq] at h
    rw [hends]
    rcases h with (h | h) | h
    · exact .inl (gathering.sound other answer (.inl h))
    · exact .inr h
    · exact .inl (gathering.sound other answer (.inr h))
  case complete =>
    intro other answer h
    rw [ended, keeps.results]
    rcases (hends ..).1 h with h | ⟨rfl, rfl⟩
    · refine (gathering.complete other answer h).imp_left ?_
      rintro ⟨earlier, hmem⟩
      exact ⟨earlier, List.mem_append_left _ hmem⟩
    · exact .inl ⟨answer, by simp⟩

theorem collect {k : Nat} (ended : b.ended[k]? = some (name, result)) :
    Gathering names { b with
      ended := b.ended.eraseIdx k
      results := b.results.insert name result } where
  names := gathering.names
  sound other answer h := by
    change b.Ends other answer
    rw [NameMap.get?_insert] at h
    rcases h with h | h
    · exact gathering.sound other answer (.inl (List.mem_of_mem_eraseIdx h))
    · split at h
      · rename_i hname
        cases h
        exact hname ▸ gathering.sound name result (.inl (List.mem_of_getElem? ended))
      · exact gathering.sound other answer (.inr h)
  complete other answer h := by
    rw [NameMap.contains_iff]
    simp only [NameMap.get?_insert]
    by_cases hname : other = name
    · exact .inr ⟨result, if_pos hname⟩
    · simp only [hname, if_false]
      rw [← NameMap.contains_iff]
      refine (gathering.complete other answer h).imp_left ?_
      rintro ⟨earlier, hmem⟩
      rcases List.mem_cons.1 ((perm_eraseIdx ended).mem_iff.2 hmem) with heq | hrest
      · exact absurd (congrArg Prod.fst heq) hname
      · exact ⟨earlier, hrest⟩

theorem step {move : BatchMove} (known : ∀ name ∈ names, c.contains name = true) (sound : b.Sound c)
    (h : Batch.step c tool b move = some b') : b'.Gathering names := by
  cases sound.change_of_step h with
  | refuse waiting unknown _ =>
    rw [known _ (gathering.mem_of_waiting waiting)] at unknown
    cases unknown
  | begin waiting _ change => exact change ▸ gathering.begin sound waiting
  | advance place advance moves keeps ended => exact gathering.advance sound place advance moves keeps ended
  | unlock place moves keeps _ ended => exact gathering.unlock sound place moves keeps ended
  | collect ended change => exact change ▸ gathering.collect ended

/-- When a batch is over, each of its names has a result with which a task of it ended. -/
theorem gathers (sound : b.Sound c) (finished : b.Over) : Gathers names b.Ends b.results := by
  obtain ⟨hwaiting, hended, hfinished⟩ := finished
  have hrepos : (b.machine.calls.map (·.repo)).Perm names := by
    have := gathering.names
    rwa [hwaiting, List.nil_append] at this
  refine ⟨fun name => ⟨fun h => ?_, fun h => ?_⟩, fun name result h => gathering.sound name result (.inr h),
    fun _ _ ⟨_, hat⟩ => gathering.mem_of_at hat,
    fun name first second once => eq_of_ends_of_count (hrepos.count_eq name ▸ once.le)⟩
  · obtain ⟨result, hget⟩ := NameMap.contains_iff.1 h
    obtain ⟨i, hat⟩ := gathering.sound name result (.inr hget)
    exact gathering.mem_of_at hat
  · obtain ⟨⟨_, phase⟩, hcall, rfl⟩ := List.mem_map.1 (hrepos.mem_iff.2 h)
    obtain ⟨i, hi⟩ := List.getElem?_of_mem hcall
    obtain ⟨task, hat⟩ := sound.exists_task hi
    have hresult := hfinished _ hcall
    cases phase with
    | finished result =>
      obtain rfl : task = ⟨.done result, none⟩ := sound.fits _ _ _ _ hat
      refine (gathering.complete _ result ⟨i, hat⟩).resolve_left ?_
      rintro ⟨other, hmem⟩
      rw [hended] at hmem
      cases hmem
    | _ => cases hresult

end Gathering

variable {moves : List BatchMove}

theorem gathering_of_run (known : ∀ name ∈ names, c.contains name = true)
    (run : runMoves (step c tool) (start c names site) moves = some b) : b.Gathering names :=
  runMoves_induction (motive := fun _ b => b.Gathering names) gathering_start
    (fun _ _ _ _ past gathering h => gathering.step known (sound_of_run past) h) run

theorem gathers_of_over (known : ∀ name ∈ names, c.contains name = true)
    (run : runMoves (step c tool) (start c names site) moves = some b) (finished : b.Over) :
    Gathers names b.Ends b.results :=
  (gathering_of_run known run).gathers (sound_of_run run) finished

theorem collects_of_over (distinct : names.Nodup) (known : ∀ name ∈ names, c.contains name = true)
    (run : runMoves (step c tool) (start c names site) moves = some b) (finished : b.Over) :
    Collects names b.Ends b.results :=
  (gathers_of_over known run finished).collects distinct

/-- A run is no longer than all its tasks together, and goes on until it is over. -/
theorem settles_of_run (available : 0 < c.permits)
    (within : ∀ name target, c.find name = .ok target → (Coordinator.syncTarget target).Within 8)
    (run : runMoves (step c tool) (start c names site) moves = some b) :
    moves.length ≤ 25 * names.length ∧ (¬b.Over → ∃ move b', step c tool b move = some b') := by
  have hlength := length_add_left_le within run
  exact ⟨by omega, (sound_of_run run).progress available⟩

theorem exists_over (c : Coordinator VcsDriver) (tool : Tool) (names : List String) (site : Site)
    (available : 0 < c.permits)
    (within : ∀ name target, c.find name = .ok target → (Coordinator.syncTarget target).Within 8) :
    ∃ moves b, runMoves (step c tool) (start c names site) moves = some b ∧ b.Over := by
  have hlong : ∀ n, (∃ moves b, runMoves (step c tool) (start c names site) moves = some b ∧ b.Over) ∨
      ∃ moves b, runMoves (step c tool) (start c names site) moves = some b ∧ moves.length = n := by
    intro n
    induction n with
    | zero => exact .inr ⟨[], _, rfl, rfl⟩
    | succ n ih =>
      rcases ih with h | ⟨moves, b, run, hlength⟩
      · exact .inl h
      · by_cases hover : b.Over
        · exact .inl ⟨moves, b, run, hover⟩
        · obtain ⟨move, b', hmove⟩ := (settles_of_run available within run).2 hover
          exact .inr ⟨moves ++ [move], b', runMoves_concat_eq_some.2 ⟨b, run, hmove⟩, by simp [hlength]⟩
  rcases hlong (25 * names.length + 1) with h | ⟨moves, b, run, hlength⟩
  · exact h
  · have hshort := (settles_of_run available within run).1
    omega

end Sync.Batch

end CodeSearch
