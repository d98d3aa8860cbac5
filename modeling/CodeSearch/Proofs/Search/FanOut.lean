import CodeSearch.Proofs.Runs
import CodeSearch.Search.FanOut
import Mathlib.Algebra.GroupWithZero.Nat

/-!
# All or nothing

Tasks that end in any order, and a caller that listens at any speed. The caller answers the sum of all
answers or one failure: the first to arrive, else that a task was lost. No task ever waits for the caller.
-/

namespace CodeSearch

/-! ## Adding up -/

def Aggregate.total (taken : List (String × SearchResponse)) : Aggregate :=
  taken.foldl (fun sum answer => sum.add answer.1 answer.2) .empty

namespace Aggregate

theorem total_concat (taken : List (String × SearchResponse)) (answer : String × SearchResponse) :
    total (taken ++ [answer]) = (total taken).add answer.1 answer.2 := by
  simp [total]

theorem filesOpened_total (taken : List (String × SearchResponse)) :
    (total taken).filesOpened = (taken.map (·.2.filesOpened)).sum := by
  induction taken using List.reverseRecOn with
  | nil => rfl
  | append_singleton taken answer ih => simp [total_concat, add, ih]

/-- Each repository with a match has its own answer. -/
theorem get?_total {taken : List (String × SearchResponse)} (distinct : (taken.map (·.1)).Nodup)
    (name : String) (response : SearchResponse) :
    (total taken).results.get? name = some response ↔
      (name, response) ∈ taken ∧ response.matched ≠ [] := by
  induction taken using List.reverseRecOn with
  | nil => simp [total, empty, NameMap.get?_empty]
  | append_singleton taken answer ih =>
    obtain ⟨other, added⟩ := answer
    rw [List.map_append, List.nodup_append] at distinct
    obtain ⟨hdistinct, -, hnew⟩ := distinct
    have hother : ∀ r, (other, r) ∉ taken := fun r hr =>
      hnew other (List.mem_map_of_mem hr) other (by simp) rfl
    simp only [total_concat, add, List.mem_append, List.mem_singleton, Prod.mk.injEq]
    by_cases hempty : added.matched = []
    · simp only [hempty, List.isEmpty_nil, if_true, ih hdistinct]
      constructor
      · rintro ⟨hmem, hmatched⟩
        exact ⟨.inl hmem, hmatched⟩
      · rintro ⟨hmem | ⟨rfl, rfl⟩, hmatched⟩
        · exact ⟨hmem, hmatched⟩
        · exact absurd hempty hmatched
    · simp only [List.isEmpty_iff, hempty, if_false, NameMap.get?_insert]
      by_cases hname : name = other
      · subst hname
        simp only [if_true, Option.some.injEq, hother, false_or, true_and]
        constructor
        · rintro rfl
          exact ⟨rfl, hempty⟩
        · rintro ⟨rfl, -⟩
          rfl
      · simp [hname, ih hdistinct]

end Aggregate

namespace FanOut

variable {endOf : String → TaskEnd} {names arrived : List String} {s s' : FanOut} {move : Move}
  {moves : List Move} {name : String}

/-! ## Arrivals -/

def ended (moves : List Move) : List String :=
  moves.filterMap fun
    | .ends name => some name
    | .receive => none

def answers (endOf : String → TaskEnd) (names : List String) :
    List (String × Except Failure SearchResponse) :=
  names.filterMap fun name =>
    match endOf name with
    | .answered answer => some (name, answer)
    | .lost => none

@[simp] theorem ended_concat_ends : ended (moves ++ [.ends name]) = ended moves ++ [name] := by
  simp [ended]

@[simp] theorem ended_concat_receive : ended (moves ++ [.receive]) = ended moves := by
  simp [ended]

theorem answers_concat_answered {answer : Except Failure SearchResponse}
    (h : endOf name = .answered answer) :
    answers endOf (names ++ [name]) = answers endOf names ++ [(name, answer)] := by
  simp [answers, h]

theorem answers_concat_lost (h : endOf name = .lost) :
    answers endOf (names ++ [name]) = answers endOf names := by
  simp [answers, h]

theorem mem_answers {answer : Except Failure SearchResponse} :
    (name, answer) ∈ answers endOf names ↔ name ∈ names ∧ endOf name = .answered answer := by
  simp only [answers, List.mem_filterMap]
  constructor
  · rintro ⟨other, hmem, h⟩
    split at h <;> cases h
    exact ⟨hmem, ‹_›⟩
  · rintro ⟨hmem, h⟩
    exact ⟨name, hmem, by simp [h]⟩

theorem names_answers (endOf : String → TaskEnd) (names : List String) :
    ((answers endOf names).map (·.1)).Sublist names := by
  induction names with
  | nil => simp [answers]
  | cons name names ih =>
    cases h : endOf name with
    | answered answer => simpa [answers, h] using ih
    | lost => simpa [answers, h] using ih.cons name

theorem length_answers_le (endOf : String → TaskEnd) (names : List String) :
    (answers endOf names).length ≤ names.length :=
  List.length_filterMap_le _ _

theorem length_answers (h : ∀ name ∈ names, endOf name ≠ .lost) :
    (answers endOf names).length = names.length := by
  induction names with
  | nil => rfl
  | cons name names ih =>
    have hrest := ih fun other hother => h other (List.mem_cons_of_mem _ hother)
    cases hname : endOf name with
    | answered answer => simpa [answers, hname] using hrest
    | lost => exact absurd hname (h name List.mem_cons_self)

/-! ## How a search may end -/

def FirstFailure (endOf : String → TaskEnd) (arrived : List String) (e : Failure) : Prop :=
  ∃ before name after, arrived = before ++ name :: after ∧ endOf name = .answered (.error e) ∧
    ∀ other ∈ before, ∀ e', endOf other ≠ .answered (.error e')

theorem FirstFailure.concat {e : Failure} (h : FirstFailure endOf arrived e) (name : String) :
    FirstFailure endOf (arrived ++ [name]) e := by
  obtain ⟨before, first, after, rfl, hfirst, hbefore⟩ := h
  exact ⟨before, first, after ++ [name], by simp, hfirst, hbefore⟩

theorem FirstFailure.mem {e : Failure} (h : FirstFailure endOf arrived e) :
    ∃ name ∈ arrived, endOf name = .answered (.error e) := by
  obtain ⟨before, name, after, rfl, hname, -⟩ := h
  exact ⟨name, by simp, hname⟩

/-- What the caller may answer for its tasks, in view of those that have ended. -/
inductive Concluded (endOf : String → TaskEnd) (names arrived : List String) :
    Except Failure Aggregate → Prop
  | all (taken : List (String × SearchResponse)) (every : (taken.map (·.1)).Perm names)
      (right : ∀ answer ∈ taken, endOf answer.1 = .answered (.ok answer.2)) :
      Concluded endOf names arrived (.ok (.total taken))
  | failed {e : Failure} (first : FirstFailure endOf arrived e) :
      Concluded endOf names arrived (.error e)
  | missing (failed : ∀ name ∈ names, ∀ e, endOf name ≠ .answered (.error e))
      (lost : ∃ name ∈ names, endOf name = .lost) : Concluded endOf names arrived (.error lostTask)

theorem Concluded.concat {result : Except Failure Aggregate}
    (h : Concluded endOf names arrived result) (name : String) :
    Concluded endOf names (arrived ++ [name]) result := by
  cases h with
  | all taken every right => exact .all taken every right
  | failed first => exact .failed (first.concat name)
  | missing failed lost => exact .missing failed lost

/-! ## The invariant -/

/-- As long as the caller listens: the answers that it took were all right and their sum is what it has, the
others wait for it in the order of their arrival, and it knows how many are due. -/
def Listens (endOf : String → TaskEnd) (names arrived : List String) (s : FanOut) : Prop :=
  ∃ taken : List (String × SearchResponse),
    answers endOf arrived = taken.map (fun answer => (answer.1, .ok answer.2)) ++ s.handed ∧
      s.sum = .total taken ∧ s.due + taken.length = names.length

structure Sound (endOf : String → TaskEnd) (names : List String) (moves : List Move) (s : FanOut) :
    Prop where
  tasks : (ended moves ++ s.running).Perm names
  room : names.length ≤ s.room
  listening : s.result = none → Listens endOf names (ended moves) s
  answered : ∀ result, s.result = some result → Concluded endOf names (ended moves) result

theorem sound_start (endOf : String → TaskEnd) (names : List String) :
    Sound endOf names [] (start names) where
  tasks := .refl names
  room := Nat.le_max_left _ 1
  listening _ := ⟨[], rfl, rfl, rfl⟩
  answered result h := by simp [start] at h

theorem Sound.length_ended (sound : Sound endOf names moves s) :
    (ended moves).length + s.running.length = names.length := by
  rw [← List.length_append]
  exact sound.tasks.length_eq

/-- There is room for the answer of every task that has not ended. -/
theorem Sound.length_handed_lt (sound : Sound endOf names moves s) (listening : s.result = none)
    (running : name ∈ s.running) : s.handed.length < s.room := by
  obtain ⟨taken, htaken, -, -⟩ := sound.listening listening
  have hanswers := length_answers_le endOf (ended moves)
  rw [htaken, List.length_append, List.length_map] at hanswers
  have hended := sound.length_ended
  have hrunning := List.length_pos_of_mem running
  have hroom := sound.room
  omega

/-- A task that ends never waits, whether the caller still listens or not. -/
theorem Sound.taskEnds_isSome (sound : Sound endOf names moves s) (running : name ∈ s.running)
    (ending : TaskEnd) : (s.taskEnds name ending).isSome = true := by
  unfold taskEnds
  rw [if_pos (by simpa using running)]
  cases ending with
  | lost => rfl
  | answered answer =>
    cases hresult : s.result with
    | some result => simp
    | none => simp [sound.length_handed_lt hresult running]

theorem Sound.tasks_ends (sound : Sound endOf names moves s) (running : name ∈ s.running) :
    (ended (moves ++ [.ends name]) ++ s.running.erase name).Perm names := by
  rw [ended_concat_ends, List.append_assoc, List.singleton_append]
  exact ((List.perm_cons_erase running).symm.append_left _).trans sound.tasks

/-- The end of a task puts its answer, if there is one, behind the others. -/
theorem Sound.ends (sound : Sound endOf names moves s) (h : s.taskEnds name (endOf name) = some s') :
    Sound endOf names (moves ++ [.ends name]) s' := by
  unfold taskEnds at h
  split at h
  case isFalse => cases h
  case isTrue hrunning =>
    have htasks := sound.tasks_ends (by simpa using hrunning)
    have hlater : ∀ result, s.result = some result →
        Concluded endOf names (ended (moves ++ [.ends name])) result := by
      intro result hresult
      rw [ended_concat_ends]
      exact (sound.answered result hresult).concat name
    cases hend : endOf name with
    | lost =>
      simp only [hend, Option.some.injEq] at h
      subst h
      refine ⟨htasks, sound.room, ?_, hlater⟩
      intro hresult
      obtain ⟨taken, htaken, hsum, hdue⟩ := sound.listening hresult
      exact ⟨taken, by rw [ended_concat_ends, answers_concat_lost hend, htaken], hsum, hdue⟩
    | answered answer =>
      simp only [hend] at h
      split at h
      · rename_i hsome
        cases h
        refine ⟨htasks, sound.room, fun hnone => ?_, hlater⟩
        rw [show s.result = none from hnone] at hsome
        cases hsome
      · split at h <;> cases h
        refine ⟨htasks, sound.room, ?_, hlater⟩
        intro hresult
        obtain ⟨taken, htaken, hsum, hdue⟩ := sound.listening hresult
        refine ⟨taken, ?_, hsum, hdue⟩
        rw [ended_concat_ends, answers_concat_answered hend, htaken, List.append_assoc]

/-- When no answer is due all tasks were right. -/
theorem Sound.all_of_due (sound : Sound endOf names moves s) (listening : s.result = none)
    (due : s.due = 0) : Concluded endOf names (ended moves) (.ok s.sum) := by
  obtain ⟨taken, htaken, hsum, hdue⟩ := sound.listening listening
  -- as many answers were taken as there are tasks, so no task runs and no answer is left
  have hlength := congrArg List.length htaken
  rw [List.length_append, List.length_map] at hlength
  have hended := sound.length_ended
  have hanswers := length_answers_le endOf (ended moves)
  have hnames : (answers endOf (ended moves)).map (·.1) = ended moves := by
    refine (names_answers endOf (ended moves)).eq_of_length ?_
    rw [List.length_map]
    omega
  rw [List.eq_nil_of_length_eq_zero (show s.handed.length = 0 by omega), List.append_nil] at htaken
  have htasks := sound.tasks
  rw [List.eq_nil_of_length_eq_zero (show s.running.length = 0 by omega), List.append_nil] at htasks
  rw [hsum]
  refine .all taken ?_ ?_
  · rw [← hnames, htaken, List.map_map] at htasks
    exact htasks
  · rintro ⟨name, response⟩ hmem
    have hanswer : (name, .ok response) ∈ answers endOf (ended moves) := by
      rw [htaken]
      exact List.mem_map.2 ⟨_, hmem, rfl⟩
    exact (mem_answers.1 hanswer).2

/-- A failure that is taken is the first that arrived. -/
theorem Sound.first_of_handed (sound : Sound endOf names moves s) (listening : s.result = none)
    {e : Failure} {rest : List (String × Except Failure SearchResponse)}
    (handed : s.handed = (name, .error e) :: rest) : FirstFailure endOf (ended moves) e := by
  obtain ⟨taken, htaken, -, -⟩ := sound.listening listening
  rw [handed, answers, List.filterMap_eq_append_iff] at htaken
  obtain ⟨before, others, hsplit, hbefore, hothers⟩ := htaken
  obtain ⟨lost, first, after, rfl, hlost, hfirst, -⟩ := List.filterMap_eq_cons_iff.1 hothers
  split at hfirst <;> cases hfirst
  rename_i hname
  refine ⟨before ++ lost, name, after, by simpa using hsplit, hname, ?_⟩
  intro other hother e' hfailed
  rcases List.mem_append.1 hother with hother | hother
  · have hmem : (other, .error e') ∈ answers endOf before := mem_answers.2 ⟨hother, hfailed⟩
    rw [answers, hbefore] at hmem
    obtain ⟨answer, -, hanswer⟩ := List.mem_map.1 hmem
    cases (Prod.mk.inj hanswer).2
  · have := hlost other hother
    simp [hfailed] at this

/-- When no task runs and nothing is handed off while an answer is due, a task was lost. -/
theorem Sound.missing_of_due (sound : Sound endOf names moves s) (listening : s.result = none)
    (due : 0 < s.due) (handed : s.handed = []) (running : s.running = []) :
    Concluded endOf names (ended moves) (.error lostTask) := by
  obtain ⟨taken, htaken, -, hdue⟩ := sound.listening listening
  rw [handed, List.append_nil] at htaken
  have htasks := sound.tasks
  rw [running, List.append_nil] at htasks
  refine .missing ?_ ?_
  · intro name hname e hfailed
    have hmem : (name, .error e) ∈ answers endOf (ended moves) :=
      mem_answers.2 ⟨htasks.mem_iff.2 hname, hfailed⟩
    rw [htaken] at hmem
    obtain ⟨answer, -, hanswer⟩ := List.mem_map.1 hmem
    cases (Prod.mk.inj hanswer).2
  · -- otherwise there would be an answer of every task, and none of them due
    refine Classical.byContradiction fun hnone => ?_
    have hlength : (answers endOf (ended moves)).length = (ended moves).length :=
      length_answers fun name hname hlost => hnone ⟨name, htasks.mem_iff.1 hname, hlost⟩
    rw [htaken, List.length_map, htasks.length_eq] at hlength
    omega

/-- The caller takes what arrived first, or has its answer. -/
theorem Sound.receive (sound : Sound endOf names moves s) (h : s.receive = some s') :
    Sound endOf names (moves ++ [.receive]) s' := by
  unfold FanOut.receive at h
  split at h
  · cases h
  · rename_i listening due
    cases h
    refine ⟨by simpa using sound.tasks, sound.room, nofun, ?_⟩
    rintro _ ⟨⟩
    simpa using sound.all_of_due listening due
  · rename_i listening due handed
    cases h
    refine ⟨by simpa using sound.tasks, sound.room, nofun, ?_⟩
    rintro _ ⟨⟩
    simpa using Concluded.failed (sound.first_of_handed listening handed)
  · rename_i left name response rest listening due handed
    cases h
    refine ⟨by simpa using sound.tasks, sound.room, fun _ => ?_, fun result hresult => ?_⟩
    · obtain ⟨taken, htaken, hsum, hlength⟩ := sound.listening listening
      refine ⟨taken ++ [(name, response)], ?_, ?_, ?_⟩
      · simp [htaken, handed]
      · rw [Aggregate.total_concat, hsum]
      · show left + (taken ++ [(name, response)]).length = names.length
        rw [List.length_append, List.length_singleton]
        omega
    · rw [show s.result = some result from hresult] at listening
      cases listening
  · rename_i listening due handed
    split at h <;> cases h
    rename_i running
    refine ⟨by simpa using sound.tasks, sound.room, nofun, ?_⟩
    rintro _ ⟨⟩
    simpa using sound.missing_of_due listening (due ▸ Nat.succ_pos _) handed (by simpa using running)

theorem sound_of_run (run : runMoves (step endOf) (start names) moves = some s) :
    Sound endOf names moves s :=
  runMoves_induction (motive := Sound endOf names) (sound_start endOf names)
    (fun _ _ move _ _ hsound h => by
      cases move with
      | ends name => exact hsound.ends h
      | receive => exact hsound.receive h) run

/-! ## Progress -/

/-- The caller can go on unless it waits for a task that runs. -/
theorem receive_isSome (listening : s.result = none) (running : s.running = []) :
    s.receive.isSome = true := by
  unfold FanOut.receive
  split
  · rename_i answered
    cases listening.symm.trans answered
  · rfl
  · rfl
  · rfl
  · rw [running]
    rfl

theorem Sound.goes_on (sound : Sound endOf names moves s) (listening : s.result = none) :
    ∃ move s', s.step endOf move = some s' := by
  cases hrunning : s.running with
  | nil => exact ⟨.receive, Option.isSome_iff_exists.1 (receive_isSome listening hrunning)⟩
  | cons name rest =>
    have hmem : name ∈ s.running := by simp [hrunning]
    exact ⟨.ends name, Option.isSome_iff_exists.1 (sound.taskEnds_isSome hmem (endOf name))⟩

/-- An upper bound of the moves that are left. -/
def work (s : FanOut) : Nat := s.running.length + if s.result.isSome then 0 else s.due + 1

theorem work_taskEnds {ending : TaskEnd} (h : s.taskEnds name ending = some s') : s'.work < s.work := by
  unfold taskEnds at h
  split at h
  case isFalse => cases h
  case isTrue hrunning =>
    have hmem : name ∈ s.running := by simpa using hrunning
    have hlength := List.length_erase_of_mem hmem
    have hpos := List.length_pos_of_mem hmem
    cases ending with
    | lost =>
      cases h
      simp only [work]
      omega
    | answered answer =>
      simp only at h
      split at h
      · cases h
        simp only [work]
        omega
      · split at h <;> cases h
        simp only [work]
        omega

/-- A caller that goes on has answered afterwards or has less to wait for. -/
theorem receive_spec (h : s.receive = some s') :
    s.result = none ∧ s'.running = s.running ∧ (s'.result.isSome = true ∨ s'.due < s.due) := by
  unfold FanOut.receive at h
  split at h
  · cases h
  · rename_i listening due
    cases h
    exact ⟨listening, rfl, .inl rfl⟩
  · rename_i listening due handed
    cases h
    exact ⟨listening, rfl, .inl rfl⟩
  · rename_i listening due handed
    cases h
    exact ⟨listening, rfl, .inr (due ▸ Nat.lt_succ_self _)⟩
  · rename_i listening due handed
    split at h <;> cases h
    exact ⟨listening, rfl, .inl rfl⟩

theorem work_receive (h : s.receive = some s') : s'.work < s.work := by
  obtain ⟨listening, hrunning, hanswered | hdue⟩ := receive_spec h
  · simp [work, listening, hrunning, hanswered]
  · simp only [work, listening, hrunning]
    split
    · simp
    · simpa using hdue

theorem work_step (h : s.step endOf move = some s') : s'.work < s.work := by
  cases move with
  | ends name => exact work_taskEnds h
  | receive => exact work_receive h

/-- Every run comes to an end. -/
theorem length_le_of_run (run : runMoves (step endOf) (start names) moves = some s) :
    moves.length + s.work ≤ 2 * names.length + 1 := by
  refine runMoves_induction
    (motive := fun past t => past.length + t.work ≤ 2 * names.length + 1) ?_ ?_ run
  · simp [work, start]
    omega
  · intro past t move u _ ih h
    have := work_step h
    rw [List.length_append, List.length_singleton]
    omega

/-! ## A caller that is quicker than the tasks -/

theorem runMoves_settle (endOf : String → TaskEnd) (fuel : Nat) (s : FanOut) :
    ∃ more, runMoves (step endOf) s more = some (s.settle fuel) ∧ ended more = [] := by
  induction fuel generalizing s with
  | zero => exact ⟨[], rfl, rfl⟩
  | succ fuel ih =>
    unfold settle
    cases h : s.receive with
    | none => exact ⟨[], rfl, rfl⟩
    | some t =>
      obtain ⟨more, hmore, hended⟩ := ih t
      exact ⟨.receive :: more, by simp [step, h, hmore], by simpa [ended] using hended⟩

theorem settle_of_stuck {fuel : Nat} (h : s.receive = none) : s.settle fuel = s := by
  cases fuel with
  | zero => rfl
  | succ fuel => simp [settle, h]

theorem receive_of_answered (h : s.result.isSome = true) : s.receive = none := by
  obtain ⟨result, hresult⟩ := Option.isSome_iff_exists.1 h
  simp [FanOut.receive, hresult]

theorem receive_settle {fuel : Nat} (s : FanOut) (enough : s.due < fuel) :
    (s.settle fuel).receive = none := by
  induction fuel generalizing s with
  | zero => omega
  | succ fuel ih =>
    unfold settle
    cases h : s.receive with
    | none => exact h
    | some t =>
      obtain ⟨-, -, hanswered | hdue⟩ := receive_spec h
      · have hstuck := receive_of_answered hanswered
        simpa [settle_of_stuck hstuck] using hstuck
      · exact ih t (by omega)

/-- A task that ends while the caller listens makes a run, after which the caller can do nothing more. -/
theorem exists_run_hear (h : (s.taskEnds name (endOf name)).isSome = true) :
    ∃ more, ended more = [name] ∧ runMoves (step endOf) s more = some (s.hear name (endOf name)) ∧
      (s.hear name (endOf name)).receive = none := by
  obtain ⟨t, ht⟩ := Option.isSome_iff_exists.1 h
  obtain ⟨more, hmore, hended⟩ := runMoves_settle endOf (t.due + 1) t
  have hhear : s.hear name (endOf name) = t.settle (t.due + 1) := by simp [hear, ht]
  rw [hhear]
  refine ⟨.ends name :: more, ?_, by simp [step, ht, hmore], receive_settle t (Nat.lt_succ_self _)⟩
  simpa [ended] using hended

theorem ended_append (moves more : List Move) : ended (moves ++ more) = ended moves ++ ended more :=
  List.filterMap_append

/-- So do all tasks that are left, in any order. -/
theorem exists_run_hears {order : List String} {past : List Move}
    (run : runMoves (step endOf) (start names) past = some s)
    (left : (ended past ++ order).Perm names) (stuck : s.receive = none) :
    ∃ more t, ended more = order ∧ runMoves (step endOf) s more = some t ∧ t.receive = none ∧
      order.foldl (fun s name => s.hear name (endOf name)) s = t := by
  induction order generalizing s past with
  | nil => exact ⟨[], s, rfl, rfl, stuck, rfl⟩
  | cons name rest ih =>
    have sound := sound_of_run run
    have hrunning : name ∈ s.running := by
      have hperm := (List.perm_append_left_iff _).1 (left.trans sound.tasks.symm)
      exact hperm.mem_iff.1 List.mem_cons_self
    obtain ⟨first, hfirst, hrun, hstuck⟩ := exists_run_hear (sound.taskEnds_isSome hrunning (endOf name))
    have hleft : (ended (past ++ first) ++ rest).Perm names := by
      simpa [ended_append, hfirst] using left
    obtain ⟨more, t, hended, hmore, ht, hfold⟩ := ih (runMoves_trans run hrun) hleft hstuck
    exact ⟨first ++ more, t, by simp [ended_append, hfirst, hended], runMoves_trans hrun hmore, ht, hfold⟩

/-- The answer of a caller that is quicker than the tasks is that of a run. -/
theorem exists_run_searchAll {order : List String} (endOf : String → TaskEnd) (all : order.Perm names) :
    ∃ moves s, ended moves = order ∧ runMoves (step endOf) (start names) moves = some s ∧
      s.result = some (searchAll names (order.map fun name => (name, endOf name))) := by
  obtain ⟨first, hfirst, hended⟩ := runMoves_settle endOf (names.length + 1) (start names)
  have hstuck := receive_settle (start names) (Nat.lt_succ_self names.length)
  obtain ⟨more, t, hmore, hrun, ht, hfold⟩ :=
    exists_run_hears hfirst (by simpa [hended] using all) hstuck
  have run := runMoves_trans hfirst hrun
  have htasks := (sound_of_run run).tasks
  have hnone : t.running = [] := by
    rw [ended_append, hended, hmore, List.nil_append] at htasks
    have hlength := (htasks.trans all.symm).length_eq
    rw [List.length_append] at hlength
    exact List.eq_nil_of_length_eq_zero (by omega)
  refine ⟨first ++ more, t, by simp [ended_append, hended, hmore], run, ?_⟩
  have hlisten : (start names).listen (order.map fun name => (name, endOf name)) = t := by
    rw [listen, List.foldl_map]
    exact hfold
  rw [searchAll, hlisten]
  cases hresult : t.result with
  | some result => rfl
  | none =>
    have := receive_isSome hresult hnone
    rw [ht] at this
    cases this

end FanOut

end CodeSearch
