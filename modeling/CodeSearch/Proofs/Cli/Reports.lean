import CodeSearch.Cli.Sync

/-!
# What is reported of synchronizations

The report has an entry for each repository. It is printed with every entry, and the command fails if one of them
is a failure, with the number of these and of all entries.
-/

namespace CodeSearch.Cli.SyncReport

variable {report : SyncReport} {name revision : String} {color : Bool} {format : Format} {elapsed : Nat}

def failing (report : SyncReport) : List String := (NameMap.filter (fun _ result => !result.toBool) report).keys

theorem mem_failing_iff : name ∈ report.failing ↔ ∃ e, report.get? name = some (.error e) := by
  rw [failing, NameMap.mem_keys, NameMap.contains_iff]
  simp only [NameMap.get?_filter, Option.filter_eq_some_iff]
  constructor
  · rintro ⟨result, hget, hfailed⟩
    cases result with
    | error e => exact ⟨e, hget⟩
    | ok revision => cases hfailed
  · rintro ⟨e, hget⟩
    exact ⟨.error e, hget, rfl⟩

theorem failed_eq_length (report : SyncReport) : report.failed = report.failing.length := by
  rw [failed, failing, NameMap.values, NameMap.keys, NameMap.filter, List.filter_map, List.length_map, List.length_map]
  rfl

theorem failed_eq_zero_iff : report.failed = 0 ↔ report.failing = [] := by
  rw [failed_eq_length, List.length_eq_zero_iff]

theorem failing_ne_nil_iff : report.failing ≠ [] ↔ ∃ name e, report.get? name = some (.error e) := by
  simp only [← mem_failing_iff]
  exact ⟨List.exists_mem_of_ne_nil _, fun ⟨_, h⟩ => List.ne_nil_of_mem h⟩

def lines (color : Bool) (format : Format) (elapsed : Nat) (report : SyncReport) : List String :=
  match format with
  | .human => report.human color elapsed
  | .json => [(report.toJson elapsed).pretty]

theorem outcome_eq : report.outcome color format elapsed =
    if report.failed = 0 then .success (report.lines color format elapsed)
    else .failure color (report.lines color format elapsed) (.unsynced report.failed report.size) := rfl

theorem outcome_of_failing_eq_nil (h : report.failing = []) :
    (report.outcome color format elapsed).exit = 0 ∧ (report.outcome color format elapsed).stderr = [] := by
  rw [outcome_eq, if_pos (failed_eq_zero_iff.2 h)]
  exact ⟨rfl, rfl⟩

theorem outcome_of_failing_ne_nil (h : report.failing ≠ []) :
    (report.outcome color format elapsed).exit = 1 ∧
      (report.outcome color format elapsed).stderr = [Style.error.paint color "Error" ++ ": " ++
        (toString report.failing.length ++ " of " ++ toString report.size ++ " repositories failed to sync")] := by
  rw [outcome_eq, if_neg (mt failed_eq_zero_iff.1 h), ← failed_eq_length]
  exact ⟨rfl, rfl⟩

/-- How a command ends that prints a report of some number of repositories. -/
structure Tells (report : SyncReport) (total : Nat) : Prop where
  /-- It fails if a repository did, in either format. -/
  exit_iff : ∀ color format elapsed,
    (report.outcome color format elapsed).exit ≠ 0 ↔ ∃ name e, report.get? name = some (.error e)
  /-- Then it tells how many of how many failed. -/
  counted : ∃ failing : List String, failing.Nodup ∧
    (∀ name, name ∈ failing ↔ ∃ e, report.get? name = some (.error e)) ∧
    ∀ color format elapsed, failing ≠ [] → (report.outcome color format elapsed).exit = 1 ∧
      (report.outcome color format elapsed).stderr = [Style.error.paint color "Error" ++ ": " ++
        (toString failing.length ++ " of " ++ toString total ++ " repositories failed to sync")]

theorem exit_outcome_ne_zero_iff : (report.outcome color format elapsed).exit ≠ 0 ↔ report.failing ≠ [] := by
  by_cases h : report.failing = []
  · simp [outcome_of_failing_eq_nil h, h]
  · simp [outcome_of_failing_ne_nil h, h]

theorem tells (report : SyncReport) : report.Tells report.size where
  exit_iff _ _ _ := exit_outcome_ne_zero_iff.trans failing_ne_nil_iff
  counted :=
    ⟨report.failing, NameMap.keys_nodup _, fun _ => mem_failing_iff, fun _ _ _ h => outcome_of_failing_ne_nil h⟩

/-! ## What is printed -/

/-- Lines in a format show a repository with its revision. -/
def Shows (name revision : String) (color : Bool) : Format → List String → Prop
  | .human, lines => resultLine color name (.ok revision) ∈ lines
  | .json, lines => ∃ repos elapsed,
      lines = [(Json.record [("repos", .ofNameMap repos), ("duration_ms", elapsed)]).pretty] ∧
        repos.get? name = some (resultJson (.ok revision))

theorem stdout_outcome : (report.outcome color format elapsed).stdout = report.lines color format elapsed := by
  rw [outcome_eq]
  split <;> rfl

theorem shows_of_get? (h : report.get? name = some (.ok revision)) :
    Shows name revision color format (report.outcome color format elapsed).stdout := by
  rw [stdout_outcome]
  cases format with
  | human =>
    refine List.mem_append_left _ (List.mem_map.2 ⟨(name, .ok revision), ?_, rfl⟩)
    exact NameMap.get?_eq_some_iff.1 h
  | json =>
    refine ⟨_, _, rfl, ?_⟩
    rw [NameMap.get?_map, h]
    rfl

end CodeSearch.Cli.SyncReport
