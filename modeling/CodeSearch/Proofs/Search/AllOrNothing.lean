import CodeSearch.Proofs.Access
import CodeSearch.Proofs.Search.FanOut
import Mathlib.Algebra.BigOperators.Group.Finset.Basic

/-!
# What a search over many repositories answers

The verdict in terms of the registry and the names that were asked for: names that are not served do not
count, an answer is complete or there is none, and which tasks came first decides no more than which failure
is reported.
-/

namespace CodeSearch

def TaskEnd.filesOpened : TaskEnd → Nat
  | .answered (.ok response) => response.filesOpened
  | _ => 0

namespace FanOut

open Finset in
/-- The result of a search for some names, where `endOf` tells how the search of each repository ends and
the tasks that have ended did so in the order of `arrived`. -/
structure Verdict {S : Type} (registry : Registry S) (names : List String) (endOf : String → TaskEnd)
    (arrived : List String) (result : Except Failure Aggregate) : Prop where
  ok_iff : (∃ sum, result = .ok sum) ↔
    ∀ name ∈ names, registry.contains name = true → ∃ response, endOf name = .answered (.ok response)
  results : ∀ sum, result = .ok sum → ∀ name response,
    sum.results.get? name = some response ↔ (name ∈ names ∧ registry.contains name = true) ∧
      endOf name = .answered (.ok response) ∧ response.matched ≠ []
  filesOpened : ∀ sum, result = .ok sum →
    sum.filesOpened = ∑ name ∈ names.toFinset with registry.contains name = true, (endOf name).filesOpened
  failed : (∃ name ∈ names, registry.contains name = true ∧ ∃ e, endOf name = .answered (.error e)) →
    ∃ e, result = .error e ∧ FirstFailure endOf arrived e
  lost : (∀ name ∈ names, registry.contains name = true → ∀ e, endOf name ≠ .answered (.error e)) →
    (∃ name ∈ names, registry.contains name = true ∧ endOf name = .lost) → result = .error lostTask

section

variable {S : Type} {registry : Registry S} {names arrived order : List String} {endOf : String → TaskEnd}
  {result : Except Failure Aggregate} {s : FanOut} {moves : List Move}

theorem mem_taken_iff {taken : List (String × SearchResponse)} (every : (taken.map (·.1)).Perm names)
    (right : ∀ answer ∈ taken, endOf answer.1 = .answered (.ok answer.2)) {name : String}
    {response : SearchResponse} :
    (name, response) ∈ taken ↔ name ∈ names ∧ endOf name = .answered (.ok response) := by
  constructor
  · intro hmem
    exact ⟨every.mem_iff.1 (List.mem_map_of_mem hmem), right _ hmem⟩
  · rintro ⟨hname, hend⟩
    obtain ⟨⟨other, taken'⟩, hmem, rfl⟩ := List.mem_map.1 (every.mem_iff.2 hname)
    cases (right _ hmem).symm.trans hend
    exact hmem

open Finset in
theorem sum_filesOpened {taken : List (String × SearchResponse)}
    (every : (taken.map (·.1)).Perm (registry.known names))
    (right : ∀ answer ∈ taken, endOf answer.1 = .answered (.ok answer.2)) :
    (taken.map (·.2.filesOpened)).sum =
      ∑ name ∈ names.toFinset with registry.contains name = true, (endOf name).filesOpened := by
  have hknown : names.toFinset.filter (fun name => registry.contains name = true) =
      (registry.known names).toFinset := by
    ext name
    simp [Registry.mem_known]
  calc (taken.map (·.2.filesOpened)).sum
      = ((taken.map (·.1)).map fun name => (endOf name).filesOpened).sum := by
        rw [List.map_map]
        congr 1
        refine List.map_congr_left fun answer hanswer => ?_
        simp [right answer hanswer, TaskEnd.filesOpened]
    _ = ((registry.known names).map fun name => (endOf name).filesOpened).sum :=
        (every.map _).sum_eq
    _ = _ := by rw [hknown, List.sum_toFinset _ (Registry.known_nodup registry names)]

/-- A search that ends as it may gives the verdict. By cases on how it ends. -/
theorem Concluded.verdict (h : Concluded endOf (registry.known names) arrived result)
    (came : ∀ name ∈ arrived, name ∈ registry.known names) :
    Verdict registry names endOf arrived result := by
  cases h with
  | all taken every right =>
    have hdistinct := every.nodup_iff.2 (Registry.known_nodup registry names)
    have hright : ∀ name ∈ names, registry.contains name = true →
        ∃ response, endOf name = .answered (.ok response) := by
      intro name hasked hserved
      have hname := every.mem_iff.2 (Registry.mem_known.2 ⟨hasked, hserved⟩)
      obtain ⟨answer, hanswer, rfl⟩ := List.mem_map.1 hname
      exact ⟨answer.2, right answer hanswer⟩
    refine ⟨⟨fun _ => hright, fun _ => ⟨_, rfl⟩⟩, ?_, ?_, ?_, ?_⟩
    · rintro _ ⟨⟩ name response
      rw [Aggregate.get?_total hdistinct, mem_taken_iff every right, Registry.mem_known, and_assoc]
    · rintro _ ⟨⟩
      rw [Aggregate.filesOpened_total, sum_filesOpened every right]
    · rintro ⟨name, hasked, hserved, e, hfailed⟩
      obtain ⟨response, hend⟩ := hright name hasked hserved
      cases hend.symm.trans hfailed
    · rintro - ⟨name, hasked, hserved, hlost⟩
      obtain ⟨response, hend⟩ := hright name hasked hserved
      cases hend.symm.trans hlost
  | failed first =>
    obtain ⟨name, harrived, hfailed⟩ := first.mem
    obtain ⟨hasked, hserved⟩ := Registry.mem_known.1 (came name harrived)
    refine ⟨⟨nofun, fun hright => ?_⟩, nofun, nofun, fun _ => ⟨_, rfl, first⟩, fun hnone => ?_⟩
    · obtain ⟨response, hend⟩ := hright name hasked hserved
      cases hend.symm.trans hfailed
    · exact absurd hfailed (hnone name hasked hserved _)
  | missing failed lost =>
    obtain ⟨name, hname, hlost⟩ := lost
    obtain ⟨hasked, hserved⟩ := Registry.mem_known.1 hname
    refine ⟨⟨nofun, fun hright => ?_⟩, nofun, nofun, ?_, fun _ _ => rfl⟩
    · obtain ⟨response, hend⟩ := hright name hasked hserved
      cases hend.symm.trans hlost
    · rintro ⟨other, hother, hserved, e, hfailed⟩
      exact absurd hfailed (failed other (Registry.mem_known.2 ⟨hother, hserved⟩) e)

/-- An answer does not depend on the order of the arrivals. -/
theorem Verdict.sum_unique {arrived' : List String} {sum sum' : Aggregate}
    (h : Verdict registry names endOf arrived (.ok sum))
    (h' : Verdict registry names endOf arrived' (.ok sum')) : sum = sum' := by
  have hresults : sum.results = sum'.results := by
    refine NameMap.ext_get? fun name => Option.ext fun response => ?_
    rw [h.results sum rfl, h'.results sum' rfl]
  have hfiles : sum.filesOpened = sum'.filesOpened := by
    rw [h.filesOpened sum rfl, h'.filesOpened sum' rfl]
  cases sum
  cases sum'
  cases hresults
  cases hfiles
  rfl

theorem verdict_of_run
    (run : runMoves (step endOf) (start (registry.known names)) moves = some s)
    (answered : s.result = some result) : Verdict registry names endOf (ended moves) result := by
  have sound := sound_of_run run
  exact (sound.answered result answered).verdict fun name hname =>
    sound.tasks.mem_iff.1 (List.mem_append_left _ hname)

/-! ## All or nothing -/

/-- What holds at every point of a search. -/
structure AllOrNothing (registry : Registry S) (names : List String) (endOf : String → TaskEnd)
    (moves : List Move) (s : FanOut) : Prop where
  verdict : ∀ result, s.result = some result → Verdict registry names endOf (ended moves) result
  /-- A task that ends does not wait, whether the caller has answered or not. -/
  never_waits : ∀ name ∈ s.running, (s.taskEnds name (endOf name)).isSome = true
  goes_on : s.result = none → ∃ move s', s.step endOf move = some s'
  /-- Every search comes to an end. -/
  length_le : moves.length ≤ 2 * (registry.known names).length + 1

end

def threeServed : Registry Unit :=
  .ofList (["a", "b", "c"].map fun name => (name, ⟨.ofUrl ("https://example.org/" ++ name), ()⟩))

def threeEnds : String → TaskEnd
  | "a" => .answered (.ok ⟨[⟨"f", []⟩], 1, 3, "1"⟩)
  | "b" => .answered (.error (.searchFailed "b"))
  | _ => .lost

end FanOut

end CodeSearch
