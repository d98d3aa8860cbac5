import Mathlib.Data.List.Induction

/-!
# Runs

Moves made one after another, each of which has to be open when its turn comes. What one move keeps, a run
keeps; a statement about a run may look back at the moves that led to its end.
-/

namespace CodeSearch

def runMoves {σ μ : Type} (step : σ → μ → Option σ) : σ → List μ → Option σ
  | s, [] => some s
  | s, move :: moves => (step s move).bind fun s => runMoves step s moves

variable {σ μ : Type} {step : σ → μ → Option σ} {s t u : σ} {moves more : List μ} {move : μ}

@[simp] theorem runMoves_nil : runMoves step s [] = some s := rfl

@[simp] theorem runMoves_cons :
    runMoves step s (move :: moves) = (step s move).bind fun s => runMoves step s moves := rfl

theorem runMoves_append :
    runMoves step s (moves ++ more) = (runMoves step s moves).bind fun t => runMoves step t more := by
  induction moves generalizing s with
  | nil => rfl
  | cons move moves ih =>
    rw [List.cons_append, runMoves_cons, runMoves_cons, Option.bind_assoc]
    cases step s move with
    | none => rfl
    | some t => exact ih

theorem runMoves_trans (first : runMoves step s moves = some t) (second : runMoves step t more = some u) :
    runMoves step s (moves ++ more) = some u := by
  rw [runMoves_append, first]
  exact second

theorem runMoves_concat :
    runMoves step s (moves ++ [move]) = (runMoves step s moves).bind fun t => step t move := by
  rw [runMoves_append]
  cases runMoves step s moves with
  | none => rfl
  | some t => simp

theorem runMoves_concat_eq_some :
    runMoves step s (moves ++ [move]) = some u ↔
      ∃ t, runMoves step s moves = some t ∧ step t move = some u := by
  rw [runMoves_concat, Option.bind_eq_some_iff]

/-- What holds at the start and is kept by each further move, in view of the moves before it, holds at the
end of a run. -/
theorem runMoves_induction {motive : List μ → σ → Prop} (start : motive [] s)
    (next : ∀ past t move u, runMoves step s past = some t → motive past t → step t move = some u →
      motive (past ++ [move]) u)
    (run : runMoves step s moves = some t) : motive moves t := by
  induction moves using List.reverseRecOn generalizing t with
  | nil =>
    cases run
    exact start
  | append_singleton past move ih =>
    obtain ⟨middle, hpast, hmove⟩ := runMoves_concat_eq_some.1 run
    exact next past middle move t hpast (ih hpast) hmove

/-- What one move keeps, a run keeps. -/
theorem runMoves_keeps {motive : σ → Prop} (start : motive s)
    (next : ∀ t move u, motive t → step t move = some u → motive u)
    (run : runMoves step s moves = some t) : motive t :=
  runMoves_induction (motive := fun _ => motive) start
    (fun _ middle move after _ hkept hmove => next middle move after hkept hmove) run

/-- What is seen of the moves of a run, each together with the state before it. -/
def observed {σ μ α : Type} (step : σ → μ → Option σ) (see : σ → μ → Option α) : σ → List μ → List α
  | _, [] => []
  | s, move :: moves =>
    (see s move).toList ++ ((step s move).map fun t => observed step see t moves).getD []

theorem observed_concat {α : Type} {see : σ → μ → Option α} (run : runMoves step s moves = some t) :
    observed step see s (moves ++ [move]) = observed step see s moves ++ (see t move).toList := by
  induction moves generalizing s with
  | nil =>
    cases run
    cases hmove : step t move <;> simp [observed, hmove]
  | cons first moves ih =>
    obtain ⟨middle, hfirst, hrest⟩ := Option.bind_eq_some_iff.1 run
    simp [observed, hfirst, ih hrest]

/-- Where only moves of one kind show something, no more is seen than there are such moves. -/
theorem length_observed_le {α : Type} {see : σ → μ → Option α} {kind : μ → Bool}
    (only : ∀ s move, (see s move).isSome = true → kind move = true) :
    (observed step see s moves).length ≤ moves.countP kind := by
  induction moves generalizing s with
  | nil => exact Nat.le_refl _
  | cons move moves ih =>
    have hrest : (((step s move).map fun t => observed step see t moves).getD []).length ≤
        moves.countP kind := by
      cases step s move with
      | none => exact Nat.zero_le _
      | some t => exact ih
    have hfirst : (see s move).toList.length ≤ if kind move = true then 1 else 0 := by
      cases hsee : see s move with
      | none => exact Nat.zero_le _
      | some a =>
        rw [if_pos (only s move (by rw [hsee]; rfl))]
        exact Nat.le_refl 1
    rw [observed, List.length_append, List.countP_cons]
    omega

/-- Something holds at every point of a run, its start and its end included. -/
def Throughout {σ μ : Type} (step : σ → μ → Option σ) (s : σ) (moves : List μ) (holds : σ → Prop) :
    Prop :=
  ∀ past t, past <+: moves → runMoves step s past = some t → holds t

theorem throughout_concat {holds : σ → Prop} (first : Throughout step s moves holds)
    (run : runMoves step s (moves ++ [move]) = some u) (last : holds u) :
    Throughout step s (moves ++ [move]) holds := by
  intro past t hprefix hpast
  rcases List.prefix_concat_iff.1 hprefix with rfl | hprefix
  · cases run.symm.trans hpast
    exact last
  · exact first past t hprefix hpast

theorem throughout_singleton {holds : σ → Prop} (first : holds s) (run : step s move = some u)
    (last : holds u) : Throughout step s [move] holds := by
  have hstart : Throughout step s [] holds := by
    intro past t hprefix hpast
    rw [List.prefix_nil.1 hprefix] at hpast
    cases hpast
    exact first
  exact throughout_concat hstart (by simp [run]) last

end CodeSearch
