import Mathlib.Data.List.Basic
import CodeSearch.Text.Lines

/-!
# The lines of a text, one by one

What stands before the first line feed is the first line, and the lines of what stands behind it are the others.
So a text has no more lines than characters.
-/

namespace CodeSearch.Text

variable {line rest cs : List Char}

theorem pieces_of_notMem (h : '\n' ∉ line) : pieces (· == '\n') line = [line] :=
  List.splitOnP_eq_singleton fun c hc => by
    simpa using fun heq : c = '\n' => h (heq ▸ hc)

theorem lineChars_append_newline (h : '\n' ∉ line) :
    lineChars (line ++ '\n' :: rest) = dropReturn line :: lineChars rest := by
  have hpieces : pieces (· == '\n') (line ++ '\n' :: rest) = line :: pieces (· == '\n') rest := by
    have hline := pieces_of_notMem h
    rw [pieces] at hline ⊢
    rw [List.splitOnP_append_cons _ _ rfl, hline]
    rfl
  have hne : pieces (· == '\n') rest ≠ [] := List.splitOnP_ne_nil _ rest
  rw [lineChars, lineChars, hpieces]
  simp only [List.dropLast_cons_of_ne_nil hne, List.map_cons, List.cons_append, List.getLast?_cons_of_ne_nil hne]

theorem lineChars_of_notMem (h : '\n' ∉ line) : lineChars line = [line].filter (!·.isEmpty) := by
  rw [lineChars, pieces_of_notMem h]
  rfl

/-- A text without a line feed, or one up to its first line feed and what follows. -/
theorem eq_or_exists_newline (cs : List Char) :
    '\n' ∉ cs ∨ ∃ line rest, '\n' ∉ line ∧ cs = line ++ '\n' :: rest := by
  by_cases h : '\n' ∈ cs
  · obtain ⟨line, rest, hcs, hline⟩ := List.eq_append_cons_of_mem h
    exact .inr ⟨line, rest, hline, hcs⟩
  · exact .inl h

theorem length_lineChars_le (cs : List Char) : (lineChars cs).length ≤ cs.length := by
  rcases eq_or_exists_newline cs with h | ⟨line, rest, hline, rfl⟩
  · rw [lineChars_of_notMem h]
    cases cs <;> simp
  · have ih := length_lineChars_le rest
    rw [lineChars_append_newline hline, List.length_cons, List.length_append, List.length_cons]
    omega
termination_by cs.length
decreasing_by
  subst_vars
  simp
  omega

end CodeSearch.Text
