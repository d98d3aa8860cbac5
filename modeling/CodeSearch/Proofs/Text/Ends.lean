import CodeSearch.Text.Blank
import Mathlib.Data.List.TakeWhile

/-!
# The ends of a text

What is taken or dropped at an end of a text goes as far as the first character that stops it. So a text that ends
in characters which are not trimmed is left as it is.
-/

namespace CodeSearch.Text

section

variable {α : Type} {p : α → Bool} {x : α} {xs ys : List α}

theorem dropWhile_of_head? (stop : ∀ x ∈ xs.head?, p x = false) : xs.dropWhile p = xs := by
  cases xs with
  | nil => rfl
  | cons x xs => exact List.dropWhile_cons_of_neg (by simp [stop x rfl])

theorem takeWhile_of_head? (stop : ∀ x ∈ xs.head?, p x = false) : xs.takeWhile p = [] := by
  cases xs with
  | nil => rfl
  | cons x xs => exact List.takeWhile_cons_of_neg (by simp [stop x rfl])

theorem takeWhile_ne_append (first : x ∉ xs) [BEq α] [LawfulBEq α] : (xs ++ x :: ys).takeWhile (· != x) = xs := by
  have hrun : ∀ y ∈ xs, (y != x) = true := fun y hy => bne_iff_ne.2 fun heq => first (heq ▸ hy)
  rw [List.takeWhile_append_of_pos hrun, takeWhile_of_head? (by simp), List.append_nil]

theorem takeWhile_ne_of_notMem (h : x ∉ xs) [BEq α] [LawfulBEq α] : xs.takeWhile (· != x) = xs :=
  List.takeWhile_eq_self_iff.2 fun _ hy => bne_iff_ne.2 fun heq => h (heq ▸ hy)

end

variable {p : Char → Bool} {c : Char} {cs : List Char}

theorem dropBackWhile_of_getLast? (stop : ∀ c ∈ cs.getLast?, p c = false) : dropBackWhile p cs = cs := by
  rw [dropBackWhile, dropWhile_of_head? (by simpa using stop), List.reverse_reverse]

theorem dropBackWhile_concat (h : p c = true) : dropBackWhile p (cs ++ [c]) = dropBackWhile p cs := by
  rw [dropBackWhile, List.reverse_append, List.reverse_singleton, List.singleton_append,
    List.dropWhile_cons_of_pos h]
  rfl

theorem trimChars_of_ends (head : ∀ c ∈ cs.head?, isBlank c = false)
    (last : ∀ c ∈ cs.getLast?, isBlank c = false) : trimChars cs = cs := by
  have hback : cs.reverse.dropWhile isBlank = cs.reverse := dropWhile_of_head? (by simpa using last)
  rw [trimChars, dropEndsWhile, dropWhile_of_head? head, hback, List.reverse_reverse]

end CodeSearch.Text
