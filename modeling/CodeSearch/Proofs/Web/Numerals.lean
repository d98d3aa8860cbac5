import CodeSearch.Proofs.Text.Digits
import CodeSearch.Proofs.Text.Ends
import CodeSearch.Web.Params

/-!
# Numbers in requests

A number of context lines and the two halves of a range stand for what their digits denote, as long as it fits in
the bits it may have, and else for a default. The halves are read apart: one that cannot be read leaves the other
as it is.
-/

namespace CodeSearch.Params

open Text

variable {value : String} {offset limit : List Char} {v : Nat}

/-! ## Halves of a range -/

/-- A number that a text stands for: the one it denotes if that is below a bound, and else a default. -/
structure StandsFor (bound other : Nat) (cs : List Char) (n : Nat) : Prop where
  within : ∀ v, Denotes cs v → v < bound → n = v
  beyond : (∀ v, Denotes cs v → bound ≤ v) → n = other

theorem standsFor_halfRange (cs : List Char) : StandsFor (Nat.pow 2 64) 0 cs (halfRange cs) where
  within v denotes few := by
    obtain ⟨n, hread, hn⟩ := wordOfBits?_of_denotes (UInt64.le_refl 64) denotes few
    rw [halfRange, hread, Option.map_some, Option.getD_some, hn]
  beyond many := by
    rw [halfRange, wordOfBits?_eq_none (UInt64.le_refl 64) many]
    rfl

theorem parseRange_of_bare (bare : ':' ∉ value.toList) : parseRange value = (0, 0) := by
  simp [parseRange, takeWhile_ne_of_notMem bare]

theorem parseRange_of_colon (parts : value.toList = offset ++ ':' :: limit) (first : ':' ∉ offset) :
    parseRange value = (halfRange offset, halfRange limit) := by
  rw [parseRange, parts]
  simp [takeWhile_ne_append first]

theorem parseRange_toString (offset limit : UInt64) :
    parseRange (toString offset ++ ":" ++ toString limit) = (offset.toNat, limit.toNat) := by
  have hhalf : ∀ n : UInt64, halfRange (toString n.toNat).toList = n.toNat := fun n =>
    (standsFor_halfRange _).within _ (denotes_toString n.toNat) n.toNat_lt
  have hfirst : ':' ∉ (toString offset.toNat).toList := fun hmem =>
    absurd ((denotes_toString offset.toNat).digits ':' hmem) (by decide)
  have hparts : (toString offset ++ ":" ++ toString limit).toList =
      (toString offset.toNat).toList ++ ':' :: (toString limit.toNat).toList := by
    rw [String.toList_append, String.toList_append, List.append_assoc]
    rfl
  rw [parseRange_of_colon hparts hfirst, hhalf, hhalf]

/-! ## Context lines -/

theorem contextBits_le : contextBits ≤ 64 := by decide

theorem parseContext_of_denotes (denotes : Denotes value.toList v) (few : v < Nat.pow 2 54) :
    parseContext value = min v 20 := by
  obtain ⟨n, hread, hn⟩ := wordOfBits?_of_denotes contextBits_le denotes few
  rw [parseContext, hread, ← hn]
  rfl

theorem parseContext_of_beyond (many : ∀ v, Denotes value.toList v → Nat.pow 2 54 ≤ v) :
    parseContext value = 2 := by
  rw [parseContext, wordOfBits?_eq_none contextBits_le many]
  rfl

/-! ## What the numbers of a request stand for -/

/-- What is read of a text, as a number of context lines and as a range. -/
structure ReadsNumbers (value : String) : Prop where
  context : ∀ v, Denotes value.toList v → v < Nat.pow 2 54 → parseContext value = min v 20
  noContext : (∀ v, Denotes value.toList v → Nat.pow 2 54 ≤ v) → parseContext value = 2
  context_le : parseContext value ≤ 20
  bare : ':' ∉ value.toList → parseRange value = (0, 0)
  halves : ∀ offset limit, value.toList = offset ++ ':' :: limit → ':' ∉ offset →
    StandsFor (Nat.pow 2 64) 0 offset (parseRange value).1 ∧ StandsFor (Nat.pow 2 64) 0 limit (parseRange value).2

/-- Whatever the text, its numbers are those that its digits denote within their bits; and a range of any two words
is read as it is written. -/
theorem readsNumbers : (∀ value, ReadsNumbers value) ∧ ∀ offset limit : UInt64,
    parseRange (toString offset ++ ":" ++ toString limit) = (offset.toNat, limit.toNat) := by
  refine ⟨fun value => ?_, parseRange_toString⟩
  refine ⟨fun v => parseContext_of_denotes, parseContext_of_beyond, parseContext_le value, parseRange_of_bare, ?_⟩
  intro offset limit parts first
  rw [parseRange_of_colon parts first]
  exact ⟨standsFor_halfRange offset, standsFor_halfRange limit⟩

/-- The first colon parts a range, and a half with too many bits leaves the other as it is. -/
example : parseRange "18446744073709551616:007" = (0, 7) ∧ parseRange "5:7:9" = (5, 0) := by decide +kernel

end CodeSearch.Params
