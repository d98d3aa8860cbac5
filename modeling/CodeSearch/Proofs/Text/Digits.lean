import CodeSearch.Text.Digits
import Mathlib.Data.List.Basic
import Mathlib.Data.List.Induction
import Mathlib.Data.Nat.Digits.Defs

/-!
# Decimal digits

A run of digits denotes a number in the decimal system. A word is read from it digit by digit with a check at
each step, and then once for its bits: what is read is the number denoted, and nothing is read exactly if the
text denotes no number or one of more bits. So zeros in front do not count, however many there are.
-/

namespace CodeSearch.Text

variable {cs : List Char} {c : Char} {v w : Nat} {n m bits : UInt64}

/-! ## Texts of numbers -/

theorem isDigit_iff {c : Char} : isDigit c = true ↔ 48 ≤ c.toNat ∧ c.toNat ≤ 57 := by
  simp only [isDigit, Bool.and_eq_true, decide_eq_true_eq, Char.le_def, UInt32.le_iff_toNat_le]
  rfl

/-- Numbers are written with ASCII digits only. -/
theorem isDigit_of_mem_toDigits {n : Nat} {c : Char} (h : c ∈ Nat.toDigits 10 n) : isDigit c = true := by
  have hdigit := Nat.isDigit_of_mem_toDigits (by decide) (by decide) h
  simp only [Char.isDigit, Bool.and_eq_true, decide_eq_true_eq, UInt32.le_iff_toNat_le] at hdigit
  exact isDigit_iff.2 hdigit

theorem head?_toDigits {n : Nat} (h : (Nat.toDigits 10 n).head? = some '0') : n = 0 := by
  induction n using Nat.strongRecOn with
  | _ n ih =>
    rw [Nat.toDigits_eq_if (by decide)] at h
    split at h
    · have hdigit : ∀ d < 10, [Nat.digitChar d].head? = some '0' → d = 0 := by decide
      exact hdigit n ‹_› h
    · rw [List.head?_append_of_ne_nil _ Nat.toDigits_ne_nil] at h
      have hshort := ih (n / 10) (by omega) h
      omega

/-! ## Numbers that are denoted -/

/-- A text is a non-empty run of ASCII digits that denotes a number in the decimal system. -/
structure Denotes (cs : List Char) (v : Nat) : Prop where
  nonempty : cs ≠ []
  digits : ∀ c ∈ cs, '0' ≤ c ∧ c ≤ '9'
  value : Nat.ofDigits 10 (cs.reverse.map digitValue) = v

theorem natOfDigits_concat (cs : List Char) (c : Char) :
    natOfDigits (cs ++ [c]) = natOfDigits cs * 10 + digitValue c := by
  rw [natOfDigits, List.foldl_append]
  rfl

theorem natOfDigits_eq_ofDigits (cs : List Char) :
    natOfDigits cs = Nat.ofDigits 10 (cs.reverse.map digitValue) := by
  induction cs using List.reverseRecOn with
  | nil => rfl
  | append_singleton cs c ih =>
    rw [natOfDigits_concat, ih, List.reverse_append, List.reverse_singleton, List.singleton_append, List.map_cons,
      Nat.ofDigits_cons]
    omega

theorem denotes_iff : Denotes cs v ↔ cs ≠ [] ∧ cs.all isDigit = true ∧ natOfDigits cs = v := by
  have hdigits : cs.all isDigit = true ↔ ∀ c ∈ cs, '0' ≤ c ∧ c ≤ '9' := by simp [isDigit]
  rw [hdigits, natOfDigits_eq_ofDigits]
  exact ⟨fun ⟨hne, hall, hv⟩ => ⟨hne, hall, hv⟩, fun ⟨hne, hall, hv⟩ => ⟨hne, hall, hv⟩⟩

theorem natOfDigits_toDigits (n : Nat) : natOfDigits (Nat.toDigits 10 n) = n := by
  have hdigit : ∀ d < 10, digitValue (Nat.digitChar d) = d := by decide
  induction n using Nat.strongRecOn with
  | _ n ih =>
    rw [Nat.toDigits_eq_if (by decide)]
    split
    · rename_i hlt
      simp [natOfDigits, hdigit n hlt]
    · rw [natOfDigits_concat, ih (n / 10) (by omega), hdigit (n % 10) (by omega)]
      omega

theorem denotes_toString (n : Nat) : Denotes (toString n).toList n := by
  have htext : (toString n).toList = Nat.toDigits 10 n := String.toList_ofList
  rw [htext, denotes_iff, List.all_eq_true]
  exact ⟨Nat.toDigits_ne_nil, fun _ => isDigit_of_mem_toDigits, natOfDigits_toDigits n⟩

/-! ## Words -/

theorem word?_eq_some_iff : word? v = some n ↔ v = n.toNat := by
  by_cases hfits : v < UInt64.size
  · rw [word?, if_pos hfits, Option.some.injEq, ← UInt64.toNat_inj, UInt64.toNat_ofNat_of_lt' hfits]
  · have hlt := n.toNat_lt_size
    rw [word?, if_neg hfits]
    exact ⟨nofun, fun h => absurd (h ▸ hlt) hfits⟩

theorem exists_word (h : v ≤ n.toNat) : ∃ m : UInt64, v = m.toNat :=
  ⟨UInt64.ofNat v, (UInt64.toNat_ofNat_of_lt' (Nat.lt_of_le_of_lt h n.toNat_lt_size)).symm⟩

/-- A step gives the number with its next digit, or nothing if that is no word. -/
theorem pushDigit?_eq_some_iff : pushDigit? n c = some m ↔ n.toNat * 10 + digitValue c = m.toNat := by
  simp only [pushDigit?, Option.bind_eq_bind, Option.bind_eq_some_iff, word?_eq_some_iff]
  constructor
  · rintro ⟨tens, htens, hsum⟩
    rw [htens, hsum]
  · intro hsum
    obtain ⟨tens, htens⟩ := exists_word (show n.toNat * 10 ≤ m.toNat by omega)
    exact ⟨tens, htens, by rw [← htens, hsum]⟩

/-- A run gives the number that the digits denote, or nothing if that is no word: as soon as a step fails, the
whole number is too large. -/
theorem foldlM_pushDigit?_eq_some_iff : cs.foldlM pushDigit? 0 = some n ↔ natOfDigits cs = n.toNat := by
  induction cs using List.reverseRecOn generalizing n with
  | nil =>
    rw [List.foldlM_nil, Option.pure_def, Option.some.injEq, ← UInt64.toNat_inj]
    rfl
  | append_singleton cs c ih =>
    simp only [List.foldlM_append, List.foldlM_cons, List.foldlM_nil, bind_pure, Option.bind_eq_bind,
      Option.bind_eq_some_iff, ih, pushDigit?_eq_some_iff, natOfDigits_concat]
    constructor
    · rintro ⟨front, hfront, hnext⟩
      rw [hfront, hnext]
    · intro hnext
      obtain ⟨front, hfront⟩ := exists_word (show natOfDigits cs ≤ n.toNat by omega)
      exact ⟨front, hfront, by rw [← hfront, hnext]⟩

theorem fitsBits_iff (h : bits ≤ 64) : fitsBits bits n = true ↔ n.toNat < Nat.pow 2 bits.toNat := by
  have hbits : bits.toNat ≤ 64 := UInt64.le_iff_toNat_le.1 h
  rw [fitsBits, Bool.or_eq_true, decide_eq_true_eq, beq_iff_eq]
  by_cases hfull : 64 ≤ bits
  · have hsize : bits.toNat = 64 := Nat.le_antisymm hbits (UInt64.le_iff_toNat_le.1 hfull)
    rw [hsize]
    exact iff_of_true (.inl hfull) n.toNat_lt
  · have hlt : bits.toNat < 64 := Nat.lt_of_not_le fun hle => hfull (UInt64.le_iff_toNat_le.2 hle)
    rw [or_iff_right hfull, ← UInt64.toNat_inj, UInt64.toNat_shiftRight, Nat.mod_eq_of_lt hlt,
      Nat.shiftRight_eq_div_pow, UInt64.toNat_zero, Nat.div_eq_zero_iff_lt (Nat.two_pow_pos _)]
    rfl

/-- What is read is the number that the text denotes, if it has no more bits than it may. -/
theorem wordOfBits?_eq_some_iff (h : bits ≤ 64) :
    wordOfBits? bits cs = some n ↔ Denotes cs n.toNat ∧ n.toNat < Nat.pow 2 bits.toNat := by
  rw [wordOfBits?, denotes_iff]
  by_cases hrun : cs ≠ [] ∧ cs.all isDigit = true
  · obtain ⟨hne, hall⟩ := hrun
    simp [hne, hall, Option.filter_eq_some_iff, foldlM_pushDigit?_eq_some_iff, fitsBits_iff h]
  · have hguard : (cs.isEmpty || !cs.all isDigit) = true := by
      by_contra hno
      exact hrun (by simpa using hno)
    rw [if_pos hguard]
    exact ⟨nofun, fun ⟨⟨hne, hall, _⟩, _⟩ => absurd ⟨hne, hall⟩ hrun⟩

theorem wordOfBits?_of_denotes (h : bits ≤ 64) (denotes : Denotes cs v) (few : v < Nat.pow 2 bits.toNat) :
    ∃ n, wordOfBits? bits cs = some n ∧ n.toNat = v := by
  have hbits : bits.toNat ≤ 64 := UInt64.le_iff_toNat_le.1 h
  have hsize : v < UInt64.size := Nat.lt_of_lt_of_le few (Nat.pow_le_pow_right (by decide) hbits)
  have hv : (UInt64.ofNat v).toNat = v := UInt64.toNat_ofNat_of_lt' hsize
  exact ⟨UInt64.ofNat v, (wordOfBits?_eq_some_iff h).2 (by rw [hv]; exact ⟨denotes, few⟩), hv⟩

theorem wordOfBits?_eq_none (h : bits ≤ 64) (beyond : ∀ v, Denotes cs v → Nat.pow 2 bits.toNat ≤ v) :
    wordOfBits? bits cs = none := by
  rw [Option.eq_none_iff_forall_ne_some]
  intro n hread
  obtain ⟨hdenotes, hfew⟩ := (wordOfBits?_eq_some_iff h).1 hread
  exact Nat.not_le_of_lt hfew (beyond _ hdenotes)

end CodeSearch.Text
