import Mathlib.Logic.Basic
import Mathlib.Tactic.ByContra
import CodeSearch.Pattern.Basic

/-!
# What the matcher finds

The run over the remainders of a pattern agrees with the meaning of patterns: a text has a match somewhere
exactly if the pattern takes one of its stretches between the characters on either side.
-/

namespace CodeSearch.Pattern

variable {p q : Pattern} {before after : Option Char} {c : Char} {cs ds : List Char} {low n : Nat}
  {high : Option Nat}

/-! ## The character before a place -/

theorem lastOr_cons : lastOr before (c :: cs) = lastOr (some c) cs := by
  rw [lastOr, lastOr, List.getLast?_cons]
  cases cs.getLast? <;> rfl

theorem lastOr_none : lastOr none cs = cs.getLast? := Option.or_none

/-! ## The stretches of each kind of pattern -/

theorem matches_empty_iff : Matches .empty before cs after ↔ cs = [] := by
  constructor
  · rintro ⟨⟩
    rfl
  · rintro rfl
    exact .empty _ _

theorem matches_set_iff {s : Charset} :
    Matches (.set s) before cs after ↔ ∃ c, s.mem c = true ∧ cs = [c] := by
  constructor
  · intro h
    cases h with
    | set _ _ hmem => exact ⟨_, hmem, rfl⟩
  · rintro ⟨c, hmem, rfl⟩
    exact .set _ _ hmem

theorem matches_look_iff {l : Look} :
    Matches (.look l) before cs after ↔ l.holds ⟨before, after⟩ = true ∧ cs = [] := by
  constructor
  · intro h
    cases h with
    | look hholds => exact ⟨hholds, rfl⟩
  · rintro ⟨hholds, rfl⟩
    exact .look hholds

theorem matches_seq_iff : Matches (.seq p q) before cs after ↔
    ∃ front back, cs = front ++ back ∧ Matches p before front (back.head?.or after) ∧
      Matches q (lastOr before front) back after := by
  constructor
  · intro h
    cases h with
    | seq hp hq => exact ⟨_, _, rfl, hp, hq⟩
  · rintro ⟨front, back, rfl, hp, hq⟩
    exact .seq hp hq

theorem matches_alt_iff : Matches (.alt p q) before cs after ↔
    Matches p before cs after ∨ Matches q before cs after := by
  constructor
  · intro h
    cases h with
    | left h => exact .inl h
    | right h => exact .inr h
  · rintro (h | h)
    · exact .left h
    · exact .right h

/-- A number of rounds of a pattern, one behind the other. -/
inductive Rounds (p : Pattern) : Nat → Option Char → List Char → Option Char → Prop where
  | nil (before after : Option Char) : Rounds p 0 before [] after
  | cons {n : Nat} {before after : Option Char} {cs ds : List Char} (round : Matches p before cs (ds.head?.or after))
      (rest : Rounds p n (lastOr before cs) ds after) : Rounds p (n + 1) before (cs ++ ds) after

theorem Rounds.idle (round : Matches p before [] (cs.head?.or after)) (rest : Rounds p n before cs after) :
    Rounds p (n + 1) before cs after := by
  have rounds : Rounds p (n + 1) before ([] ++ cs) after := .cons round rest
  exact rounds

theorem Rounds.taking (round : Matches p before (c :: cs) (ds.head?.or after))
    (rest : Rounds p n (lastOr (some c) cs) ds after) : Rounds p (n + 1) before (c :: (cs ++ ds)) after := by
  rw [← lastOr_cons] at rest
  exact .cons round rest

theorem forall_mem_pred_iff : (∀ h ∈ high.map (· - 1), n ≤ h) ↔ ∀ h ∈ high, n ≤ h - 1 := by
  cases high <;> simp

theorem matches_rep_iff : Matches (.rep low high p) before cs after ↔
    ∃ n, low ≤ n ∧ (∀ h ∈ high, n ≤ h) ∧ Rounds p n before cs after := by
  constructor
  · intro h
    generalize hrep : Pattern.rep low high p = r at h
    induction h generalizing low high with
    | done before after =>
      cases hrep
      exact ⟨0, Nat.le_refl _, fun _ _ => Nat.zero_le _, .nil _ _⟩
    | more hhigh hround _ _ ih =>
      cases hrep
      obtain ⟨n, hlow, hup, hrounds⟩ := ih rfl
      refine ⟨n + 1, by omega, fun h hh => ?_, .cons hround hrounds⟩
      have hpos : h ≠ 0 := by
        rintro rfl
        exact hhigh hh
      have := forall_mem_pred_iff.1 hup h hh
      omega
    | _ => cases hrep
  · rintro ⟨n, hlow, hup, hrounds⟩
    induction hrounds generalizing low high with
    | nil before after =>
      obtain rfl := Nat.le_zero.1 hlow
      exact .done _ _
    | cons hround _ ih =>
      have hhigh : high ≠ some 0 := by
        rintro rfl
        exact absurd (hup 0 rfl) (by omega)
      refine .more hhigh hround (ih (by omega) (forall_mem_pred_iff.2 fun h hh => ?_))
      have := hup h hh
      omega

/-! ## The empty stretch -/

theorem rounds_nil_iff : Rounds p n before [] after ↔ n = 0 ∨ Matches p before [] after := by
  constructor
  · generalize hnil : [] = cs
    rintro (_ | ⟨hround, _⟩)
    · exact .inl rfl
    · obtain ⟨rfl, rfl⟩ := List.append_eq_nil_iff.1 hnil.symm
      exact .inr hround
  · rintro (rfl | h)
    · exact .nil _ _
    · induction n with
      | zero => exact .nil _ _
      | succ n ih => exact .idle h ih

theorem nullable_iff : p.nullable ⟨before, after⟩ = true ↔ Matches p before [] after := by
  induction p generalizing before after with
  | empty => simp [nullable, matches_empty_iff]
  | set s => simp [nullable, matches_set_iff]
  | look l => simp [nullable, matches_look_iff]
  | seq p q ihp ihq =>
    rw [nullable, Bool.and_eq_true, ihp, ihq, matches_seq_iff]
    constructor
    · rintro ⟨hp, hq⟩
      exact ⟨[], [], rfl, hp, hq⟩
    · rintro ⟨front, back, hnil, hp, hq⟩
      obtain ⟨rfl, rfl⟩ := List.append_eq_nil_iff.1 hnil.symm
      exact ⟨hp, hq⟩
  | alt p q ihp ihq => rw [nullable, Bool.or_eq_true, ihp, ihq, matches_alt_iff]
  | rep low high p ih =>
    simp only [nullable, Bool.or_eq_true, Bool.and_eq_true, beq_iff_eq, bne_iff_ne, ih, matches_rep_iff,
      rounds_nil_iff, Option.all_eq_true, decide_eq_true_eq]
    constructor
    · rintro (rfl | ⟨⟨-, h⟩, hbounds⟩)
      · exact ⟨0, Nat.le_refl _, fun _ _ => Nat.zero_le _, .inl rfl⟩
      · exact ⟨low, Nat.le_refl _, hbounds, .inr h⟩
    · rintro ⟨n, hlow, hup, rfl | h⟩
      · exact .inl (Nat.le_zero.1 hlow)
      · rcases Nat.eq_zero_or_pos low with hzero | hpos
        · exact .inl hzero
        · refine .inr ⟨⟨?_, h⟩, fun h hh => Nat.le_trans hlow (hup h hh)⟩
          rintro rfl
          exact absurd (hup 0 rfl) (by omega)

/-! ## One character more -/

/-- Rounds that take something: after some that take nothing, one that takes the first character. -/
theorem rounds_cons_iff : Rounds p n before (c :: cs) after ↔
    ∃ idle rest front back, n = idle + 1 + rest ∧ (idle ≠ 0 → Matches p before [] (some c)) ∧
      cs = front ++ back ∧ Matches p before (c :: front) (back.head?.or after) ∧
      Rounds p rest (lastOr (some c) front) back after := by
  constructor
  · intro h
    generalize htext : c :: cs = text at h
    induction h with
    | nil => cases htext
    | @cons n before after front back hround hrest ih =>
      cases front with
      | nil =>
        rw [List.nil_append] at htext
        obtain ⟨idle, rest, front, back', rfl, -, hcs, hfirst, hrounds⟩ := ih htext
        subst htext
        exact ⟨idle + 1, rest, front, back', by omega, fun _ => hround, hcs, hfirst, hrounds⟩
      | cons d front =>
        rw [List.cons_append, List.cons.injEq] at htext
        obtain ⟨rfl, rfl⟩ := htext
        rw [lastOr_cons] at hrest
        exact ⟨0, n, front, back, by omega, absurd rfl, rfl, hround, hrest⟩
  · rintro ⟨idle, rest, front, back, rfl, hidle, rfl, hfirst, hrounds⟩
    induction idle with
    | zero =>
      rw [Nat.zero_add, Nat.add_comm]
      exact .taking hfirst hrounds
    | succ idle ih =>
      rw [show idle + 1 + 1 + rest = idle + 1 + rest + 1 by omega]
      exact .idle (hidle (by omega)) (ih fun _ => hidle (by omega))

theorem matches_andThen_iff : Matches (p.andThen q) before cs after ↔ Matches (.seq p q) before cs after := by
  cases p with
  | empty =>
    rw [andThen, matches_seq_iff]
    simp only [matches_empty_iff]
    constructor
    · intro h
      exact ⟨[], cs, rfl, rfl, h⟩
    · rintro ⟨_, _, rfl, rfl, h⟩
      exact h
  | _ => rfl

/-- What the remainders of the first of two patterns and then the second one take. -/
theorem exists_andThen_iff {rs : List Pattern} : (∃ r ∈ rs.map (·.andThen q), Matches r (some c) cs after) ↔
    ∃ front back, cs = front ++ back ∧ (∃ r ∈ rs, Matches r (some c) front (back.head?.or after)) ∧
      Matches q (lastOr (some c) front) back after := by
  simp only [List.mem_map, exists_exists_and_eq_and, matches_andThen_iff, matches_seq_iff]
  constructor
  · rintro ⟨r, hr, front, back, hcs, hfirst, hrest⟩
    exact ⟨front, back, hcs, ⟨r, hr, hfirst⟩, hrest⟩
  · rintro ⟨front, back, hcs, ⟨r, hr, hfirst⟩, hrest⟩
    exact ⟨r, hr, front, back, hcs, hfirst, hrest⟩

theorem matches_seq_cons_iff : Matches (.seq p q) before (c :: cs) after ↔
    (∃ front back, cs = front ++ back ∧ Matches p before (c :: front) (back.head?.or after) ∧
      Matches q (lastOr (some c) front) back after) ∨
    Matches p before [] (some c) ∧ Matches q before (c :: cs) after := by
  rw [matches_seq_iff]
  constructor
  · rintro ⟨front, back, hcs, hp, hq⟩
    cases front with
    | nil =>
      rw [List.nil_append] at hcs
      subst hcs
      exact .inr ⟨hp, hq⟩
    | cons d front =>
      rw [List.cons_append, List.cons.injEq] at hcs
      obtain ⟨rfl, rfl⟩ := hcs
      rw [lastOr_cons] at hq
      exact .inl ⟨front, back, rfl, hp, hq⟩
  · rintro (⟨front, back, rfl, hp, hq⟩ | ⟨hp, hq⟩)
    · exact ⟨c :: front, back, rfl, hp, by rwa [lastOr_cons]⟩
    · exact ⟨[], c :: cs, rfl, hp, hq⟩

theorem matches_rep_cons_iff : Matches (.rep low high p) before (c :: cs) after ↔
    (∀ h ∈ high, h ≠ 0 ∧ low ≤ h) ∧ ∃ front back, cs = front ++ back ∧
      Matches p before (c :: front) (back.head?.or after) ∧
      Matches (.rep (if p.nullable ⟨before, some c⟩ then 0 else low - 1) (high.map (· - 1)) p)
        (lastOr (some c) front) back after := by
  simp only [matches_rep_iff, rounds_cons_iff]
  constructor
  · rintro ⟨n, hlow, hup, idle, rest, front, back, rfl, hidle, hcs, hfirst, hrest⟩
    refine ⟨fun h hh => ?_, front, back, hcs, hfirst, rest, ?_, forall_mem_pred_iff.2 fun h hh => ?_, hrest⟩
    · have := hup h hh
      omega
    · split
      · exact Nat.zero_le _
      · rename_i hnot
        have : idle = 0 := by
          by_contra hne
          exact hnot (nullable_iff.2 (hidle hne))
        omega
    · have := hup h hh
      omega
  · rintro ⟨hbounds, front, back, hcs, hfirst, rest, hlow, hup, hrest⟩
    have hrestUp : ∀ h ∈ high, rest + 1 ≤ h := by
      intro h hh
      have := forall_mem_pred_iff.1 hup h hh
      have := hbounds h hh
      omega
    -- As many idle rounds as are missing to the lower bound; there are such rounds only if it was dropped.
    refine ⟨low - 1 - rest + 1 + rest, by omega, fun h hh => ?_, low - 1 - rest, rest, front, back, rfl,
      fun hidle => ?_, hcs, hfirst, hrest⟩
    · have := hrestUp h hh
      have := (hbounds h hh).2
      omega
    · by_contra hnot
      rw [if_neg (mt nullable_iff.1 hnot)] at hlow
      omega

/-- The remainders of a pattern take what it takes behind its first character. -/
theorem exists_remainders_iff : (∃ r ∈ p.remainders ⟨before, some c⟩ c, Matches r (some c) cs after) ↔
    Matches p before (c :: cs) after := by
  induction p generalizing cs after with
  | empty => simp [remainders, matches_empty_iff]
  | set s =>
    rw [remainders, matches_set_iff]
    cases hmem : s.mem c with
    | true =>
      simp only [if_pos, List.mem_singleton, exists_eq_left, matches_empty_iff, List.cons.injEq]
      constructor
      · rintro rfl
        exact ⟨c, hmem, rfl, rfl⟩
      · rintro ⟨_, -, -, h⟩
        exact h
    | false =>
      simp only [Bool.false_eq_true, if_false, List.not_mem_nil, false_and, exists_false, false_iff]
      rintro ⟨d, hd, h⟩
      obtain ⟨rfl, -⟩ := List.cons.inj h
      rw [hmem] at hd
      cases hd
  | look l => simp [remainders, matches_look_iff]
  | seq p q ihp ihq =>
    have hfirst := @exists_andThen_iff q after c cs (p.remainders ⟨before, some c⟩ c)
    simp only [ihp] at hfirst
    rw [matches_seq_cons_iff, ← hfirst, ← nullable_iff, ← ihq, remainders]
    cases p.nullable ⟨before, some c⟩ <;> simp [or_and_right, exists_or]
  | alt p q ihp ihq =>
    rw [matches_alt_iff, ← ihp, ← ihq, remainders]
    simp only [List.mem_append, or_and_right, exists_or]
  | rep low high p ih =>
    rw [matches_rep_cons_iff, remainders]
    have hclosed : (high = some 0 || high.any (· < low)) = true ↔ ¬ ∀ h ∈ high, h ≠ 0 ∧ low ≤ h := by
      cases high with
      | none => simp
      | some h => simp; omega
    split
    · rename_i hnone
      simp only [List.not_mem_nil, false_and, exists_false, hclosed.1 hnone]
    · rename_i hopen
      have hopen : ∀ h ∈ high, h ≠ 0 ∧ low ≤ h := by
        by_contra h
        exact hopen (hclosed.2 h)
      simp only [exists_andThen_iff, ih]
      exact (and_iff_right hopen).symm

/-! ## Matches in a text -/

/-- The pattern takes a stretch at the front of a text, up to whose end nothing follows. -/
def TakesFront (p : Pattern) (before : Option Char) (cs : List Char) : Prop :=
  ∃ mid back, cs = mid ++ back ∧ Matches p before mid back.head?

/-- The pattern takes a stretch somewhere in a text. -/
def Occurs (p : Pattern) (before : Option Char) (cs : List Char) : Prop :=
  ∃ front rest, cs = front ++ rest ∧ TakesFront p (lastOr before front) rest

theorem takesFront_nil_iff : TakesFront p before [] ↔ p.nullable ⟨before, none⟩ = true := by
  rw [nullable_iff, TakesFront]
  constructor
  · rintro ⟨mid, back, hnil, h⟩
    obtain ⟨rfl, rfl⟩ := List.append_eq_nil_iff.1 hnil.symm
    exact h
  · intro h
    exact ⟨[], [], rfl, h⟩

theorem takesFront_cons_iff : TakesFront p before (c :: cs) ↔
    p.nullable ⟨before, some c⟩ = true ∨ ∃ r ∈ p.remainders ⟨before, some c⟩ c, TakesFront r (some c) cs := by
  rw [nullable_iff]
  constructor
  · rintro ⟨mid, back, hcs, h⟩
    cases mid with
    | nil =>
      rw [List.nil_append] at hcs
      subst hcs
      exact .inl h
    | cons d mid =>
      rw [List.cons_append, List.cons.injEq] at hcs
      obtain ⟨rfl, rfl⟩ := hcs
      obtain ⟨r, hr, h⟩ := exists_remainders_iff.2 h
      exact .inr ⟨r, hr, mid, back, rfl, h⟩
  · rintro (h | ⟨r, hr, mid, back, rfl, h⟩)
    · exact ⟨[], c :: cs, rfl, h⟩
    · exact ⟨c :: mid, back, rfl, exists_remainders_iff.1 ⟨r, hr, h⟩⟩

theorem occurs_nil_iff : Occurs p before [] ↔ TakesFront p before [] := by
  constructor
  · rintro ⟨front, rest, hnil, h⟩
    obtain ⟨rfl, rfl⟩ := List.append_eq_nil_iff.1 hnil.symm
    exact h
  · intro h
    exact ⟨[], [], rfl, h⟩

theorem occurs_cons_iff :
    Occurs p before (c :: cs) ↔ TakesFront p before (c :: cs) ∨ Occurs p (some c) cs := by
  constructor
  · rintro ⟨front, rest, hcs, h⟩
    cases front with
    | nil =>
      rw [List.nil_append] at hcs
      subst hcs
      exact .inl h
    | cons d front =>
      rw [List.cons_append, List.cons.injEq] at hcs
      obtain ⟨rfl, rfl⟩ := hcs
      rw [lastOr_cons] at h
      exact .inr ⟨front, rest, rfl, h⟩
  · rintro (h | ⟨front, rest, rfl, h⟩)
    · exact ⟨[], c :: cs, rfl, h⟩
    · refine ⟨c :: front, rest, rfl, ?_⟩
      rwa [lastOr_cons]

theorem mem_distinct {ps : List Pattern} : p ∈ distinct ps ↔ p ∈ ps := by
  unfold distinct
  split
  · exact List.mem_eraseDups
  · rw [Std.HashSet.mem_toList, Std.HashSet.mem_ofList, List.contains_iff_mem]

/-- The live remainders take a stretch from here on, or a match starts later. By induction on the text: what
the patterns take behind its first character, their remainders take. -/
theorem search_iff {start : Pattern} {live : List Pattern} : search start before live cs = true ↔
    Occurs start before cs ∨ ∃ q ∈ live, TakesFront q before cs := by
  induction cs generalizing before live with
  | nil =>
    simp only [search, List.any_cons, Bool.or_eq_true, List.any_eq_true, occurs_nil_iff, takesFront_nil_iff]
  | cons c cs ih =>
    simp only [search, Bool.or_eq_true, List.any_cons, List.any_eq_true, ih, mem_distinct, List.mem_flatMap,
      List.mem_cons, occurs_cons_iff, takesFront_cons_iff]
    constructor
    · rintro ((hnull | ⟨q, hq, hnull⟩) | hlater | ⟨r, ⟨q, rfl | hq, hr⟩, h⟩)
      · exact .inl (.inl (.inl hnull))
      · exact .inr ⟨q, hq, .inl hnull⟩
      · exact .inl (.inr hlater)
      · exact .inl (.inl (.inr ⟨r, hr, h⟩))
      · exact .inr ⟨q, hq, .inr ⟨r, hr, h⟩⟩
    · rintro (((hnull | ⟨r, hr, h⟩) | hlater) | ⟨q, hq, hnull | ⟨r, hr, h⟩⟩)
      · exact .inl (.inl hnull)
      · exact .inr (.inr ⟨r, ⟨start, .inl rfl, hr⟩, h⟩)
      · exact .inr (.inl hlater)
      · exact .inl (.inr ⟨q, hq, hnull⟩)
      · exact .inr (.inr ⟨r, ⟨q, .inr hq, hr⟩, h⟩)

/-- A text has a match exactly if the pattern takes one of its stretches. -/
theorem isMatch_iff : p.isMatch cs = true ↔
    ∃ front mid back, cs = front ++ mid ++ back ∧ Matches p front.getLast? mid back.head? := by
  simp only [isMatch, search_iff, List.not_mem_nil, false_and, exists_false, or_false, Occurs, TakesFront,
    lastOr_none]
  constructor
  · rintro ⟨front, _, rfl, mid, back, rfl, h⟩
    exact ⟨front, mid, back, (List.append_assoc _ _ _).symm, h⟩
  · rintro ⟨front, mid, back, rfl, h⟩
    exact ⟨front, mid ++ back, List.append_assoc _ _ _, mid, back, rfl, h⟩

end CodeSearch.Pattern
