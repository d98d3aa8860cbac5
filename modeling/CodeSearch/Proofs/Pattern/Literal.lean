import CodeSearch.Pattern.Compile
import CodeSearch.Proofs.Pattern.Matching

/-!
# Literal text as a pattern

Escaped text is always well-formed as a pattern, whatever characters it has, and the pattern that it stands for
takes the text and nothing else. So it matches exactly where the text is contained.
-/

namespace CodeSearch.Pattern

open Text

variable {c : Char} {text cs rest : List Char} {st : Reading} {fuel : Nat} {p : Pattern}

/-! ## Reading escaped text -/

/-- The part of a pattern that one character of literal text makes. -/
def literalPart (c : Char) : Expr := .literal ⟨c, false⟩

theorem escape_cons_of_isMeta (hmeta : isMeta c = true) : escape (c :: cs) = '\\' :: c :: escape cs := by
  rw [escape, List.flatMap_cons, if_pos hmeta]
  rfl

theorem escape_cons_of_not_isMeta (hmeta : isMeta c = false) : escape (c :: cs) = c :: escape cs := by
  rw [escape, List.flatMap_cons, hmeta]
  rfl

theorem escape?_of_isMeta (hmeta : isMeta c = true) : escape? false (c :: rest) = some (.literal ⟨c, false⟩, rest) := by
  simp only [isMeta, List.contains_cons, List.contains_nil, Bool.or_false, Bool.or_eq_true, beq_iff_eq] at hmeta
  rcases hmeta with rfl | rfl | rfl | rfl | rfl | rfl | rfl | rfl | rfl | rfl | rfl | rfl | rfl | rfl | rfl | rfl |
    rfl | rfl <;> rfl

theorem step?_of_isMeta (plain : st.verbose = false) (hmeta : isMeta c = true) :
    st.step? '\\' (c :: rest) = some (st.push (literalPart c), rest) := by
  simp only [Reading.step?, plain, escape?_of_isMeta hmeta]
  rfl

theorem step?_of_not_isMeta (hmeta : isMeta c = false) :
    st.step? c rest = some (st.push (literalPart c), rest) := by
  unfold Reading.step?
  split
  case h_13 => rfl
  all_goals cases hmeta

theorem run?_cons {st' : Reading} (plain : st.verbose = false) (step : st.step? c cs = some (st', rest)) :
    st.run? (fuel + 1) (c :: cs) = st'.run? fuel rest := by
  rw [Reading.run?.eq_def]
  simp [skip, plain, step]

/-- Escaped text is read character by character. -/
theorem run?_escape (plain : st.verbose = false) (closed : st.groups = []) (enough : (escape text).length ≤ fuel) :
    st.run? fuel (escape text) = some (text.foldl (fun st c => st.push (literalPart c)) st).body := by
  -- the fuel bounds the characters that are left, of which an escaped one takes two
  induction text generalizing st fuel with
  | nil => cases fuel <;> simp [Reading.run?, escape, skip, plain, closed]
  | cons c text ih =>
    cases hmeta : isMeta c with
    | true =>
      rw [escape_cons_of_isMeta hmeta] at enough ⊢
      obtain ⟨fuel, rfl⟩ := Nat.exists_eq_add_one_of_ne_zero (Nat.ne_of_gt (Nat.zero_lt_of_lt enough))
      rw [run?_cons plain (step?_of_isMeta plain hmeta)]
      exact ih plain closed (Nat.le_of_succ_le (Nat.le_of_succ_le_succ enough))
    | false =>
      rw [escape_cons_of_not_isMeta hmeta] at enough ⊢
      obtain ⟨fuel, rfl⟩ := Nat.exists_eq_add_one_of_ne_zero (Nat.ne_of_gt (Nat.zero_lt_of_lt enough))
      rw [run?_cons plain (step?_of_not_isMeta hmeta)]
      exact ih plain closed (Nat.le_of_succ_le_succ enough)

theorem foldl_push (text : List Char) (st : Reading) : text.foldl (fun st c => st.push (literalPart c)) st =
    { st with parts := (text.map literalPart).reverse ++ st.parts } := by
  induction text generalizing st with
  | nil => rfl
  | cons c text ih =>
    rw [List.foldl_cons, ih]
    simp [Reading.push]

theorem depths_literals (text : List Char) : Expr.depth.depths (text.map literalPart) = 0 := by
  induction text with
  | nil => rfl
  | cons c text ih => rw [List.map_cons, Expr.depth.depths, ih]; rfl

theorem depth_literals_le (text : List Char) : (Expr.ofParts (text.map literalPart)).depth ≤ 1 := by
  match text with
  | [] => exact Nat.zero_le _
  | [_] => exact Nat.zero_le _
  | c :: d :: text =>
    show Expr.depth.depths ((c :: d :: text).map literalPart) + 1 ≤ 1
    exact Nat.succ_le_succ (Nat.le_of_eq (depths_literals _))

/-- Escaped text is read as the sequence of its characters. -/
theorem parse?_escape (text : List Char) : parse? (escape text) = some (Expr.ofParts (text.map literalPart)) := by
  have hread : Reading.start.run? (escape text).length (escape text) =
      some (text.foldl (fun st c => st.push (literalPart c)) Reading.start).body := run?_escape rfl rfl (Nat.le_refl _)
  have hbody : (text.foldl (fun st c => st.push (literalPart c)) Reading.start).body =
      Expr.ofParts (text.map literalPart) := by
    rw [foldl_push]
    simp [Reading.body, Reading.start]
  have hdepth : (Expr.ofParts (text.map literalPart)).depth ≤ maxDepth :=
    Nat.le_trans (depth_literals_le text) (by decide)
  rw [parse?, hread, hbody, Option.filter_some, if_pos (decide_eq_true hdepth)]

/-! ## The pattern of literal text -/

def TakesOnly (p : Pattern) (text : List Char) : Prop :=
  ∀ before cs after, Matches p before cs after ↔ cs = text

theorem mem_ofChar {d : Char} : (Charset.ofChar c).mem d = true ↔ d = c := by
  simp only [Charset.mem, Charset.ofChar, Charset.single, Charset.contains, List.any_cons, List.any_nil,
    Bool.or_false, Bool.and_eq_true, decide_eq_true_eq]
  constructor
  · rintro ⟨hle, hge⟩
    exact Char.toNat_inj.1 (Nat.le_antisymm hge hle)
  · rintro rfl
    exact ⟨Nat.le_refl _, Nat.le_refl _⟩

theorem takesOnly_char (c : Char) : TakesOnly (char c) [c] := by
  intro before cs after
  rw [char, matches_set_iff]
  simp only [mem_ofChar, exists_eq_left]

theorem takesOnly_seqs (text : List Char) : TakesOnly (seqs (text.map char)) text := by
  induction text with
  | nil => exact fun _ _ _ => matches_empty_iff
  | cons c text ih =>
    intro before cs after
    show Matches (.seq (char c) (seqs (text.map char))) before cs after ↔ cs = c :: text
    simp only [matches_seq_iff, takesOnly_char c _ _ _, ih _ _ _]
    simp

theorem TakesOnly.isMatch_iff (only : TakesOnly p text) : p.isMatch cs = true ↔ text <:+: cs := by
  simp only [Pattern.isMatch_iff, only _ _ _]
  constructor
  · rintro ⟨front, _, back, rfl, rfl⟩
    exact ⟨front, back, rfl⟩
  · rintro ⟨front, back, rfl⟩
    exact ⟨front, text, back, rfl, rfl⟩

theorem pattern?_literalPart (c : Char) :
    (literalPart c).pattern? (.start false) = some (char c, .start false) := rfl

theorem patterns?_literals (text : List Char) :
    Expr.pattern?.patterns? (.start false) (text.map literalPart) = some (text.map char, .start false) := by
  induction text with
  | nil => rfl
  | cons c text ih => simp [Expr.pattern?.patterns?, pattern?_literalPart, ih]

/-- The characters of a text, taken exactly, make a pattern that takes the text only. -/
theorem exists_pattern?_literals (text : List Char) : ∃ p, TakesOnly p text ∧
    (Expr.ofParts (text.map literalPart)).pattern? (.start false) = some (p, .start false) := by
  match text with
  | [] => exact ⟨.empty, takesOnly_seqs [], rfl⟩
  | [c] => exact ⟨char c, takesOnly_char c, rfl⟩
  | c :: d :: text =>
    refine ⟨_, takesOnly_seqs (c :: d :: text), ?_⟩
    show (Expr.concat ((c :: d :: text).map literalPart)).pattern? (.start false) = _
    rw [Expr.pattern?, patterns?_literals]
    rfl

/-- Escaped text is refused for its size only, and else becomes a pattern that takes the text only. -/
theorem exists_compile_escape (text : List Char) : ∃ p, TakesOnly p text ∧
    compile false (escape text) = if p.size ≤ sizeLimit then .ok p else .error .tooLarge := by
  obtain ⟨p, only, hpattern⟩ := exists_pattern?_literals text
  refine ⟨p, only, ?_⟩
  rw [compile, parse?_escape, Option.bind_some, hpattern]

end CodeSearch.Pattern
