import CodeSearch.Proofs.Text.Lines
import CodeSearch.Search.Matcher
import CodeSearch.Web.Params

/-!
# Matching lines with the lines around them

The matches in a text are its matching lines, in their order and with their numbers, and each of them stands
between the lines that precede and follow it, as many as are asked for or as there are. No position that is
looked at lies outside the text, and no sum of positions leaves 64 bits as long as the number of the last line
with the lines asked for does not.
-/

namespace CodeSearch

open Text

variable {isMatch : List Char → Bool} {context i : Nat} {content line : List Char} {texts : List String}
  {text : String} {m : LineMatch}

/-! ## Positions that are checked -/

/-- The elements of a list from one position up to another; these have to be positions of the list in their
order. -/
def slice? {α : Type} (xs : List α) (first last : Nat) : Option (List α) :=
  if first ≤ last ∧ last ≤ xs.length then some ((xs.take last).drop first) else none

def sum64? (a b : Nat) : Option Nat := if a + b < Nat.pow 2 64 then some (a + b) else none

/-- The match of the line at an index with the lines around it, unless a position is out of range. -/
def matchAt? (texts : List String) (context i : Nat) (text : String) : Option LineMatch := do
  let next ← sum64? i 1
  let last ← sum64? next context
  let before ← slice? texts (i - context) i
  let after ← slice? texts next (min last texts.length)
  return ⟨text, next, before, after⟩

/-- The lines that satisfy `isMatch` with the lines around them, unless a position is out of range. -/
def matchLines? (isMatch : List Char → Bool) (context : Nat) (content : List Char) : Option (List LineMatch) :=
  let lines := lineChars content
  (lines.zipIdx.filter (isMatch ·.1)).mapM fun (line, i) =>
    matchAt? (lines.map String.ofList) context i (String.ofList line)

/-- The number of each matching line, with the lines asked for, fits in 64 bits. -/
def Fits (isMatch : List Char → Bool) (context : Nat) (content : List Char) : Prop :=
  ∀ i line, (lineChars content)[i]? = some line → isMatch line = true → i + 1 + context < Nat.pow 2 64

/-! ## One match -/

def matchAt (texts : List String) (context i : Nat) (text : String) : LineMatch :=
  ⟨text, i + 1, (texts.take i).drop (i - context), (texts.drop (i + 1)).take context⟩

theorem matchLines_eq (isMatch : List Char → Bool) (context : Nat) (content : List Char) :
    matchLines isMatch context content = ((lineChars content).zipIdx.filter (isMatch ·.1)).map fun (line, i) =>
      matchAt ((lineChars content).map String.ofList) context i (String.ofList line) := by
  refine Eq.trans ?_ (congrFun List.filterMap_eq_map _)
  rw [matchLines, List.filterMap_filter]
  refine List.filterMap_congr fun (line, i) _ => ?_
  simp [matchAt, List.extract_eq_take_drop, List.map_drop, List.map_take, List.drop_take]

theorem matchAt?_eq (inside : i < texts.length) (fits : i + 1 + context < Nat.pow 2 64) :
    matchAt? texts context i text = some (matchAt texts context i text) := by
  have hnext : sum64? i 1 = some (i + 1) := if_pos (by omega)
  have hlast : sum64? (i + 1) context = some (i + 1 + context) := if_pos fits
  have hbefore : slice? texts (i - context) i = some ((texts.take i).drop (i - context)) :=
    if_pos ⟨Nat.sub_le _ _, Nat.le_of_lt inside⟩
  have hafter : slice? texts (i + 1) (min (i + 1 + context) texts.length) =
      some ((texts.drop (i + 1)).take context) := by
    rw [slice?, if_pos ⟨by omega, Nat.min_le_right _ _⟩, List.drop_take, Option.some.injEq, List.take_eq_take_iff,
      List.length_drop]
    omega
  simp only [matchAt?, hnext, hlast, hbefore, hafter, Option.bind_eq_bind, Option.bind_some, matchAt]
  rfl

/-- The match of a line: the line with its number, counted from 1, and the lines around it that are there. -/
structure LineMatch.Windowed (texts : List String) (context : Nat) (m : LineMatch) : Prop where
  number_pos : 0 < m.lineNumber
  line : texts[m.lineNumber - 1]? = some m.line
  before_length : m.before.length = min context (m.lineNumber - 1)
  before_suffix : m.before <:+ texts.take (m.lineNumber - 1)
  after_length : m.after.length = min context (texts.length - m.lineNumber)
  after_prefix : m.after <+: texts.drop m.lineNumber
  /-- Together they are one stretch of the text. -/
  segment : texts = texts.take (m.lineNumber - 1 - context) ++ (m.before ++ [m.line] ++ m.after) ++
    texts.drop (m.lineNumber + context)

theorem windowed_matchAt (there : texts[i]? = some text) : (matchAt texts context i text).Windowed texts context := by
  have hlt : i < texts.length := (List.getElem?_eq_some_iff.1 there).1
  refine ⟨Nat.succ_pos _, there, ?_, List.drop_suffix _ _, ?_, List.take_prefix _ _, ?_⟩
  · show ((texts.take i).drop (i - context)).length = min context i
    rw [List.length_drop, List.length_take]
    omega
  · show ((texts.drop (i + 1)).take context).length = min context (texts.length - (i + 1))
    rw [List.length_take, List.length_drop]
  · show texts = texts.take (i - context) ++
      ((texts.take i).drop (i - context) ++ [text] ++ (texts.drop (i + 1)).take context) ++ texts.drop (i + 1 + context)
    -- what stands before the line and what stands behind it are each in two pieces
    have hfront : texts.take (i - context) ++ (texts.take i).drop (i - context) = texts.take i := by
      rw [← Nat.min_eq_left (Nat.sub_le i context), ← List.take_take, Nat.min_eq_left (Nat.sub_le i context),
        List.take_append_drop]
    have hback : (texts.drop (i + 1)).take context ++ texts.drop (i + 1 + context) = texts.drop (i + 1) := by
      have happend := List.take_append_drop context (texts.drop (i + 1))
      rwa [List.drop_drop] at happend
    have hline : [text] ++ texts.drop (i + 1) = texts.drop i := by
      rw [List.drop_eq_getElem_cons hlt, (List.getElem?_eq_some_iff.1 there).2]
      rfl
    simp only [← List.append_assoc, hfront]
    rw [List.append_assoc, hback, List.append_assoc, hline, List.take_append_drop]

/-! ## All matches -/

/-- The matches in a text are its matching lines with the lines around them. -/
structure ExactWindows (isMatch : List Char → Bool) (context : Nat) (content : List Char) : Prop where
  ascending : ((matchLines isMatch context content).map (·.lineNumber)).Pairwise (· < ·)
  mem_iff : ∀ n, n ∈ (matchLines isMatch context content).map (·.lineNumber) ↔
    0 < n ∧ ∃ line, (lineChars content)[n - 1]? = some line ∧ isMatch line = true
  windowed : ∀ m ∈ matchLines isMatch context content, m.Windowed ((lineChars content).map String.ofList) context
  /-- No position is out of range, and no sum leaves 64 bits. -/
  checked : Fits isMatch context content → matchLines? isMatch context content = some (matchLines isMatch context content)

theorem mapM_eq_some {α β : Type} {f : α → Option β} {g : α → β} {xs : List α} (h : ∀ x ∈ xs, f x = some (g x)) :
    xs.mapM f = some (xs.map g) := by
  induction xs with
  | nil => rfl
  | cons x xs ih =>
    rw [List.mapM_cons, h x List.mem_cons_self, ih fun y hy => h y (List.mem_cons_of_mem x hy)]
    rfl

theorem exactWindows (isMatch : List Char → Bool) (context : Nat) (content : List Char) :
    ExactWindows isMatch context content where
  ascending := by
    have hindices : ((lineChars content).zipIdx.map (·.2)).Pairwise (· < ·) := by
      rw [List.zipIdx_map_snd]
      exact List.pairwise_lt_range'
    rw [matchLines_eq, List.map_map, List.pairwise_map]
    exact (List.Pairwise.filter _ (List.pairwise_map.1 hindices)).imp Nat.succ_lt_succ
  mem_iff n := by
    simp only [matchLines_eq, List.map_map, List.mem_map, List.mem_filter, Prod.exists, List.mem_zipIdx_iff_getElem?]
    constructor
    · rintro ⟨line, i, ⟨hline, hmatch⟩, rfl⟩
      exact ⟨Nat.succ_pos _, line, hline, hmatch⟩
    · rintro ⟨hpos, line, hline, hmatch⟩
      exact ⟨line, n - 1, ⟨hline, hmatch⟩, Nat.sub_add_cancel hpos⟩
  windowed m hm := by
    rw [matchLines_eq] at hm
    obtain ⟨⟨line, i⟩, hmem, rfl⟩ := List.mem_map.1 hm
    refine windowed_matchAt ?_
    rw [List.getElem?_map, List.mem_zipIdx_iff_getElem?.1 (List.mem_filter.1 hmem).1]
    rfl
  checked fits := by
    rw [matchLines_eq]
    refine mapM_eq_some fun (line, i) hmem => ?_
    obtain ⟨hline, hmatch⟩ := List.mem_filter.1 hmem
    have there : (lineChars content)[i]? = some line := List.mem_zipIdx_iff_getElem?.1 hline
    have inside : i < (lineChars content).length := (List.getElem?_eq_some_iff.1 there).1
    exact matchAt?_eq (by rwa [List.length_map]) (fits i line there hmatch)

/-! ## The lines that a request can ask for -/

/-- A text in memory has fewer than 2^63 characters, so what a request can ask for always fits. -/
theorem fits_parseContext (value : String) (inMemory : content.length < Nat.pow 2 63) :
    Fits isMatch (Params.parseContext value) content := by
  intro i line there _
  have hlt : i < (lineChars content).length := (List.getElem?_eq_some_iff.1 there).1
  have hlines := length_lineChars_le content
  have hcontext : Params.parseContext value ≤ 20 := Params.parseContext_le value
  simp only [Nat.pow_eq] at inMemory ⊢
  omega

/-- Whatever the query, the text and the number of lines asked for, the matches are the matching lines, each with
exactly the lines around it; and all positions are in range, for every number of lines that a request can ask for
and for every larger one that fits. -/
theorem matchLines_exact (isMatch : List Char → Bool) (content : List Char) :
    (∀ context, ExactWindows isMatch context content) ∧
      ∀ value, content.length < Nat.pow 2 63 →
        matchLines? isMatch (Params.parseContext value) content =
          some (matchLines isMatch (Params.parseContext value) content) :=
  ⟨fun context => exactWindows isMatch context content,
    fun value inMemory => (exactWindows isMatch _ content).checked (fits_parseContext value inMemory)⟩

/-- At the edges of a text the lines around a match are those that are there. -/
theorem matchLines_edges : ExactWindows (· == "hit".toList) 5 "hit\r\nlast".toList ∧
    matchLines? (· == "hit".toList) (Params.parseContext "5") "hit\r\nlast".toList =
      some [⟨"hit", 1, [], ["last"]⟩] := by
  obtain ⟨windows, checked⟩ := matchLines_exact (· == "hit".toList) "hit\r\nlast".toList
  exact ⟨windows 5, (checked "5" (by decide)).trans (by rfl)⟩

end CodeSearch
