import CodeSearch.Discovery.Link
import CodeSearch.Proofs.Text.Ends
import Mathlib.Data.List.Basic

/-!
# Links read back

A header holds its links one after another, each with its target in angle brackets and its relation in quotes. As
long as no part of a link is taken for what stands between links, the header is cut apart into the links it was
made of; and the target of each link to a next page is read back whole, whatever stands inside it.
-/

namespace CodeSearch.Link

/-- A link to a page, and how that page is related to the one it comes with. -/
structure Entry where
  url : String
  rel : String

def Entry.text (e : Entry) : String := "<" ++ e.url ++ ">; rel=\"" ++ e.rel ++ "\""

def header (entries : List Entry) : String := ", ".intercalate (entries.map Entry.text)

/-- Nothing in a text is taken for the end of a link. -/
def Unbroken (cs : List Char) : Prop := ¬[',', ' '] <:+: cs

instance (cs : List Char) : Decidable (Unbroken cs) := inferInstanceAs (Decidable ¬[',', ' '] <:+: cs)

/-- A link of which every part can be told from what is written around it. -/
structure Entry.Plain (e : Entry) : Prop where
  url_ne_empty : e.url ≠ ""
  url_unbroken : Unbroken e.url.toList
  url_head : e.url.toList.head? ≠ some '<'
  url_last : e.url.toList.getLast? ≠ some '>'
  rel_unquoted : '"' ∉ e.rel.toList
  rel_unbroken : Unbroken e.rel.toList

variable {e : Entry} {entries : List Entry} {acc cs ds rest : List Char} {c : Char}

/-! ## Links apart -/

theorem unbroken_cons : Unbroken (c :: cs) ↔ (c = ',' → cs.head? ≠ some ' ') ∧ Unbroken cs := by
  have hpair : [',', ' '] <+: c :: cs ↔ c = ',' ∧ cs.head? = some ' ' := by
    cases cs <;> simp [List.cons_prefix_cons, eq_comm]
  rw [Unbroken, List.infix_cons_iff, hpair, not_or, not_and]
  rfl

theorem unbroken_append (front : Unbroken cs) (back : Unbroken ds)
    (border : cs.getLast? = some ',' → ds.head? ≠ some ' ') : Unbroken (cs ++ ds) := by
  induction cs with
  | nil => exact back
  | cons c cs ih =>
    obtain ⟨hnext, hcs⟩ := unbroken_cons.1 front
    cases cs with
    | nil => exact unbroken_cons.2 ⟨fun hc => border (by rw [hc]; rfl), back⟩
    | cons d cs => exact unbroken_cons.2 ⟨hnext, ih hcs fun hlast => border (by rwa [List.getLast?_cons_cons])⟩

theorem piecesFrom_cons (next : c = ',' → cs.head? ≠ some ' ') :
    piecesFrom acc (c :: cs) = piecesFrom (c :: acc) cs := by
  rw [piecesFrom]
  rintro rest rfl rfl
  exact next rfl rfl

theorem piecesFrom_append (unbroken : Unbroken cs) :
    piecesFrom acc (cs ++ ',' :: ' ' :: rest) = (acc.reverse ++ cs) :: piecesFrom [] rest := by
  induction cs generalizing acc with
  | nil => rw [List.nil_append, piecesFrom, List.append_nil]
  | cons c cs ih =>
    obtain ⟨hnext, hcs⟩ := unbroken_cons.1 unbroken
    have hkeep : c = ',' → (cs ++ ',' :: ' ' :: rest).head? ≠ some ' ' := by
      cases cs with
      | nil => exact fun _ => by simp
      | cons d cs => exact hnext
    rw [List.cons_append, piecesFrom_cons hkeep, ih hcs]
    simp

theorem piecesFrom_of_unbroken (unbroken : Unbroken cs) : piecesFrom acc cs = [acc.reverse ++ cs] := by
  induction cs generalizing acc with
  | nil => rw [piecesFrom, List.append_nil]
  | cons c cs ih =>
    obtain ⟨hnext, hcs⟩ := unbroken_cons.1 unbroken
    rw [piecesFrom_cons hnext, ih hcs]
    simp

/-- Texts that were put together are cut apart again. -/
theorem pieces_intercalate {texts : List (List Char)} (unbroken : ∀ text ∈ texts, Unbroken text)
    (some_text : texts ≠ []) : piecesFrom [] ([',', ' '].intercalate texts) = texts := by
  induction texts with
  | nil => exact absurd rfl some_text
  | cons text texts ih =>
    have htext := unbroken text List.mem_cons_self
    cases texts with
    | nil => rw [List.intercalate_singleton, piecesFrom_of_unbroken htext]; rfl
    | cons other texts =>
      have hothers := ih (fun t ht => unbroken t (List.mem_cons_of_mem _ ht)) (List.cons_ne_nil _ _)
      rw [List.intercalate_cons_cons, List.append_assoc, List.cons_append, List.cons_append, List.nil_append,
        piecesFrom_append htext, hothers]
      rfl

/-! ## One link -/

theorem nextMark_eq : nextMark = [';', ' ', 'r', 'e', 'l', '=', '"', 'n', 'e', 'x', 't', '"'] := by decide

theorem Entry.toList_text (e : Entry) : e.text.toList =
    '<' :: (e.url.toList ++ ['>', ';', ' ', 'r', 'e', 'l', '=', '"'] ++ (e.rel.toList ++ ['"'])) := by
  simp [Entry.text, String.toList_append]

theorem Entry.Plain.unbroken_text (plain : e.Plain) : Unbroken e.text.toList := by
  have hfront : Unbroken (e.url.toList ++ ['>', ';', ' ', 'r', 'e', 'l', '=', '"']) :=
    unbroken_append plain.url_unbroken (by decide) fun _ => by decide
  have hback : Unbroken (e.rel.toList ++ ['"']) := unbroken_append plain.rel_unbroken (by decide) fun _ => by decide
  have hborder : (e.url.toList ++ ['>', ';', ' ', 'r', 'e', 'l', '=', '"']).getLast? ≠ some ',' := by
    rw [List.getLast?_append]
    simp
  rw [Entry.toList_text]
  exact unbroken_cons.2 ⟨nofun, unbroken_append hfront hback fun h => absurd h hborder⟩

/-- A link that ends in the mark has its relation: the last two quotes are those around it. -/
theorem Entry.Plain.rel_of_marked (plain : e.Plain) (marked : nextMark <:+ e.text.toList) : e.rel = "next" := by
  obtain ⟨front, hfront⟩ := marked
  have hback := congrArg List.reverse hfront
  rw [nextMark_eq, Entry.toList_text] at hback
  simp only [List.reverse_append, List.reverse_cons, List.reverse_nil, List.nil_append, List.cons_append,
    List.append_assoc, List.cons.injEq, true_and] at hback
  -- read from its end, a link has its relation between the first two quotes
  have hquote := congrArg (List.takeWhile (· != '"')) hback
  rw [Text.takeWhile_ne_append (by simpa using plain.rel_unquoted)] at hquote
  have hrel : e.rel.toList = "next".toList := List.reverse_inj.1 hquote.symm
  exact String.toList_inj.1 hrel

theorem Entry.text_of_next (h : e.rel = "next") :
    e.text.toList = '<' :: (e.url.toList ++ ['>']) ++ nextMark := by
  rw [Entry.toList_text, h, nextMark_eq]
  simp

theorem Entry.Plain.unbracket (plain : e.Plain) :
    Text.dropBackWhile (· == '>') (('<' :: (e.url.toList ++ ['>'])).dropWhile (· == '<')) = e.url.toList := by
  have hurl : e.url.toList ≠ [] := by simpa using plain.url_ne_empty
  have hhead : ∀ c ∈ (e.url.toList ++ ['>']).head?, (c == '<') = false := by
    intro c hc
    rw [List.head?_append_of_ne_nil _ hurl] at hc
    exact beq_false_of_ne fun heq => plain.url_head (heq ▸ hc)
  have hlast : ∀ c ∈ e.url.toList.getLast?, (c == '>') = false := fun c hc =>
    beq_false_of_ne fun heq => plain.url_last (heq ▸ hc)
  rw [List.dropWhile_cons_of_pos (by decide), Text.dropWhile_of_head? hhead, Text.dropBackWhile_concat (by decide),
    Text.dropBackWhile_of_getLast? hlast]

theorem Entry.Plain.target?_text (plain : e.Plain) :
    target? e.text.toList = if e.rel = "next" then some e.url.toList else none := by
  by_cases hnext : e.rel = "next"
  · have hlink : e.text.toList.take (e.text.toList.length - nextMark.length) = '<' :: (e.url.toList ++ ['>']) := by
      rw [Entry.text_of_next hnext, List.length_append, Nat.add_sub_cancel, List.take_left]
    have hmarked : nextMark.isSuffixOf e.text.toList = true := by
      rw [List.isSuffixOf_iff_suffix, Entry.text_of_next hnext]
      exact List.suffix_append _ _
    rw [target?, if_pos hmarked, if_pos hnext, hlink]
    exact congrArg some plain.unbracket
  · have hunmarked : ¬nextMark.isSuffixOf e.text.toList = true := fun hmarked =>
      hnext (plain.rel_of_marked (List.isSuffixOf_iff_suffix.1 hmarked))
    rw [target?, if_neg hunmarked, if_neg hnext]

/-! ## A header -/

theorem pieces_header (plain : ∀ e ∈ entries, e.Plain) (some_entry : entries ≠ []) :
    piecesFrom [] (header entries).toList = entries.map (·.text.toList) := by
  have hheader : (header entries).toList = [',', ' '].intercalate (entries.map (·.text.toList)) := by
    rw [header, String.toList_intercalate, List.map_map]
    rfl
  rw [hheader]
  refine pieces_intercalate (fun text htext => ?_) (by simpa using some_entry)
  obtain ⟨e, he, rfl⟩ := List.mem_map.1 htext
  exact (plain e he).unbroken_text

theorem targets_header (plain : ∀ e ∈ entries, e.Plain) :
    (piecesFrom [] (header entries).toList).filterMap target? =
      (entries.filter (·.rel = "next")).map (·.url.toList) := by
  by_cases hnone : entries = []
  · rw [hnone]
    decide
  · rw [pieces_header plain hnone, List.filterMap_map]
    have htargets : ∀ e ∈ entries, (target? ∘ fun e : Entry => e.text.toList) e =
        if e.rel = "next" then some e.url.toList else none := fun e he => (plain e he).target?_text
    rw [List.filterMap_congr htargets, ← List.filterMap_eq_map, List.filterMap_filter]
    simp only [decide_eq_true_eq, Function.comp_apply]

/-- The next page is read from a header as it was written: the last link that names one. -/
theorem findsNext_of_plain (plain : ∀ e ∈ entries, e.Plain) :
    next? (header entries) = ((entries.filter (·.rel = "next")).getLast?).map (·.url) := by
  rw [next?, targets_header plain, List.getLast?_map]
  cases hlast : (entries.filter (·.rel = "next")).getLast? with
  | none => rfl
  | some e =>
    have hmem : e ∈ entries := (List.mem_filter.1 (List.mem_of_getLast? hlast)).1
    cases hurl : e.url.toList with
    | nil => exact absurd (String.toList_eq_nil_iff.1 hurl) (plain e hmem).url_ne_empty
    | cons c cs =>
      simp only [Option.map_some, hurl]
      rw [← hurl, String.ofList_toList]

/-- Targets that hold what links are made of; the last link to a next page is not the last of all. -/
def oddLinks : List Entry :=
  [⟨"u;rel=\"next\"", "next"⟩, ⟨",a>; rel=\"x\",<b>c;,", "next"⟩, ⟨"=", " prev next,"⟩]

theorem findsNext_oddLinks :
    (∀ e ∈ oddLinks, e.Plain) ∧ next? (header oddLinks) = some ",a>; rel=\"x\",<b>c;," := by
  have hplain : ∀ e ∈ oddLinks, e.Plain := by
    simp only [oddLinks, List.forall_mem_cons, List.not_mem_nil, false_implies, implies_true, and_true]
    refine ⟨?_, ?_, ?_⟩ <;> constructor <;> decide +kernel
  exact ⟨hplain, (findsNext_of_plain hplain).trans (by simp [oddLinks])⟩

end CodeSearch.Link
