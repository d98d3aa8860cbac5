import CodeSearch.Proofs.Url.Percent
import CodeSearch.Url.Basic

/-!
# Hosts and schemes as they are written

No text of a host or a scheme holds a character at which a reader of URLs ends a part of one, nor a line end.
-/

namespace CodeSearch.Url

variable {c : Char} {cs : List Char} {s : String} {h : Host} {u : Url}

/-- Characters at which a part of a URL ends, or the line that it stands on. -/
def marks : List Char := ['\n', '/', '?', '#', '@']

def isMark (c : Char) : Bool := marks.contains c

def Unmarked (cs : List Char) : Prop := ∀ c ∈ cs, isMark c = false

instance : Decidable (Unmarked cs) := List.decidableBAll _ cs

theorem unmarked_append {cs ds : List Char} (front : Unmarked cs) (back : Unmarked ds) : Unmarked (cs ++ ds) :=
  fun c hc => (List.mem_append.1 hc).elim (front c) (back c)

theorem unmarked_of {p : Char → Bool} (none : marks.any p = false) (h : p c = true) : isMark c = false := by
  rw [List.any_eq_false] at none
  by_contra hmark
  rw [Bool.not_eq_false, isMark, List.contains_iff_mem] at hmark
  exact none c hmark h

theorem unmarked_intercalate {sep : List Char} {parts : List (List Char)} (hsep : Unmarked sep)
    (hparts : ∀ part ∈ parts, Unmarked part) : Unmarked (List.intercalate sep parts) := by
  match parts with
  | [] => exact nofun
  | [part] =>
    rw [List.intercalate_singleton]
    exact hparts part (by simp)
  | part :: next :: parts =>
    rw [List.intercalate_cons_cons]
    refine unmarked_append (unmarked_append (hparts part (by simp)) hsep) ?_
    exact unmarked_intercalate hsep fun other hother => hparts other (List.mem_cons_of_mem part hother)

theorem unmarked_toString (n : Nat) : Unmarked (toString n).toList := by
  intro c hc
  have hdigits : (toString n).toList = Nat.toDigits 10 n := String.toList_ofList
  rw [hdigits] at hc
  exact unmarked_of (by decide) (Nat.isDigit_of_mem_toDigits (by decide) (by decide) hc)

/-! ## Domain names -/

open Domain

theorem unmarked_digit : ∀ n < 36, isMark (digit n) = false := by decide

theorem threshold_le (k bias : Nat) : threshold k bias ≤ 26 := by
  unfold threshold
  split
  · omega
  · split <;> omega

theorem unmarked_variableDigits (fuel q k bias : Nat) : Unmarked (variableDigits fuel q k bias) := by
  induction fuel generalizing q k with
  | zero => exact nofun
  | succ fuel ih =>
    have hthreshold := threshold_le k bias
    unfold variableDigits
    dsimp only
    split
    · rename_i hlt
      intro c hc
      rw [List.mem_singleton.1 hc]
      exact unmarked_digit q (by omega)
    · intro c hc
      rcases List.mem_cons.1 hc with rfl | hc
      · have hmod : (q - threshold k bias) % (base - threshold k bias) < base - threshold k bias :=
          Nat.mod_lt _ (by rw [base]; omega)
        rw [base] at hmod
        exact unmarked_digit _ (by rw [base]; omega)
      · exact ih _ _ c hc

theorem unmarked_encodeRound (cs : List Char) (n ascii : Nat) {coder : Coder} (h : Unmarked coder.out) :
    Unmarked (encodeRound cs n ascii coder).out := by
  unfold encodeRound
  induction cs generalizing coder with
  | nil => exact h
  | cons c cs ih =>
    rw [List.foldl_cons]
    refine ih ?_
    split
    · exact h
    · split
      · refine unmarked_append (fun c hc => ?_) h
        exact unmarked_variableDigits _ _ _ _ c (List.mem_reverse.1 hc)
      · exact h

theorem unmarked_encodeFrom (cs : List Char) (ascii fuel n : Nat) {coder : Coder} (h : Unmarked coder.out) :
    Unmarked (encodeFrom cs ascii fuel n coder) := by
  have hout {coder : Coder} (h : Unmarked coder.out) : Unmarked coder.out.reverse :=
    fun c hc => h c (List.mem_reverse.1 hc)
  induction fuel generalizing n coder with
  | zero => exact hout h
  | succ fuel ih =>
    unfold encodeFrom
    split
    · exact hout h
    · exact ih _ (unmarked_encodeRound cs _ ascii h)

theorem unmarked_label {label : List Char} (h : label? cs = some label) : Unmarked label := by
  unfold label? at h
  split at h
  · cases h
  rename_i hforbidden
  have hcs : Unmarked cs := fun c hc => by
    rw [Bool.not_eq_true, List.any_eq_false] at hforbidden
    exact unmarked_of (p := fun c => !isForbidden c) (by decide) (by simpa using hforbidden c hc)
  split at h
  · cases h
    exact hcs
  split at h
  · cases h
  cases h
  refine unmarked_append (by decide) (unmarked_append ?_ (unmarked_encodeFrom _ _ _ _ nofun))
  have hplain : Unmarked (cs.filter (·.toNat < 0x80)) := fun c hc => hcs c (List.mem_filter.1 hc).1
  split
  · exact nofun
  · exact unmarked_append hplain (by decide)

theorem exists_of_mem_mapM {α β : Type} {f : α → Option β} {xs : List α} {ys : List β} (h : xs.mapM f = some ys) :
    ∀ y ∈ ys, ∃ x ∈ xs, f x = some y := by
  induction xs generalizing ys with
  | nil =>
    cases h
    exact nofun
  | cons x xs ih =>
    rw [List.mapM_cons] at h
    obtain ⟨y, hy, h⟩ := Option.bind_eq_some_iff.1 h
    obtain ⟨more, hmore, h⟩ := Option.bind_eq_some_iff.1 h
    cases h
    intro z hz
    rcases List.mem_cons.1 hz with rfl | hz
    · exact ⟨x, by simp, hy⟩
    · obtain ⟨x', hx', hfound⟩ := ih hmore z hz
      exact ⟨x', List.mem_cons_of_mem x hx', hfound⟩

theorem unmarked_toAscii {name : String} (h : toAscii? cs = some name) : Unmarked name.toList := by
  obtain ⟨labels, hlabels, hname⟩ := Option.bind_eq_some_iff.1 h
  cases hname
  rw [String.toList_ofList]
  refine unmarked_intercalate (by decide) fun label hlabel => ?_
  obtain ⟨cs, -, hcs⟩ := exists_of_mem_mapM hlabels label hlabel
  exact unmarked_label hcs

/-! ## Addresses -/

theorem unmarked_join {sep : String} {parts : List String} (hsep : Unmarked sep.toList)
    (hparts : ∀ part ∈ parts, Unmarked part.toList) : Unmarked (String.intercalate sep parts).toList := by
  rw [String.toList_intercalate]
  refine unmarked_intercalate hsep fun part hpart => ?_
  obtain ⟨s, hs, rfl⟩ := List.mem_map.1 hpart
  exact hparts s hs

theorem unmarked_ipv4 (address : Nat) : Unmarked (Ipv4.text address).toList := by
  refine unmarked_join (by decide) fun part hpart => ?_
  obtain ⟨i, -, rfl⟩ := List.mem_map.1 hpart
  exact unmarked_toString _

theorem unmarked_lowerHex (n : Nat) : Unmarked (Text.lowerHex n).toList := by
  have hdigit : ∀ n < 16, Unmarked (String.singleton (Text.lowerHexDigit n)).toList := by
    decide
  induction n using Text.lowerHex.induct with
  | case1 n low =>
    rw [Text.lowerHex, if_pos low]
    exact hdigit n low
  | case2 n high ih =>
    rw [Text.lowerHex, if_neg high, String.toList_append]
    exact unmarked_append ih (hdigit _ (Nat.mod_lt _ (by decide)))

theorem unmarked_ipv6 (groups : List Nat) : Unmarked (Ipv6.text groups).toList := by
  have hhex (gs : List Nat) : Unmarked (String.intercalate ":" (gs.map Text.lowerHex)).toList := by
    refine unmarked_join (by decide) fun part hpart => ?_
    obtain ⟨g, -, rfl⟩ := List.mem_map.1 hpart
    exact unmarked_lowerHex g
  unfold Ipv6.text
  dsimp only
  split
  · exact hhex _
  · rw [String.toList_append, String.toList_append]
    exact unmarked_append (unmarked_append (hhex _) (by decide)) (hhex _)

/-! ## Hosts -/

/-- Encoding brings in no mark. -/
theorem unmarked_encodeChars (inSet : UInt8 → Bool) (h : Unmarked cs) : Unmarked (encodeChars inSet cs).toList := by
  intro c hc
  rw [encodeChars, Percent.encode, Percent.asciiText, String.toList_ofList] at hc
  obtain ⟨b, hb, rfl⟩ := List.mem_map.1 hc
  rcases Percent.mem_encodeBytes hb with rfl | digit | ⟨hin, low, -⟩
  · decide
  · have hhex : Text.isHexDigit (Char.ofNat b.toNat) = true := by
      rwa [Percent.digit?, if_pos (Percent.low_of_digit digit)] at digit
    exact unmarked_of (by decide) hhex
  · rw [Utf8.encode, String.toList_ofList] at hin
    obtain ⟨d, hd, hbd⟩ := List.mem_flatMap.1 hin
    rw [← Utf8.toNat_eq_of_mem_encode hbd (UInt8.lt_iff_toNat_lt.1 low), Char.ofNat_toNat]
    exact h d hd

theorem unmarked_readHost {special : Bool} (read : readHost special cs = .ok h) : Unmarked h.text.toList := by
  unfold readHost at read
  split at read
  · unfold bracketHost at read
    split at read
    · split at read
      · cases read
        rw [Host.text, String.toList_append, String.toList_append]
        exact unmarked_append (unmarked_append (by decide) (unmarked_ipv6 _)) (by decide)
      · cases read
    · cases read
  split at read
  · split at read
    · cases read
    · cases read
      rename_i hforbidden
      refine unmarked_encodeChars isControl fun c hc => ?_
      rw [Bool.not_eq_true, List.any_eq_false] at hforbidden
      exact unmarked_of (p := fun c => !isForbiddenHostChar c) (by decide) (by simpa using hforbidden c hc)
  · split at read
    · cases read
    · rename_i name hname
      obtain ⟨cs', -, hascii⟩ := Option.bind_eq_some_iff.1 hname
      split at read
      · cases read
      split at read
      · split at read
        · cases read
          exact unmarked_ipv4 _
        · cases read
      · cases read
        exact unmarked_toAscii hascii

/-! ## URLs -/

theorem unmarked_scheme {scheme : String} {rest : List Char} (read : scheme? cs = some (scheme, rest)) :
    Unmarked scheme.toList := by
  have hlower : ∀ c : Char, (c.isAlphanum || c == '+' || c == '-' || c == '.') = true →
      isMark (Charset.asciiLower c) = false := by
    intro c hc
    unfold Charset.asciiLower
    split
    · rename_i hupper
      rw [Bool.and_eq_true, decide_eq_true_eq, decide_eq_true_eq] at hupper
      have hlow : ∀ n ≤ 90, 65 ≤ n → isMark (Char.ofNat (n + 32)) = false := by decide
      exact hlow c.toNat hupper.2 hupper.1
    · exact unmarked_of (p := fun c => c.isAlphanum || c == '+' || c == '-' || c == '.') (by decide) hc
  unfold scheme? at read
  dsimp only at read
  split at read
  · split at read
    · cases read
      intro c hc
      rw [String.toList_ofList] at hc
      obtain ⟨d, hd, rfl⟩ := List.mem_map.1 hc
      exact hlower d (List.all_eq_true.1 List.all_takeWhile d hd)
    · cases read
  · cases read

/-- A URL of which no text of the scheme or the host holds a mark. -/
structure Clean (u : Url) : Prop where
  scheme : Unmarked u.scheme.toList
  host : ∀ h, u.host = some h → Unmarked h.text.toList

theorem clean_afterSlashes {scheme : String} (hscheme : Unmarked scheme.toList)
    (read : afterSlashes scheme cs = .ok u) : Clean u := by
  unfold afterSlashes at read
  simp only [bind, Except.bind, pure, Except.pure, throw, throwThe, MonadExceptOf.throw] at read
  split at read
  · cases read
  split at read
  · cases read
  split at read
  · cases read
  rename_i host hhost
  have hclean : ∀ h, some host = some h → Unmarked h.text.toList := by
    intro h hh
    cases hh
    exact unmarked_readHost hhost
  split at read
  · split at read <;> cases read
    exact ⟨hscheme, hclean⟩
  · cases read
    exact ⟨hscheme, hclean⟩

theorem clean_fileUrl (read : fileUrl cs = .ok u) : Clean u := by
  have hscheme : Unmarked "file".toList := by decide
  unfold fileUrl at read
  simp only [bind, Except.bind, pure, Except.pure] at read
  split at read
  · cases read
    exact ⟨hscheme, nofun⟩
  split at read
  · cases read
    exact ⟨hscheme, nofun⟩
  · cases hread : readHost true ((cs.drop 2).takeWhile fun c => !endsAuthority true c) with
    | error e =>
      rw [hread] at read
      cases read
    | ok host =>
      rw [hread] at read
      cases read
      refine ⟨hscheme, fun h hhost => ?_⟩
      change (if some host == some (.domain "localhost") then none else some host) = some h at hhost
      split at hhost
      · cases hhost
      · cases hhost
        exact unmarked_readHost hread

theorem clean_of_parse {text : String} (read : parse text = .ok u) : Clean u := by
  unfold parse at read
  dsimp only at read
  split at read
  · cases read
  rename_i scheme rest hfound
  have hscheme := unmarked_scheme hfound
  split at read
  · exact clean_fileUrl read
  split at read
  · exact clean_afterSlashes hscheme read
  split at read
  · exact clean_afterSlashes hscheme read
  all_goals
    cases read
    exact ⟨hscheme, nofun⟩

end CodeSearch.Url
