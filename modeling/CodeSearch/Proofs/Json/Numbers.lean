import CodeSearch.Json.Printer
import CodeSearch.Json.Reader
import CodeSearch.Proofs.Text.Digits
import CodeSearch.Proofs.Text.Encoding
import CodeSearch.Proofs.Text.Ends

/-!
# Numbers in JSON

Every number is written with a sign, digits, a fraction and an exponent in the form the reader takes, and
what follows the number ends it. So the parts that are read are the parts that were written; the value may
differ, as the reader drops digits that 64 bits do not hold.
-/

namespace CodeSearch

namespace Json

open Text

/-! ## Runs of digits -/

def EndsNumber (rest : Bytes) : Prop :=
  ∀ b ∈ rest.head?, isDigitByte b = false ∧ b ≠ 0x2E ∧ b ≠ 0x65 ∧ b ≠ 0x45

theorem encodeChars_digits {ds : List Char} (digits : ∀ c ∈ ds, isDigit c = true) :
    Utf8.encodeChars ds = ds.map fun c => UInt8.ofNat c.toNat := by
  induction ds with
  | nil => rfl
  | cons c ds ih =>
    have hc := isDigit_iff.1 (digits c List.mem_cons_self)
    rw [Utf8.encodeChars_cons, Utf8.encodeChar_ascii (by omega), ih fun d hd => digits d (List.mem_cons_of_mem _ hd)]
    rfl

theorem isDigitByte_of_isDigit {c : Char} (h : isDigit c = true) : isDigitByte (UInt8.ofNat c.toNat) = true := by
  have hc := isDigit_iff.1 h
  simp only [isDigitByte, Bool.and_eq_true, decide_eq_true_eq, UInt8.le_iff_toNat_le, UInt8.toNat_ofNat',
    UInt8.reduceToNat]
  omega

theorem digitOfByte_ofNat {c : Char} (h : isDigit c = true) : digitOfByte (UInt8.ofNat c.toNat) = digitValue c := by
  have hc := isDigit_iff.1 h
  simp only [digitOfByte, digitValue, UInt8.toNat_ofNat']
  omega

theorem isDigitByte_of_mem {ds : List Char} (digits : ∀ c ∈ ds, isDigit c = true) :
    ∀ b ∈ Utf8.encodeChars ds, isDigitByte b = true := by
  intro b hb
  rw [encodeChars_digits digits] at hb
  obtain ⟨c, hc, rfl⟩ := List.mem_map.1 hb
  exact isDigitByte_of_isDigit (digits c hc)

theorem map_digitOfByte {ds : List Char} (digits : ∀ c ∈ ds, isDigit c = true) :
    (Utf8.encodeChars ds).map digitOfByte = ds.map digitValue := by
  rw [encodeChars_digits digits, List.map_map]
  exact List.map_congr_left fun c hc => digitOfByte_ofNat (digits c hc)

theorem span_digits {ds : List Char} (digits : ∀ c ∈ ds, isDigit c = true) {rest : Bytes}
    (stop : ∀ b ∈ rest.head?, isDigitByte b = false) :
    (Utf8.encodeChars ds ++ rest).takeWhile isDigitByte = Utf8.encodeChars ds ∧
      (Utf8.encodeChars ds ++ rest).dropWhile isDigitByte = rest := by
  have hall := isDigitByte_of_mem digits
  rw [List.takeWhile_append_of_pos hall, List.dropWhile_append_of_pos hall, takeWhile_of_head? stop,
    dropWhile_of_head? stop, List.append_nil]
  exact ⟨rfl, rfl⟩

/-! ## Numbers as they are written -/

/-- A number as it is written. An empty fraction is left out. -/
structure Written where
  negative : Bool
  whole : List Char
  fraction : List Char
  /-- Whether it is below zero, and its digits. -/
  exponent : Option (Bool × List Char)

namespace Written

def fractionChars (w : Written) : List Char := if w.fraction.isEmpty then [] else '.' :: w.fraction

def exponentChars (w : Written) : List Char :=
  match w.exponent with
  | none => []
  | some (below, ds) => 'e' :: (if below then '-' else '+') :: ds

def signChars (negative : Bool) : List Char := if negative then ['-'] else []

def chars (w : Written) : List Char :=
  signChars w.negative ++ (w.whole ++ (w.fractionChars ++ w.exponentChars))

/-- Digits everywhere, and no zero in front of others. -/
structure Proper (w : Written) : Prop where
  whole : ∀ c ∈ w.whole, isDigit c = true
  some_whole : w.whole ≠ []
  leading : w.whole.head? = some '0' → w.whole.length = 1
  fraction : ∀ c ∈ w.fraction, isDigit c = true
  exponent : ∀ e ∈ w.exponent, e.2 ≠ [] ∧ ∀ c ∈ e.2, isDigit c = true

def numeral (w : Written) : Numeral where
  negative := w.negative
  whole := w.whole.map digitValue
  fraction := w.fraction.map digitValue
  exponent := w.exponent.map fun e => (e.1, e.2.map digitValue)

variable {w : Written} {rest : Bytes}

theorem exponent?_chars (proper : w.Proper) (ends : EndsNumber rest) :
    exponent? (Utf8.encodeChars w.exponentChars ++ rest) =
      some (w.exponent.map fun e => (e.1, e.2.map digitValue), rest) := by
  unfold exponentChars
  cases hexp : w.exponent with
  | none =>
    cases rest with
    | nil => rfl
    | cons b rest =>
      obtain ⟨-, -, hlower, hupper⟩ := ends b rfl
      simp [exponent?, hlower, hupper]
  | some e =>
    obtain ⟨below, ds⟩ := e
    obtain ⟨hsome, hdigits⟩ := proper.exponent (below, ds) hexp
    obtain ⟨htake, hdrop⟩ := span_digits hdigits fun b hb => (ends b hb).1
    have hne : (Utf8.encodeChars ds).isEmpty = false := by
      simpa [Utf8.encodeChars_eq_nil] using hsome
    have hsign : ∀ more : Bytes, Utf8.encodeChars ('e' :: (if below then '-' else '+') :: ds) ++ rest =
        0x65 :: (if below then 0x2D else 0x2B) :: (Utf8.encodeChars ds ++ rest) := by
      intro _
      cases below <;> rfl
    simp only [hsign rest]
    cases below <;> simp [exponent?, htake, hdrop, hne, map_digitOfByte hdigits]

theorem fraction?_chars (proper : w.Proper) (stop : ∀ b ∈ rest.head?, isDigitByte b = false ∧ b ≠ 0x2E) :
    fraction? (Utf8.encodeChars w.fractionChars ++ rest) = some (w.fraction.map digitValue, rest) := by
  unfold fractionChars
  split
  · rename_i hempty
    rw [List.isEmpty_iff.1 hempty]
    cases rest with
    | nil => rfl
    | cons b rest =>
      obtain ⟨-, hpoint⟩ := stop b rfl
      unfold fraction?
      split
      · next heq =>
        cases heq
        exact absurd rfl hpoint
      · rfl
  · rename_i hsome
    obtain ⟨htake, hdrop⟩ := span_digits proper.fraction fun b hb => (stop b hb).1
    have hne : (Utf8.encodeChars w.fraction).isEmpty = false := by
      simpa [Utf8.encodeChars_eq_nil] using hsome
    change fraction? (0x2E :: (Utf8.encodeChars w.fraction ++ rest)) = _
    simp [fraction?, htake, hdrop, hne, map_digitOfByte proper.fraction]

/-- Where the exponent begins, or where the number ends, the fraction does. -/
theorem head?_exponentChars (ends : EndsNumber rest) :
    ∀ b ∈ (Utf8.encodeChars w.exponentChars ++ rest).head?, isDigitByte b = false ∧ b ≠ 0x2E := by
  unfold exponentChars
  cases w.exponent with
  | none =>
    intro b hb
    exact ⟨(ends b hb).1, (ends b hb).2.1⟩
  | some e =>
    intro b hb
    obtain rfl : 0x65 = b := Option.some.inj hb
    decide

theorem head?_fractionChars (ends : EndsNumber rest) :
    ∀ b ∈ (Utf8.encodeChars w.fractionChars ++ (Utf8.encodeChars w.exponentChars ++ rest)).head?,
      isDigitByte b = false := by
  unfold fractionChars
  split
  · exact fun b hb => (head?_exponentChars ends b hb).1
  · intro b hb
    obtain rfl : 0x2E = b := Option.some.inj hb
    decide

theorem numeral?_chars (proper : w.Proper) (ends : EndsNumber rest) :
    numeral? (Utf8.encodeChars w.chars ++ rest) = some (w.numeral, rest) := by
  obtain ⟨htake, hdrop⟩ := span_digits proper.whole (head?_fractionChars (w := w) ends)
  have hfraction := fraction?_chars proper (head?_exponentChars (w := w) ends)
  have hexponent := exponent?_chars proper ends
  have hbehind : Utf8.encodeChars (w.whole ++ (w.fractionChars ++ w.exponentChars)) ++ rest =
      Utf8.encodeChars w.whole ++ (Utf8.encodeChars w.fractionChars ++
        (Utf8.encodeChars w.exponentChars ++ rest)) := by
    simp [Utf8.encodeChars_append]
  have hsome : Utf8.encodeChars w.whole ≠ [] := mt Utf8.encodeChars_eq_nil.1 proper.some_whole
  have hleading : (Utf8.encodeChars w.whole).head? = some 0x30 → (Utf8.encodeChars w.whole).length ≤ 1 := by
    rw [encodeChars_digits proper.whole, List.head?_map, List.length_map]
    intro h
    obtain ⟨c, hc, hzero⟩ := Option.map_eq_some_iff.1 h
    have hdigit := isDigit_iff.1 (proper.whole c (List.mem_of_mem_head? hc))
    have hnat : c.toNat % 256 = 48 := congrArg UInt8.toNat hzero
    have hchar : c = '0' := Char.toNat_inj.1 (show c.toNat = 48 by omega)
    exact Nat.le_of_eq (proper.leading (hchar ▸ hc))
  unfold chars signChars
  cases hneg : w.negative with
  | true =>
    change numeral? (0x2D :: (Utf8.encodeChars (w.whole ++ (w.fractionChars ++ w.exponentChars)) ++ rest)) = _
    rw [hbehind]
    simp [numeral?, htake, hdrop, hsome, hfraction, hexponent, numeral, hneg,
      map_digitOfByte proper.whole]
    exact hleading
  | false =>
    obtain ⟨b, bs, hb⟩ := List.exists_cons_of_ne_nil hsome
    have hdigit : isDigitByte b = true := isDigitByte_of_mem proper.whole b (hb ▸ List.mem_cons_self)
    have hplus : b ≠ 0x2D := by
      rintro rfl
      revert hdigit
      decide
    change numeral? (Utf8.encodeChars (w.whole ++ (w.fractionChars ++ w.exponentChars)) ++ rest) = _
    rw [hbehind]
    unfold numeral?
    split
    next negative bytes heq =>
    split at heq
    · next hminus =>
      rw [hb] at hminus
      exact absurd (List.cons.inj hminus).1 hplus
    · cases heq
      simp [htake, hdrop, hsome, hfraction, hexponent, numeral, hneg, map_digitOfByte proper.whole]
      exact hleading

end Written

/-! ## Numbers that are written -/

theorem leading_toDigits {n : Nat} (h : (Nat.toDigits 10 n).head? = some '0') :
    (Nat.toDigits 10 n).length = 1 := by
  rw [head?_toDigits h]
  rfl

def Written.ofInt (n : Int) : Written := ⟨decide (n < 0), Nat.toDigits 10 n.natAbs, [], none⟩

theorem Written.proper_ofInt (n : Int) : (Written.ofInt n).Proper where
  whole _ := isDigit_of_mem_toDigits
  some_whole := Nat.toDigits_ne_nil
  leading := leading_toDigits
  fraction := by simp [ofInt]
  exponent := by simp [ofInt]

theorem Written.chars_ofInt (n : Int) : (Written.ofInt n).chars = numberText (.int n) := by
  have htext : (toString n).toList =
      if 0 ≤ n then (Nat.toDigits 10 n.toNat) else '-' :: Nat.toDigits 10 (-n).toNat := by
    rw [Int.toString_eq_repr, Int.repr_eq_if]
    split <;> simp [Nat.toList_repr]
  rw [numberText, htext]
  unfold chars signChars fractionChars exponentChars ofInt
  by_cases hneg : n < 0
  · have habs : n.natAbs = (-n).toNat := by omega
    simp [hneg, habs, Int.not_le.2 hneg]
  · have habs : n.natAbs = n.toNat := by omega
    simp [hneg, habs, Int.not_lt.1 hneg]

end Json

namespace Double

/-- A decimal without digits of its own is zero. -/
def Decimal.Sound (d : Decimal) : Prop := d.digits ≠ 0 ∨ d = ⟨0, 0⟩

theorem sound_shortest {bits : Nat} (positive : bits ≠ 0) : (shortest bits).Sound := by
  unfold shortest
  dsimp only
  generalize hfound : List.findSome? _ _ = found
  cases found with
  | none => exact .inr rfl
  | some d =>
    obtain ⟨k, -, hd⟩ := List.exists_of_findSome?_eq_some hfound
    have hback : ofDecimal d.digits d.exponent = bits := by
      simpa [readsBack] using List.find?_some hd
    refine .inl fun hzero => positive ?_
    rw [← hback, show d.digits = 0 from hzero]
    rfl

theorem Decimal.Sound.normal {d : Decimal} (sound : d.Sound) (fuel : Nat) : (d.normal fuel).Sound := by
  induction fuel generalizing d with
  | zero => exact sound
  | succ fuel ih =>
    unfold Decimal.normal
    split
    · rename_i h
      simp only [ne_eq, decide_not, Bool.and_eq_true, Bool.not_eq_true', decide_eq_false_iff_not,
        decide_eq_true_eq] at h
      exact ih (.inl (by simp only; omega))
    · exact sound

end Double

namespace Json

open Text

namespace Written

variable {ds : List Char} {point : Int}

theorem isDigit_of_mem_zero : ∀ c ∈ ['0'], isDigit c = true :=
  List.all_eq_true.1 rfl

/-- Digits around a point make a number, unless there are zeros in front. -/
theorem exists_positional (negative : Bool) (digits : ∀ c ∈ ds, isDigit c = true) (some_digit : ds ≠ [])
    (leading : ds.head? = some '0' → ds.length = 1 ∧ point = 1) :
    ∃ w : Written, w.Proper ∧ w.chars = signChars negative ++ Double.positional ds point := by
  unfold Double.positional
  have hzeros : ∀ n, ∀ c ∈ List.replicate n '0', isDigit c = true := by
    intro n c hc
    rw [List.eq_of_mem_replicate hc]
    decide
  split
  · -- zeros behind the point, and all digits after them
    refine ⟨⟨negative, ['0'], List.replicate (-point).toNat '0' ++ ds, none⟩, ?_, ?_⟩
    · exact {
        whole := isDigit_of_mem_zero
        some_whole := List.cons_ne_nil _ _
        leading := fun _ => rfl
        fraction := List.forall_mem_append.2 ⟨hzeros _, digits⟩
        exponent := nofun }
    · simp [chars, fractionChars, exponentChars, some_digit]
  · rename_i hpoint
    dsimp only
    split
    · -- all digits, and zeros up to the point
      refine ⟨⟨negative, ds ++ List.replicate (point.toNat - ds.length) '0', ['0'], none⟩, ?_, ?_⟩
      · refine {
          whole := List.forall_mem_append.2 ⟨digits, hzeros _⟩
          some_whole := List.append_ne_nil_of_left_ne_nil some_digit _
          leading := fun h => ?_
          fraction := isDigit_of_mem_zero
          exponent := nofun }
        rw [List.head?_append_of_ne_nil _ some_digit] at h
        obtain ⟨hone, rfl⟩ := leading h
        simp [hone]
      · simp [chars, fractionChars, exponentChars]
    · rename_i hlong
      -- the point stands among the digits
      refine ⟨⟨negative, ds.take point.toNat, ds.drop point.toNat, none⟩, ?_, ?_⟩
      · refine {
          whole := fun c hc => digits c (List.mem_of_mem_take hc)
          some_whole := ?_
          leading := fun h => ?_
          fraction := fun c hc => digits c (List.mem_of_mem_drop hc)
          exponent := nofun }
        · simp [some_digit]
          omega
        · rw [List.head?_take, if_neg (by omega)] at h
          have hfirst := leading h
          omega
      · have hne : (ds.drop point.toNat).isEmpty = false := by
          simp
          omega
        simp [chars, fractionChars, exponentChars, hne]

theorem exists_scientific (negative : Bool) (digits : ∀ c ∈ ds, isDigit c = true) (some_digit : ds ≠ [])
    (exponent : Int) :
    ∃ w : Written, w.Proper ∧ w.chars = signChars negative ++ Double.scientific ds exponent := by
  obtain ⟨d, ds, rfl⟩ := List.exists_cons_of_ne_nil some_digit
  refine ⟨⟨negative, [d], ds, some (decide (exponent < 0), Nat.toDigits 10 exponent.natAbs)⟩, ?_, ?_⟩
  · refine {
      whole := fun c hc => digits c (List.mem_singleton.1 hc ▸ List.mem_cons_self)
      some_whole := List.cons_ne_nil _ _
      leading := fun _ => rfl
      fraction := fun c hc => digits c (List.mem_cons_of_mem _ hc)
      exponent := ?_ }
    rintro _ ⟨⟩
    exact ⟨Nat.toDigits_ne_nil, fun _ => isDigit_of_mem_toDigits⟩
  · have hrepr : (toString exponent.natAbs).toList = Nat.toDigits 10 exponent.natAbs := Nat.toList_repr
    unfold Double.scientific
    rw [hrepr]
    cases ds <;> simp [chars, fractionChars, exponentChars]

/-- Every number has a text that is read. -/
theorem exists_chars (n : Number) : ∃ w : Written, w.Proper ∧ w.chars = numberText n := by
  cases n with
  | int n => exact ⟨ofInt n, proper_ofInt n, chars_ofInt n⟩
  | float d =>
    obtain ⟨negative, bits⟩ := d
    have hsign : (if negative then "-" else "").toList = signChars negative := by
      cases negative <;> rfl
    unfold numberText Double.text
    dsimp only
    split
    · rename_i hzero
      refine ⟨⟨negative, ['0'], ['0'], none⟩, ?_, ?_⟩
      · exact {
          whole := isDigit_of_mem_zero
          some_whole := List.cons_ne_nil _ _
          leading := fun _ => rfl
          fraction := isDigit_of_mem_zero
          exponent := nofun }
      · rw [String.toList_append, hsign]
        rfl
    · rename_i hpositive
      have hsound := (Double.sound_shortest hpositive).normal 20
      generalize (Double.shortest bits).normal 20 = short at hsound ⊢
      have hrepr : (toString short.digits).toList = Nat.toDigits 10 short.digits := Nat.toList_repr
      rw [String.toList_append, hsign, String.toList_ofList, hrepr]
      split
      · refine exists_positional negative (fun _ => isDigit_of_mem_toDigits) Nat.toDigits_ne_nil fun hleading => ?_
        rcases hsound with hsound | rfl
        · exact absurd (head?_toDigits hleading) hsound
        · exact ⟨rfl, rfl⟩
      · exact exists_scientific negative (fun _ => isDigit_of_mem_toDigits) Nat.toDigits_ne_nil _

end Written

end Json

end CodeSearch
