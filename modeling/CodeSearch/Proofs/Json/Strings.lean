import CodeSearch.Json.Printer
import CodeSearch.Json.Reader
import CodeSearch.Proofs.Text.Encoding

/-!
# Strings in JSON

What is written between quotes is read as the text it was written from, whatever characters it holds: an
escape as its character, and every other byte as itself.
-/

namespace CodeSearch.Json

open Text

/-- A byte that stands for itself between quotes. -/
def IsPlainByte (b : UInt8) : Prop := 0x20 ≤ b ∧ b ≠ 0x22 ∧ b ≠ 0x5C

theorem string?_plain {b : UInt8} (plain : IsPlainByte b) (acc rest : Bytes) :
    string? acc true none (b :: rest) = string? (b :: acc) true none rest := by
  obtain ⟨hprint, hquote, hslash⟩ := plain
  have hprint : ¬b < 0x20 := UInt8.not_lt.2 hprint
  have hbad : (decide (b < 0x20) || b == 0x5C) = false := by simp [hprint, hslash]
  rw [string?.eq_def]
  split
  · simp_all
  · simp_all
  · simp_all
  · simp_all
  · next heq =>
    cases heq
    rw [hbad]
    rfl

theorem string?_plains {bs : Bytes} (plain : ∀ b ∈ bs, IsPlainByte b) (acc rest : Bytes) :
    string? acc true none (bs ++ rest) = string? (bs.reverse ++ acc) true none rest := by
  induction bs generalizing acc with
  | nil => rfl
  | cons b bs ih =>
    rw [List.cons_append, string?_plain (plain b List.mem_cons_self),
      ih fun other h => plain other (List.mem_cons_of_mem _ h)]
    simp

theorem hexFour?_lowerHexDigit : ∀ n < 0x20, hexFour? 0x30 0x30 (UInt8.ofNat (lowerHexDigit (n / 16)).toNat)
    (UInt8.ofNat (lowerHexDigit (n % 16)).toNat) = some n := by
  decide

theorem lowerHexDigit_ascii : ∀ n < 16, (lowerHexDigit n).toNat < 0x80 := by
  decide

theorem string?_code {a b c d : UInt8} {n : Nat} (hex : hexFour? a b c d = some n) (low : n < 0xD800)
    (acc rest : Bytes) :
    string? acc true none (0x5C :: 0x75 :: a :: b :: c :: d :: rest) =
      string? ((encodeCode n).reverse ++ acc) true none rest := by
  have hhigh : (decide (0xD800 ≤ n) && decide (n < 0xDC00)) = false := by simp; omega
  have hlow : (decide (0xDC00 ≤ n) && decide (n < 0xE000)) = false := by simp; omega
  simp only [string?, hex, hhigh, hlow, Bool.false_eq_true, if_false]

theorem isPlainByte_of_mem {c : Char} (quote : c ≠ '"') (slash : c ≠ '\\') (print : ¬c.toNat < 0x20) :
    ∀ b ∈ String.utf8EncodeChar c, IsPlainByte b := by
  intro b hb
  have hascii : b.toNat < 0x80 → c.toNat = b.toNat := Utf8.toNat_eq_of_mem_encode hb
  refine ⟨UInt8.le_iff_toNat_le.2 ?_, fun h => quote ?_, fun h => slash ?_⟩
  · simp only [UInt8.reduceToNat]
    omega
  · subst h
    exact Char.toNat_inj.1 (hascii (by decide))
  · subst h
    exact Char.toNat_inj.1 (hascii (by decide))

/-- What one character becomes between quotes is read as the character. -/
theorem string?_escapeChar (c : Char) (acc rest : Bytes) :
    string? acc true none (Utf8.encodeChars (escapeChar c) ++ rest) =
      string? ((String.utf8EncodeChar c).reverse ++ acc) true none rest := by
  unfold escapeChar
  split
  · rfl
  · rfl
  · rfl
  · rfl
  · rfl
  · rfl
  · rfl
  · rename_i quote slash _ _ _ _ _
    split
    · rename_i hcontrol
      have hbytes : Utf8.encodeChars ['\\', 'u', '0', '0', lowerHexDigit (c.toNat / 16),
          lowerHexDigit (c.toNat % 16)] = [0x5C, 0x75, 0x30, 0x30,
            UInt8.ofNat (lowerHexDigit (c.toNat / 16)).toNat,
            UInt8.ofNat (lowerHexDigit (c.toNat % 16)).toNat] := by
        simp only [Utf8.encodeChars_cons, Utf8.encodeChars_nil,
          Utf8.encodeChar_ascii (lowerHexDigit_ascii (c.toNat / 16) (by omega)),
          Utf8.encodeChar_ascii (lowerHexDigit_ascii (c.toNat % 16) (by omega))]
        rfl
      rw [hbytes]
      have hread := string?_code (hexFour?_lowerHexDigit c.toNat hcontrol) (by omega) acc rest
      rwa [encodeCode, Char.ofNat_toNat] at hread
    · rename_i hprint
      rw [Utf8.encodeChars_cons, Utf8.encodeChars_nil, List.append_nil]
      exact string?_plains (isPlainByte_of_mem quote slash hprint) acc rest

theorem string?_escapeChars (cs : List Char) (acc rest : Bytes) :
    string? acc true none (Utf8.encodeChars (cs.flatMap escapeChar) ++ 0x22 :: rest) =
      some (Utf8.decode? (acc.reverse ++ Utf8.encodeChars cs), rest) := by
  induction cs generalizing acc with
  | nil => simp [string?]
  | cons c cs ih =>
    rw [List.flatMap_cons, Utf8.encodeChars_append, List.append_assoc, string?_escapeChar, ih]
    simp [Utf8.encodeChars_cons]

def quoteBytes (s : String) : Bytes := Utf8.encodeChars (quote s)

/-- What is written between quotes is read as the text, and the reader stops after the closing quote. -/
theorem string?_quote (s : String) (rest : Bytes) :
    ∃ bs, quoteBytes s = 0x22 :: bs ∧ string? [] true none (bs ++ rest) = some (some s, rest) := by
  refine ⟨Utf8.encodeChars (s.toList.flatMap escapeChar) ++ [0x22], ?_, ?_⟩
  · rw [quoteBytes, quote, List.cons_append, Utf8.encodeChars_cons, Utf8.encodeChars_append]
    rfl
  · have hread := string?_escapeChars s.toList [] rest
    rw [List.append_assoc]
    rwa [List.reverse_nil, List.nil_append, ← Utf8.encode, Utf8.decode?_encode] at hread

end CodeSearch.Json
